import RecordMapper.Proofs.Store.Mutations

/-! # Batches and single records

A batch of records is created as its records would be, one after another by queries of their own: each of them
sees the rows, the count and the keys that the ones before it left. What differs is a refusal. Where single
creates stop at the first record that is refused and keep the ones before it, a batch keeps none of them.
-/

namespace RecordMapper

/-- The query for one record in place of the records of a query. -/
def PhysicalQuery.single (query : PhysicalQuery) (record : Record) : PhysicalQuery :=
  { query with records := [record] }

namespace Store

variable {store : Store} {datastore : String} {query : PhysicalQuery} {table next : Table} {keys : KeySupply}

/-- Create records one after another, each by a query of its own, until one is refused: what the queries answer,
or the error of the last one, and the store after them. -/
def createSingly (store : Store) (datastore : String) (query : PhysicalQuery) :
    List Record → Except AdapterError (List (Option Json)) × Store
  | [] => (.ok [], store)
  | record :: rest =>
    match store.create datastore (query.single record) with
    | (.error error, last) => (.error error, last)
    | (.ok payload, next) =>
      match next.createSingly datastore query rest with
      | (.error error, last) => (.error error, last)
      | (.ok payloads, last) => (.ok (payload :: payloads), last)

theorem create_eq (found : store.table datastore query.table = .ok table) :
    store.create datastore query =
      settle { store with keys := (table.addAll store.keys query.records).2 } datastore query
        (table.addAll store.keys query.records).1 := by
  rw [create, found]

/-- A single record that the table takes is added to it. -/
theorem create_single_of_ok (found : store.table datastore query.table = .ok table) {record row : Record}
    (done : table.add store.keys record = (.ok (row, next), keys)) :
    store.create datastore (query.single record) =
      (.ok (fetched query [row]), ({ store with keys } : Store).put datastore query.table next) := by
  have foundSingle : store.table datastore (query.single record).table = .ok table := found
  rw [create_eq foundSingle, PhysicalQuery.single]
  simp only [Table.addAll, done]
  rfl

/-- A single record that clashes is refused. -/
theorem create_single_of_error (found : store.table datastore query.table = .ok table) {record : Record}
    {column : String} (refused : table.add store.keys record = (.error column, keys)) :
    store.create datastore (query.single record) = (.error (.notUnique [column]), { store with keys }) := by
  have foundSingle : store.table datastore (query.single record).table = .ok table := found
  rw [create_eq foundSingle, PhysicalQuery.single]
  simp only [Table.addAll, refused]
  rfl

/-- After a record that the table takes the others are created in what is left. -/
theorem createSingly_cons (found : store.table datastore query.table = .ok table) {record row : Record}
    (done : table.add store.keys record = (.ok (row, next), keys)) (rest : List Record) :
    store.createSingly datastore query (record :: rest) =
      ((({ store with keys } : Store).put datastore query.table next).createSingly datastore query rest).map
        (Except.map (fetched query [row] :: ·)) id := by
  rw [createSingly, create_single_of_ok found done]
  dsimp only
  rcases Store.createSingly _ datastore query rest with ⟨error | payloads, last⟩
  · rfl
  · rfl

/-- What a table takes as a batch is created record by record, up to the same table. -/
theorem createSingly_of_ok (found : store.table datastore query.table = .ok table) {records rows : List Record}
    (done : table.addAll store.keys records = (.ok (rows, next), keys)) :
    ∃ last, store.createSingly datastore query records = (.ok (rows.map fun row => fetched query [row]), last) ∧
      last.keys = keys ∧ last.table datastore query.table = .ok next ∧
      ∀ other name, ¬(datastore = other ∧ query.table = name) → last.table other name = store.table other name := by
  induction records generalizing store table rows with
  | nil =>
    obtain ⟨⟨rfl, rfl⟩, rfl⟩ : (_ ∧ _) ∧ _ := by simpa [Table.addAll] using done
    exact ⟨store, rfl, rfl, found, fun _ _ _ => rfl⟩
  | cons record rest ih =>
    rw [Table.addAll] at done
    rcases first : table.add store.keys record with ⟨column | ⟨row, written⟩, left⟩
    · simp [first] at done
    · simp only [first] at done
      split at done
      · simp at done
      · next later =>
        obtain ⟨⟨rfl, rfl⟩, rfl⟩ : (_ ∧ _) ∧ _ := by simpa using done
        have foundNext : (({ store with keys := left } : Store).put datastore query.table written).table datastore
            query.table = .ok written := table_put_self ..
        obtain ⟨last, created, isKeys, isTable, others⟩ := ih foundNext later
        refine ⟨last, ?_, isKeys, isTable, fun other name elsewhere => ?_⟩
        · rw [createSingly_cons found first, created]
          rfl
        · rw [others other name elsewhere, table_put, if_neg elsewhere, table_withKeys]

/-- What a table refuses as a batch is created record by record up to the one that clashes, which is refused with
the same error. -/
theorem createSingly_of_error (found : store.table datastore query.table = .ok table) {records : List Record}
    {column : String} (refused : table.addAll store.keys records = (.error column, keys)) :
    ∃ before record later payloads middle last, records = before ++ record :: later ∧
      store.createSingly datastore query before = (.ok payloads, middle) ∧
      middle.create datastore (query.single record) = (.error (.notUnique [column]), last) ∧ last.keys = keys ∧
      store.createSingly datastore query records = (.error (.notUnique [column]), last) := by
  induction records generalizing store table with
  | nil => simp [Table.addAll] at refused
  | cons record rest ih =>
    rw [Table.addAll] at refused
    rcases first : table.add store.keys record with ⟨clash | ⟨row, written⟩, left⟩
    · simp only [first] at refused
      obtain ⟨rfl, rfl⟩ : clash = column ∧ left = keys := by simpa using refused
      have isRefused := create_single_of_error found first
      refine ⟨[], record, rest, [], store, _, rfl, rfl, isRefused, rfl, ?_⟩
      rw [createSingly, isRefused]
    · simp only [first] at refused
      split at refused
      · next later =>
        obtain ⟨rfl, rfl⟩ : _ = column ∧ _ = keys := by simpa using refused
        have foundNext : (({ store with keys := left } : Store).put datastore query.table written).table datastore
            query.table = .ok written := table_put_self ..
        obtain ⟨before, clashing, after, payloads, middle, last, rfl, created, isRefused, isKeys, whole⟩ :=
          ih foundNext later
        refine ⟨record :: before, clashing, after, fetched query [row] :: payloads, middle, last, rfl, ?_, isRefused,
          isKeys, ?_⟩
        · rw [createSingly_cons found first, created]
          rfl
        · rw [createSingly_cons found first, whole]
          rfl
      · simp at refused

/-- A batch is created exactly where its records are, one after another by queries of their own. Then it leaves
every table and the keys as these do, and fetches the rows that they fetch one by one, which are those that are
added. A batch that is refused leaves every table as it was before, and its error is that of the first of its
records that is refused when they are created one after another. -/
theorem create_as_singly (found : store.table datastore query.table = .ok table) :
    ((∃ payload, (store.create datastore query).1 = .ok payload) ↔
      ∃ payloads, (store.createSingly datastore query query.records).1 = .ok payloads) ∧
    (∀ payloads last, store.createSingly datastore query query.records = (.ok payloads, last) →
      ∃ rows next, store.create datastore query = (.ok (fetched query rows), next) ∧
        payloads = rows.map (fun row => fetched query [row]) ∧
        next.rows datastore query.table = .ok (table.rows ++ rows) ∧ next.keys = last.keys ∧
        ∀ other name, next.table other name = last.table other name) ∧
    ∀ error next, store.create datastore query = (.error error, next) →
      next.datastores = store.datastores ∧
      ∃ before record later payloads middle last, query.records = before ++ record :: later ∧
        store.createSingly datastore query before = (.ok payloads, middle) ∧
        middle.create datastore (query.single record) = (.error error, last) ∧ last.keys = next.keys := by
  rw [create_eq found]
  rcases result : table.addAll store.keys query.records with ⟨column | ⟨rows, written⟩, keys⟩
  · obtain ⟨before, record, later, payloads, middle, last, isSplit, created, refused, isKeys, whole⟩ :=
      createSingly_of_error found result
    rw [whole]
    refine ⟨iff_of_false nofun nofun, nofun, fun error next isRefused => ?_⟩
    obtain ⟨rfl, rfl⟩ : AdapterError.notUnique [column] = error ∧ _ = next := by simpa [settle] using isRefused
    exact ⟨rfl, before, record, later, payloads, middle, last, isSplit, created, refused, isKeys⟩
  · obtain ⟨last, created, isKeys, isTable, others⟩ := createSingly_of_ok found result
    rw [created]
    refine ⟨iff_of_true ⟨_, rfl⟩ ⟨_, rfl⟩, fun payloads final done => ?_, nofun⟩
    obtain ⟨rfl, rfl⟩ : _ = payloads ∧ last = final := by simpa using done
    refine ⟨rows, _, rfl, rfl, ?_, isKeys.symm, fun other name => ?_⟩
    · obtain ⟨-, -, all⟩ := Table.addAll_rows result
      simp [Store.rows, all, Except.map]
    · change (({ store with keys } : Store).put datastore query.table written).table other name = _
      rw [table_put]
      split
      · next here =>
        obtain ⟨rfl, rfl⟩ := here
        exact isTable.symm
      · next elsewhere => exact (others other name elsewhere).symm

/-- Accounts, which are numbered and have distinct addresses. -/
def numberedAccounts : TableDefinition where
  table := "accounts"
  primaryKey := "id"
  autoIncrement := true
  uniqueColumns := ["email"]

/-- Three accounts are created, the last one with the address of the first. -/
def repeatedAddress : PhysicalQuery where
  method := .createEach
  table := "accounts"
  records := [[("email", .text "ada@x")], [("email", .text "bob@x")], [("email", .text "ada@x")]]

/-- The three accounts are refused together, with the error of the third one, and no account is there. -/
theorem repeatedAddress_refused :
    let start : Store := { keys := { draw := toString } }
    let empty := start.put "main" "accounts" { definition := numberedAccounts }
    empty.table "main" "accounts" = .ok { definition := numberedAccounts } ∧
      (empty.create "main" repeatedAddress).1 = .error (.notUnique ["email"]) ∧
      (empty.create "main" repeatedAddress).2.datastores = empty.datastores ∧
      (∃ payloads, (empty.createSingly "main" repeatedAddress (repeatedAddress.records.take 2)).1 = .ok payloads) ∧
      ¬∃ payloads, (empty.createSingly "main" repeatedAddress repeatedAddress.records).1 = .ok payloads := by
  intro start empty
  have found : empty.table "main" repeatedAddress.table = .ok { definition := numberedAccounts } := rfl
  have refused : (empty.create "main" repeatedAddress).1 = .error (.notUnique ["email"]) := rfl
  obtain ⟨iff, -, undone⟩ := create_as_singly found
  refine ⟨found, refused, (undone _ _ (Prod.ext refused rfl)).1, ⟨_, rfl⟩, fun created => ?_⟩
  obtain ⟨payload, done⟩ := iff.mpr created
  rw [refused] at done
  cases done

end Store

end RecordMapper
