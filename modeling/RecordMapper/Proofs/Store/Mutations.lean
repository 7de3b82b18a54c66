import RecordMapper.Proofs.Store.Tables
import RecordMapper.Proofs.Store.Uniqueness

/-! # Uniqueness over runs of a store

Every mutation has an outcome: the rows that its table would hold. It is refused exactly when the
definition of the table does not admit them, and then nothing changes but the supply of random keys.
So from an empty table on, whatever a store is asked, its rows are always admitted.
-/

namespace RecordMapper

/-- The rows that a table would hold after a query: a batch appended with its keys, values written
over the rows that match, or the rows that are not taken out. -/
def Table.outcome (table : Table) (supply : KeySupply) (query : PhysicalQuery) : List Record :=
  match query.method with
  | .create | .createEach => table.rows ++ table.keyedAll supply query.records
  | .update => table.overwritten query.criteria.clause (query.values.getD [])
  | .destroy => table.rows.filter fun row => !query.criteria.clause.accepts row
  | _ => table.rows

/-- The rows that a mutation affects, in the order in which they are stored. -/
def Table.affected (table : Table) (supply : KeySupply) (query : PhysicalQuery) : List Record :=
  match query.method with
  | .create | .createEach => table.keyedAll supply query.records
  | .update =>
    (table.rows.filter fun row => query.criteria.clause.accepts row).map
      (Dictionary.insertAll · (query.values.getD []))
  | .destroy => table.rows.filter fun row => query.criteria.clause.accepts row
  | _ => []

theorem TableDefinition.Admits.filter {definition : TableDefinition} {rows : List Record}
    (admits : definition.Admits rows) (keep : Record → Bool) :
    definition.Admits (rows.filter keep) :=
  fun column distinct => (admits column distinct).filter keep

namespace Store

/-- A mutation of a table is refused for a column in which its outcome has two rows that agree, or its
outcome becomes the table, and the answer is the rows that it affected. -/
theorem answer?_cases {store : Store} {datastore : String} {query : PhysicalQuery} {table : Table}
    (found : store.table datastore query.table = .ok table) (mutation : query.method.isMutation = true) :
    (∃ column keys,
      store.answer? datastore query = some (.error (.notUnique [column]), { store with keys }) ∧
      column ∈ table.definition.distinctColumns ∧
      Record.AgreeWithin column (table.outcome store.keys query)) ∨
    ∃ keys written, store.answer? datastore query =
        some (.ok (fetched query (table.affected store.keys query)),
          ({ store with keys } : Store).put datastore query.table written) ∧
      written.definition = table.definition ∧ written.rows = table.outcome store.keys query ∧
      (table.definition.Admits table.rows → table.definition.Admits (table.outcome store.keys query)) := by
  have creates : (∃ column keys, store.create datastore query =
        (.error (.notUnique [column]), { store with keys }) ∧
        column ∈ table.definition.distinctColumns ∧
        Record.AgreeWithin column (table.rows ++ table.keyedAll store.keys query.records)) ∨
      ∃ keys written, store.create datastore query =
          (.ok (fetched query (table.keyedAll store.keys query.records)),
            ({ store with keys } : Store).put datastore query.table written) ∧
        written.definition = table.definition ∧
        written.rows = table.rows ++ table.keyedAll store.keys query.records ∧
        (table.definition.Admits table.rows →
          table.definition.Admits (table.rows ++ table.keyedAll store.keys query.records)) := by
    simp only [create, found]
    rcases result : table.addAll store.keys query.records with ⟨column | ⟨added, next⟩, keys⟩
    · exact .inl ⟨column, keys, rfl, Table.addAll_error result⟩
    · obtain ⟨rfl, definition, rows⟩ := Table.addAll_rows result
      exact .inr ⟨keys, next, rfl, definition, rows, fun admits => rows ▸ Table.addAll_admits result admits⟩
  unfold answer? Table.outcome Table.affected
  cases method : query.method <;> simp only [method, Method.isMutation, Bool.false_eq_true] at mutation
  case create | createEach => simpa only [Option.some.injEq] using creates
  case update =>
    simp only [Option.some.injEq, update, found]
    rcases result : table.update query.criteria.clause (query.values.getD []) with column | ⟨updated, next⟩
    · exact .inl ⟨column, store.keys, rfl, Table.update_error result⟩
    · obtain ⟨rfl, rfl⟩ := Table.update_rows result
      exact .inr ⟨store.keys, _, rfl, rfl, rfl, Table.update_admits result⟩
  case destroy =>
    simp only [Option.some.injEq, destroy, found, Table.destroy_eq]
    exact .inr ⟨store.keys, _, rfl, rfl, rfl, fun admits => admits.filter _⟩

/-- A mutation of a table whose rows are admitted is refused for a column in which its outcome has
two rows that agree, or its outcome is admitted and becomes the table. -/
theorem answer?_mutation {store : Store} {datastore : String} {query : PhysicalQuery}
    {table : Table} (found : store.table datastore query.table = .ok table)
    (mutation : query.method.isMutation = true) (admits : table.definition.Admits table.rows) :
    (∃ column keys,
      store.answer? datastore query = some (.error (.notUnique [column]), { store with keys }) ∧
      column ∈ table.definition.distinctColumns ∧
      Record.AgreeWithin column (table.outcome store.keys query)) ∨
    ∃ payload keys written, store.answer? datastore query =
        some (.ok payload, ({ store with keys } : Store).put datastore query.table written) ∧
      written.definition = table.definition ∧ written.rows = table.outcome store.keys query ∧
      table.definition.Admits (table.outcome store.keys query) := by
  rcases answer?_cases found mutation with refused | ⟨keys, written, done, definition, rows, admitted⟩
  · exact .inl refused
  · exact .inr ⟨_, keys, written, done, definition, rows, admitted admits⟩

/-- A table of the given definition whose rows are admitted. -/
def Keeps (store : Store) (datastore : String) (definition : TableDefinition) : Prop :=
  ∃ table, store.table datastore definition.table = .ok table ∧ table.definition = definition ∧
    definition.Admits table.rows

/-- Whatever a store is asked, a table whose rows are admitted stays one. -/
theorem Keeps.answer? {store next : Store} {datastore other : String} {definition : TableDefinition}
    {query : PhysicalQuery} {reply : AdapterReply} (keeps : store.Keeps datastore definition)
    (answered : store.answer? other query = some (reply, next)) :
    next.Keeps datastore definition := by
  obtain ⟨table, found, rfl, admits⟩ := keeps
  by_cases here : other = datastore ∧ query.table = table.definition.table
  · obtain ⟨rfl, sameName⟩ := here
    rw [← sameName] at found
    cases mutation : query.method.isMutation with
    | false =>
      obtain rfl := answer?_of_not_mutation answered mutation
      exact ⟨table, sameName ▸ found, rfl, admits⟩
    | true =>
      rcases answer?_mutation found mutation admits with
        ⟨column, keys, refused, -⟩ | ⟨payload, keys, written, done, definition, rows, admitted⟩
      · rw [refused] at answered
        obtain ⟨-, rfl⟩ : _ ∧ _ = next := by simpa using answered
        exact ⟨table, sameName ▸ found, rfl, admits⟩
      · rw [done] at answered
        obtain ⟨-, rfl⟩ : _ ∧ _ = next := by simpa using answered
        refine ⟨written, ?_, definition, rows ▸ admitted⟩
        rw [← sameName, table_put_self]
  · exact ⟨table, (answer?_table_other answered here).trans found, rfl, admits⟩

theorem Keeps.after {store : Store} {datastore : String} {definition : TableDefinition}
    (keeps : store.Keeps datastore definition) (queries : List (String × PhysicalQuery)) :
    (store.after queries).Keeps datastore definition := by
  exact after_keeps (fun store => store.Keeps datastore definition)
    (fun _ _ _ _ _ answered keeps => keeps.answer? answered) keeps queries

theorem keeps_empty (store : Store) (datastore : String) (definition : TableDefinition) :
    (store.put datastore definition.table { definition }).Keeps datastore definition :=
  ⟨{ definition }, table_put_self .., rfl, fun _ _ => List.Pairwise.nil⟩

/-- From the moment a table is empty, and after any queries to its store, no two of its rows agree
in the key or in a unique column. A mutation is refused exactly when its outcome would break that. A
refusal names one such column, in which two rows of the outcome agree, and leaves every table as it
is, with the number for its next row; a mutation that is not refused leaves its outcome. -/
theorem mutation_refused_iff (start : Store) (datastore : String) (definition : TableDefinition)
    (queries : List (String × PhysicalQuery)) :
    let store := (start.put datastore definition.table { definition }).after queries
    ∃ table, store.table datastore definition.table = .ok table ∧ table.definition = definition ∧
      definition.Admits table.rows ∧
      ∀ query : PhysicalQuery, query.table = definition.table → query.method.isMutation = true →
        ∃ reply next, store.answer? datastore query = some (reply, next) ∧
          ((∃ error, reply = .error error) ↔ ¬definition.Admits (table.outcome store.keys query)) ∧
          (∀ error, reply = .error error → next.datastores = store.datastores ∧
            ∃ column, error = .notUnique [column] ∧
              (column = definition.primaryKey ∨ column ∈ definition.uniqueColumns) ∧
              Record.AgreeWithin column (table.outcome store.keys query)) ∧
          ∀ payload, reply = .ok payload → ∃ written,
            next.table datastore definition.table = .ok written ∧
              written.rows = table.outcome store.keys query := by
  intro store
  obtain ⟨table, found, rfl, admits⟩ := (keeps_empty start datastore definition).after queries
  refine ⟨table, found, rfl, admits, ?_⟩
  intro query sameName mutation
  have foundHere : store.table datastore query.table = .ok table := sameName ▸ found
  rcases answer?_mutation foundHere mutation admits with
    ⟨column, keys, answered, member, agree⟩ | ⟨payload, keys, written, answered, -, rows, admitted⟩
  · refine ⟨_, _, answered, ?_, ?_, ?_⟩
    · exact iff_of_true ⟨_, rfl⟩ (TableDefinition.not_admits member agree)
    · intro error same
      obtain rfl := Except.error.inj same
      exact ⟨rfl, column, rfl, (TableDefinition.mem_distinctColumns ..).mp member, agree⟩
    · intro payload same
      cases same
  · refine ⟨_, _, answered, ?_, ?_, ?_⟩
    · refine iff_of_false ?_ (not_not_intro admitted)
      rintro ⟨error, same⟩
      cases same
    · intro error same
      cases same
    · intro _ _
      exact ⟨written, by rw [← sameName, table_put_self], rows⟩

end Store

end RecordMapper
