import RecordMapper.Proofs.Execution.Asking
import RecordMapper.Proofs.Store.Keys
import RecordMapper.Proofs.Store.Mutations

/-! # The numbers that a table gives out

A table that numbers its rows counts ahead of them: the number for the next row is larger than every
number that a row has for a key. Adding rows restores that, whether they bring their keys or get them, and
so does taking rows out. An update does not touch the count. It can write a key all the same, so it may
number a row past the count, and then the count comes to a number that is taken. Records without a key are
refused for the key from then on, for as long as that row stays. Where no update does so, the count stays
ahead, and no such record is ever refused for its key. All of this is as long as there is a number after the
largest key: the count has 64 bits, and what comes after the largest number is zero.
-/

namespace RecordMapper

/-- Equal to a whole number is only that number. -/
theorem Json.same_ofNat_iff {value : Json} {number : Nat} :
    (Json.ofNat number).same value = true ↔ value.nat? = some number := by
  cases value with
  | number found =>
    cases found with
    | integer found =>
      simp only [Json.same, Json.ofNat, Number.same, Json.nat?, Number.toNat?, beq_iff_eq,
        Option.ite_none_right_eq_some, Option.some.injEq]
      omega
    | double found => simp [Json.same, Json.ofNat, Number.same, Json.nat?, Number.toNat?]
  | _ => simp [Json.same, Json.ofNat, Json.nat?]

/-- The whole number, not negative, that a row holds in a column. -/
def Record.number? (row : Record) (column : String) : Option Nat :=
  (Dictionary.get? row column).bind Json.nat?

namespace Record

theorem number?_insert (row : Record) (column : String) (value : Json) :
    number? (Dictionary.insert row column value) column = value.nat? := by
  rw [number?, Dictionary.get?_insert, if_pos rfl, Option.bind_some]

theorem number?_insertAll (row : Record) (values : List (String × Json)) (column : String) :
    number? (Dictionary.insertAll row values) column =
      ((Dictionary.get? (Dictionary.ofList values) column).or (Dictionary.get? row column)).bind Json.nat? := by
  rw [number?, Dictionary.get?_insertAll_ofList]

/-- A row with a number has something in the column. -/
theorem has_of_number? {row : Record} {column : String} {number : Nat}
    (isNumber : row.number? column = some number) : row.Has column := by
  obtain ⟨value, found, counts⟩ := Option.bind_eq_some_iff.mp isNumber
  refine ⟨value, Option.filter_eq_some_iff.mpr ⟨found, ?_⟩⟩
  cases value with
  | null => cases counts
  | _ => rfl

/-- A row agrees with one that got a number exactly where it has that number. -/
theorem agree_insert_ofNat_iff (row other : Record) (column : String) (number : Nat) :
    Agree column (Dictionary.insert row column (.ofNat number)) other ↔ other.number? column = some number := by
  unfold Agree number?
  rw [Dictionary.get?_insert, if_pos rfl, Option.bind_eq_some_iff]
  constructor
  · rintro ⟨value, found, held, isFound, -, same⟩
    obtain rfl := Option.some.inj held
    exact ⟨found, isFound, Json.same_ofNat_iff.mp same⟩
  · rintro ⟨found, isFound, counts⟩
    exact ⟨.ofNat number, found, rfl, isFound, rfl, Json.same_ofNat_iff.mpr counts⟩

end Record

namespace Table

open Record Results

/-- The largest number that a count comes to. -/
def largestNumber : Nat := UInt64.size - 1

/-- Every number that a row has for a key is smaller than the number for the next row. -/
def Ahead (table : Table) : Prop :=
  ∀ row ∈ table.rows, ∀ number ∈ row.number? table.definition.primaryKey, number < table.nextNumber.toNat

/-- Every number that a row has for a key is smaller than the largest number that a count comes to. -/
def InRange (table : Table) : Prop :=
  ∀ row ∈ table.rows, ∀ number ∈ row.number? table.definition.primaryKey, number < largestNumber

instance (table : Table) : Decidable table.InRange :=
  inferInstanceAs (Decidable (∀ row ∈ table.rows, ∀ number ∈ row.number? table.definition.primaryKey,
    number < largestNumber))

/-- What becomes of a table by a query to it: the table that the query leaves, or the same if it is refused. -/
def next (table : Table) (supply : KeySupply) (query : PhysicalQuery) : Table :=
  match query.method with
  | .create | .createEach => ((table.addAll supply query.records).1.map Prod.snd).toOption.getD table
  | .update => ((table.update query.criteria.clause (query.values.getD [])).map Prod.snd).toOption.getD table
  | .destroy => (table.destroy query.criteria.clause).2
  | _ => table

/-- A query numbers a row past the count: it is an update that is not refused, it matches a row, and it
writes a number that is not smaller than the one for the next row over the key. -/
def Overtakes (table : Table) (query : PhysicalQuery) : Prop :=
  query.method = .update ∧
    (∃ outcome, table.update query.criteria.clause (query.values.getD []) = .ok outcome) ∧
    (∃ row ∈ table.rows, query.criteria.clause.accepts row = true) ∧
    ∃ number, number? (Dictionary.ofList (query.values.getD [])) table.definition.primaryKey = some number ∧
      table.nextNumber.toNat ≤ number

/-! ## The count -/

theorem toNat_le_largestNumber (count : UInt64) : count.toNat ≤ largestNumber :=
  Nat.le_sub_one_of_lt count.toNat_lt

/-- There is one more number after any but the largest. -/
theorem toNat_succ {count : UInt64} (below : count.toNat < largestNumber) : (count + 1).toNat = count.toNat + 1 := by
  rw [UInt64.toNat_add, UInt64.toNat_one, Nat.mod_eq_of_lt]
  exact Nat.add_lt_of_lt_sub below

theorem toNat_ofNatClamp_succ {number : Nat} (below : number < largestNumber) :
    (UInt64.ofNatClamp (number + 1)).toNat = number + 1 :=
  UInt64.toNat_ofNatClamp_of_lt (Nat.add_lt_of_lt_sub below)

/-! ## Adding rows -/

/-- A row that has a key keeps it, and the count goes past it if it is a number. -/
theorem keyed_of_has (table : Table) {row : Record} (has : row.Has table.definition.primaryKey)
    (supply : KeySupply) :
    table.keyed supply row =
      (row, { table with
        nextNumber := (row.number? table.definition.primaryKey).elim table.nextNumber fun number =>
          max table.nextNumber (.ofNatClamp (number + 1)) }, supply) := by
  obtain ⟨value, held⟩ := has
  have found : Dictionary.get? row table.definition.primaryKey = some value :=
    (Option.filter_eq_some_iff.mp held).1
  unfold keyed number?
  dsimp only
  rw [held, found, Option.bind_some]
  dsimp only
  cases value.nat? <;> rfl

/-- A row without a key gets the number that the count has come to. -/
theorem number?_keyed_of_absent {table : Table} (numbered : table.definition.autoIncrement = true) {row : Record}
    (lacks : ¬row.Has table.definition.primaryKey) (supply : KeySupply) :
    (table.keyed supply row).1.number? table.definition.primaryKey = some table.nextNumber.toNat := by
  rw [table.keyed_of_absent lacks supply, if_pos numbered, number?_insert]
  simp [Json.nat?, Json.ofNat, Number.toNat?]

/-- The count does not go back, and it goes past the number of a row that is added. -/
theorem nextNumber_keyed (table : Table) (supply : KeySupply) {row : Record}
    (inRange : ∀ number, (table.keyed supply row).1.number? table.definition.primaryKey = some number →
      number < largestNumber) :
    table.nextNumber.toNat ≤ (table.keyed supply row).2.1.nextNumber.toNat ∧
      ∀ number, (table.keyed supply row).1.number? table.definition.primaryKey = some number →
        number < (table.keyed supply row).2.1.nextNumber.toNat := by
  by_cases has : row.Has table.definition.primaryKey
  · rw [table.keyed_of_has has supply] at inRange ⊢
    dsimp only at inRange ⊢
    cases isNumber : row.number? table.definition.primaryKey with
    | none => exact ⟨le_refl _, fun number absurd => nomatch absurd⟩
    | some given =>
      rw [Option.elim_some, UInt64.toNat_max, toNat_ofNatClamp_succ (inRange given isNumber)]
      refine ⟨le_max_left .., fun number same => ?_⟩
      obtain rfl := Option.some.inj same
      exact lt_max_of_lt_right (Nat.lt_succ_self _)
  · cases numbered : table.definition.autoIncrement with
    | true =>
      have given := number?_keyed_of_absent numbered has supply
      have grows := toNat_succ (inRange _ given)
      rw [given, table.keyed_of_absent has supply, if_pos numbered]
      refine ⟨grows ▸ Nat.le_succ _, fun number isNumber => ?_⟩
      obtain rfl := Option.some.inj isNumber
      exact grows ▸ Nat.lt_succ_self _
    | false =>
      rw [table.keyed_of_absent has supply, if_neg (by simp [numbered])]
      refine ⟨le_refl _, fun number isNumber => ?_⟩
      rw [number?_insert] at isNumber
      cases isNumber

/-- A table counts ahead of a row that is added to it. -/
theorem Ahead.add {table : Table} (ahead : table.Ahead) (supply : KeySupply) {row : Record}
    (inRange : ∀ number, (table.keyed supply row).1.number? table.definition.primaryKey = some number →
      number < largestNumber) :
    Ahead { (table.keyed supply row).2.1 with rows := table.rows ++ [(table.keyed supply row).1] } := by
  obtain ⟨grows, passes⟩ := table.nextNumber_keyed supply inRange
  intro other member number isNumber
  rw [keyed_definition] at isNumber
  rcases List.mem_append.mp member with old | new
  · exact (ahead other old number isNumber).trans_le grows
  · obtain rfl := List.mem_singleton.mp new
    exact passes number isNumber

/-- A table counts ahead of a batch that is added to it. -/
theorem Ahead.addAll {table next : Table} {supply rest : KeySupply} {batch added : List Record}
    (ahead : table.Ahead) (done : table.addAll supply batch = (.ok (added, next), rest))
    (inRange : next.InRange) : next.Ahead := by
  induction batch generalizing table supply added with
  | nil =>
    obtain ⟨⟨rfl, rfl⟩, -⟩ : (_ ∧ _) ∧ _ := by simpa [Table.addAll] using done
    exact ahead
  | cons row batch ih =>
    obtain ⟨rfl, definition, rows⟩ := addAll_rows done
    simp only [Table.addAll] at done
    rcases table.add_cases supply row with ⟨_, refused, _⟩ | ⟨first, -⟩
    · rw [refused] at done
      simp at done
    · rw [first] at done
      dsimp only at done
      split at done
      · simp at done
      · next later =>
        obtain ⟨⟨-, rfl⟩, rfl⟩ : (_ ∧ _) ∧ _ := by simpa using done
        apply ih (ahead.add supply ?_) later
        intro number isNumber
        apply inRange (table.keyed supply row).1 ?_ number (definition ▸ isNumber)
        rw [rows, keyedAll]
        exact List.mem_append_right _ (List.mem_cons_self ..)

/-- A first row that brings a number for its key is added, and the count goes past the number. -/
theorem add_number {table : Table} (empty : table.rows = []) {row : Record} {number : Nat}
    (isNumber : row.number? table.definition.primaryKey = some number) (supply : KeySupply) :
    table.add supply row = (.ok (row, { table with
      rows := [row], nextNumber := max table.nextNumber (.ofNatClamp (number + 1)) }), supply) := by
  have keyed := table.keyed_of_has (has_of_number? isNumber) supply
  rw [isNumber, Option.elim_some] at keyed
  rcases table.add_cases supply row with ⟨_, -, -, other, absurd, -⟩ | ⟨added, -⟩
  · rw [empty] at absurd
    cases absurd
  · rw [added, keyed, empty]
    rfl

/-! ## Records without a key -/

theorem addAll_cons_of_error {table : Table} {supply : KeySupply} {row : Record} {column : String}
    (refused : (table.add supply row).1 = .error column) (batch : List Record) :
    (table.addAll supply (row :: batch)).1 = .error column := by
  rcases first : table.add supply row with ⟨clash | added, rest⟩
  · rw [first] at refused
    rw [Table.addAll, first]
    exact congrArg _ (Except.error.inj refused)
  · rw [first] at refused
    cases refused

theorem addAll_cons_of_ok {table next : Table} {supply rest : KeySupply} {row added : Record}
    (done : table.add supply row = (.ok (added, next), rest)) (batch : List Record) :
    (table.addAll supply (row :: batch)).1 =
      (next.addAll rest batch).1.map fun (rows, table) => (added :: rows, table) := by
  rw [Table.addAll, done]
  dsimp only
  split
  · next refused => rw [refused]; rfl
  · next later => rw [later]; rfl

/-- Where a table counts ahead, records without a key are not refused for the key, if there is a number for each of
them. -/
theorem Ahead.not_refused {table : Table} (numbered : table.definition.autoIncrement = true)
    (ahead : table.Ahead) {batch : List Record}
    (lack : ∀ record ∈ batch, ¬record.Has table.definition.primaryKey)
    (room : table.nextNumber.toNat + batch.length ≤ UInt64.size) (supply : KeySupply) :
    (table.addAll supply batch).1 ≠ .error table.definition.primaryKey := by
  induction batch generalizing table supply with
  | nil => simp [Table.addAll]
  | cons row batch ih =>
    obtain ⟨lacks, later⟩ := List.forall_mem_cons.mp lack
    have isKeyed := table.keyed_of_absent lacks supply
    rw [if_pos numbered] at isKeyed
    rcases table.add_cases supply row with ⟨column, refused, _, other, present, agree⟩ | ⟨done, -⟩
    · rw [addAll_cons_of_error (congrArg Prod.fst refused)]
      rintro ⟨⟩
      rw [isKeyed, agree_insert_ofNat_iff] at agree
      exact absurd (ahead other present _ agree) (lt_irrefl _)
    · rw [addAll_cons_of_ok done, ← keyed_definition table supply row]
      -- the last record of a batch may get the largest number: then there is no number after it, and none is needed
      rcases batch with - | ⟨second, batch⟩
      · simp [Table.addAll, Except.map]
      · have below : table.nextNumber.toNat < largestNumber := by
          simp only [List.length_cons] at room
          unfold largestNumber
          omega
        have inRange : ∀ number, (table.keyed supply row).1.number? table.definition.primaryKey = some number →
            number < largestNumber := by
          rw [number?_keyed_of_absent numbered lacks]
          exact fun number isNumber => Option.some.inj isNumber ▸ below
        have nextAhead := ahead.add supply inRange
        intro refused
        have definition := keyed_definition table supply row
        refine ih (definition ▸ numbered) nextAhead (definition ▸ later) ?_ (table.keyed supply row).2.2
          (map_eq_error.mp refused)
        rw [isKeyed]
        dsimp only
        rw [toNat_succ below, Nat.add_assoc, Nat.add_comm 1]
        exact room

/-- A row without a key is refused for the key if its number is taken. -/
theorem add_taken {table : Table} (numbered : table.definition.autoIncrement = true) {row : Record}
    (lacks : ¬row.Has table.definition.primaryKey)
    (taken : ∃ other ∈ table.rows, other.number? table.definition.primaryKey = some table.nextNumber.toNat)
    (supply : KeySupply) : table.add supply row = (.error table.definition.primaryKey, supply) := by
  obtain ⟨other, member, isNumber⟩ := taken
  have keyed := table.keyed_of_absent lacks supply
  rw [if_pos numbered] at keyed
  have clashes := (clashes_iff ..).mpr ((agree_insert_ofNat_iff row other _ _).mpr isNumber)
  -- the key is the first column in which rows are compared
  have collides : Record.collision? table.definition.distinctColumns
      (Dictionary.insert row table.definition.primaryKey (.ofNat table.nextNumber.toNat)) table.rows =
        some table.definition.primaryKey := by
    rw [collision?, TableDefinition.distinctColumns, List.find?_cons_of_pos]
    exact List.any_eq_true.mpr ⟨other, member, clashes⟩
  simp only [add, keyed, collides]

/-- An empty record gets the next number for a key. It is refused for the key, or no row has that number and
the count goes on. -/
theorem add_empty_cases {table : Table} (numbered : table.definition.autoIncrement = true)
    (supply : KeySupply) :
    (table.add supply []).1 = .error table.definition.primaryKey ∨
      (∀ row ∈ table.rows, row.number? table.definition.primaryKey ≠ some table.nextNumber.toNat) ∧
        ∃ added next rest, table.add supply [] = (.ok (added, next), rest) ∧
          next.definition = table.definition ∧ next.nextNumber = table.nextNumber + 1 ∧
          ∀ row ∈ table.rows, row ∈ next.rows := by
  have lacks : ¬Record.Has table.definition.primaryKey [] := fun ⟨_, absurd⟩ => nomatch absurd
  have isKeyed := table.keyed_of_absent lacks supply
  rw [if_pos numbered] at isKeyed
  rcases table.add_cases supply [] with ⟨column, refused, _, other, _, agree⟩ | ⟨done, free⟩
  · -- the record holds nothing but its key, so it agrees with a row in no other column
    have isKey : table.definition.primaryKey = column := by
      obtain ⟨value, _, held, -⟩ := agree
      rw [isKeyed, Dictionary.get?_insert] at held
      by_contra other
      rw [if_neg other] at held
      cases held
    rw [refused, isKey]
    exact .inl rfl
  · rw [isKeyed] at done free
    refine .inr ⟨?_, _, _, _, done, rfl, rfl, ?_⟩
    · intro row member isNumber
      apply free table.definition.primaryKey ((table.definition.mem_distinctColumns _).mpr (.inl rfl)) row member
      exact (agree_insert_ofNat_iff ..).mpr isNumber
    · intro row member
      exact List.mem_append_left _ member

/-- Where a row has a number that the count did not pass, enough empty records are refused for the key: the
last one of them would get that number. -/
theorem addAll_empty_refused {table : Table} (numbered : table.definition.autoIncrement = true) {row : Record}
    (member : row ∈ table.rows) {gap : Nat} (inRange : table.nextNumber.toNat + gap ≤ largestNumber)
    (isNumber : row.number? table.definition.primaryKey = some (table.nextNumber.toNat + gap)) (supply : KeySupply) :
    (table.addAll supply (List.replicate (gap + 1) [])).1 = .error table.definition.primaryKey := by
  induction gap generalizing table supply with
  | zero =>
    rcases add_empty_cases numbered supply with refused | ⟨free, -⟩
    · exact addAll_cons_of_error refused []
    · exact absurd isNumber (free row member)
  | succ gap ih =>
    rw [List.replicate_succ]
    rcases add_empty_cases numbered supply with refused | ⟨-, added, next, rest, done, definition, counted, kept⟩
    · exact addAll_cons_of_error refused _
    · have step : table.nextNumber.toNat + (gap + 1) = next.nextNumber.toNat + gap := by
        rw [counted, toNat_succ (by omega), Nat.add_right_comm, Nat.add_assoc]
      have later :=
        ih (definition ▸ numbered) (kept row member) (step ▸ inRange) (by rw [definition, isNumber, step]) rest
      rw [addAll_cons_of_ok done, later, definition]
      rfl

/-- A table counts ahead exactly where no records without a key, for which there are numbers, would be refused for
the key. -/
theorem ahead_iff {table : Table} (numbered : table.definition.autoIncrement = true) (inRange : table.InRange)
    (supply : KeySupply) :
    table.Ahead ↔ ∀ batch : List Record, (∀ record ∈ batch, ¬record.Has table.definition.primaryKey) →
      table.nextNumber.toNat + batch.length ≤ UInt64.size →
      (table.addAll supply batch).1 ≠ .error table.definition.primaryKey := by
  constructor
  · intro ahead batch lack room
    exact ahead.not_refused numbered lack room supply
  · intro never row member number isNumber
    by_contra past
    obtain ⟨gap, rfl⟩ := Nat.exists_eq_add_of_le (Nat.le_of_not_lt past)
    have below : table.nextNumber.toNat + gap < largestNumber := inRange row member _ isNumber
    apply never (List.replicate (gap + 1) []) ?_ ?_ (addAll_empty_refused numbered member below.le isNumber supply)
    · intro record present
      rw [List.eq_of_mem_replicate present]
      exact fun ⟨_, absurd⟩ => nomatch absurd
    · rw [List.length_replicate, ← Nat.add_assoc]
      exact (Nat.add_lt_of_lt_sub below).le

/-! ## Overwriting rows -/

/-- Values that are written over the rows of a table that counts ahead leave it ahead, unless they number a
matching row past the count. -/
theorem Ahead.update_iff {table next : Table} {clause : Clause} {values : Record} {updated : List Record}
    (ahead : table.Ahead) (done : table.update clause values = .ok (updated, next)) :
    next.Ahead ↔ ∀ row ∈ table.rows, clause.accepts row = true → ∀ number,
      number? (Dictionary.ofList values) table.definition.primaryKey = some number →
        number < table.nextNumber.toNat := by
  obtain ⟨-, rfl⟩ := update_rows done
  unfold Ahead overwritten
  simp only [List.forall_mem_map]
  refine forall₂_congr fun row member => ?_
  cases accepted : clause.accepts row with
  | false => simpa using ahead row member
  | true =>
    have stays := ahead row member
    simp only [if_true, true_implies, number?_insertAll]
    unfold number? at stays ⊢
    cases Dictionary.get? (Dictionary.ofList values) table.definition.primaryKey with
    | some value => rfl
    | none => simpa using stays

theorem Ahead.destroy {table : Table} (ahead : table.Ahead) (clause : Clause) :
    (table.destroy clause).2.Ahead := by
  rw [destroy_eq]
  intro row member
  exact ahead row (List.mem_of_mem_filter member)

/-! ## One query -/

/-- A query leaves a table that counts ahead ahead, unless it numbers a row past the count. -/
theorem Ahead.next_iff {table : Table} (ahead : table.Ahead) (supply : KeySupply) (query : PhysicalQuery)
    (inRange : (table.next supply query).InRange) :
    (table.next supply query).Ahead ↔ ¬table.Overtakes query := by
  have noUpdate (other : query.method ≠ .update) (stays : (table.next supply query).Ahead) :
      (table.next supply query).Ahead ↔ ¬table.Overtakes query :=
    iff_of_true stays fun overtakes => other overtakes.1
  have created (isNext : table.next supply query =
      ((table.addAll supply query.records).1.map Prod.snd).toOption.getD table) :
      (table.next supply query).Ahead := by
    rw [isNext] at inRange ⊢
    rcases result : table.addAll supply query.records with ⟨column | ⟨added, written⟩, rest⟩
    · exact ahead
    · rw [result] at inRange
      exact ahead.addAll result inRange
  cases method : query.method with
  | create | createEach =>
    apply noUpdate (by simp [method])
    exact created (by simp only [next, method])
  | update =>
    simp only [next, Overtakes, method, true_and]
    cases result : table.update query.criteria.clause (query.values.getD []) with
    | error column => exact iff_of_true ahead fun ⟨⟨_, absurd⟩, _⟩ => nomatch absurd
    | ok outcome =>
      apply (ahead.update_iff result).trans
      simp
  | destroy =>
    apply noUpdate (by simp [method])
    simp only [next, method]
    exact ahead.destroy _
  | find | count | sum | avg | stream =>
    apply noUpdate (by simp [method])
    simp only [next, method]
    exact ahead

end Table

namespace Store

variable {store : Store} {datastore name : String} {table : Table}

theorem table_settle {query : PhysicalQuery} (found : store.table datastore query.table = .ok table)
    (result : Except String (List Record × Table)) :
    (store.settle datastore query result).2.table datastore query.table =
      .ok ((result.map Prod.snd).toOption.getD table) := by
  cases result with
  | error column => exact found
  | ok outcome => exact table_put_self ..

theorem after_single (store : Store) (datastore : String) (query : PhysicalQuery) :
    store.after [(datastore, query)] = ((store.answer? datastore query).map Prod.snd).getD store := rfl

/-- After a query to it, the table is the next one. -/
theorem table_after_query (found : store.table datastore name = .ok table) {query : PhysicalQuery}
    (isTable : query.table = name) :
    (store.after [(datastore, query)]).table datastore name = .ok (table.next store.keys query) := by
  subst isTable
  rw [after_single]
  cases method : query.method with
  | create | createEach =>
    simp only [answer?, Table.next, method, create, found, Option.map_some, Option.getD_some]
    exact table_settle (by rwa [table_withKeys]) _
  | update =>
    simp only [answer?, Table.next, method, update, found, Option.map_some, Option.getD_some]
    exact table_settle found _
  | destroy =>
    simp only [answer?, Table.next, method, destroy, found, Option.map_some, Option.getD_some]
    exact table_settle found _
  | find | count | sum | avg | stream =>
    simp only [answer?, Table.next, method, Option.map_some, Option.map_none, Option.getD_some, Option.getD_none]
    exact found

/-- After a query to another table, a table is the same. -/
theorem table_after_other {other : String} {query : PhysicalQuery}
    (elsewhere : ¬(other = datastore ∧ query.table = name)) :
    (store.after [(other, query)]).table datastore name = store.table datastore name := by
  rw [after_single]
  cases answered : store.answer? other query with
  | none => rfl
  | some answer => exact answer?_table_other answered elsewhere

/-! ## Runs -/

/-- In every state that a store goes through while it answers queries, a table of it satisfies a condition. -/
def Throughout (store : Store) (queries : List (String × PhysicalQuery)) (datastore name : String)
    (holds : Table → Prop) : Prop :=
  ∀ before, before <+: queries → ∃ table, (store.after before).table datastore name = .ok table ∧ holds table

/-- One of the queries that a store answers numbers a row of a table past the count. -/
def Overtaken (store : Store) (queries : List (String × PhysicalQuery)) (datastore name : String) : Prop :=
  ∃ before query later table, queries = before ++ (datastore, query) :: later ∧ query.table = name ∧
    (store.after before).table datastore name = .ok table ∧ table.Overtakes query

/-- Some records without a key, created in a table, are refused for the key, although the count has a number left
for each of them. For a single record it always has one. -/
def Stuck (store : Store) (datastore : String) (definition : TableDefinition) : Prop :=
  ∃ query table next, (query.method = .create ∨ query.method = .createEach) ∧ query.table = definition.table ∧
    (∀ record ∈ query.records, ¬record.Has definition.primaryKey) ∧
    store.table datastore definition.table = .ok table ∧
    table.nextNumber.toNat + query.records.length ≤ UInt64.size ∧
    store.answer? datastore query = some (.error (.notUnique [definition.primaryKey]), next)

theorem throughout_cons {datastore name : String} {holds : Table → Prop} {first : String × PhysicalQuery}
    {rest : List (String × PhysicalQuery)} :
    store.Throughout (first :: rest) datastore name holds ↔
      (∃ table, store.table datastore name = .ok table ∧ holds table) ∧
        (store.after [first]).Throughout rest datastore name holds := by
  unfold Throughout
  constructor
  · intro all
    refine ⟨all [] (List.nil_prefix ..), fun before isPrefix => ?_⟩
    exact all (first :: before) ((List.prefix_cons_inj first).mpr isPrefix)
  · rintro ⟨start, later⟩ before isPrefix
    rcases List.prefix_cons_iff.mp isPrefix with rfl | ⟨others, rfl, ofRest⟩
    · exact start
    · exact later others ofRest

theorem overtaken_cons {datastore name : String} {first : String × PhysicalQuery}
    {rest : List (String × PhysicalQuery)} :
    store.Overtaken (first :: rest) datastore name ↔
      (first.1 = datastore ∧ first.2.table = name ∧
        ∃ table, store.table datastore name = .ok table ∧ table.Overtakes first.2) ∨
      (store.after [first]).Overtaken rest datastore name := by
  constructor
  · rintro ⟨before, query, later, table, isSplit, isTable, found, overtakes⟩
    cases before with
    | nil =>
      obtain ⟨rfl, rfl⟩ := List.cons.inj isSplit
      exact .inl ⟨rfl, isTable, table, found, overtakes⟩
    | cons other before =>
      obtain ⟨rfl, rfl⟩ := List.cons.inj isSplit
      exact .inr ⟨before, query, later, table, rfl, isTable, found, overtakes⟩
  · rintro (⟨rfl, isTable, table, found, overtakes⟩ |
      ⟨before, query, later, table, rfl, isTable, found, overtakes⟩)
    · exact ⟨[], first.2, rest, table, rfl, isTable, found, overtakes⟩
    · exact ⟨first :: before, query, later, table, rfl, isTable, found, overtakes⟩

/-- A store whose table counts ahead keeps it ahead exactly where no query numbers a row past the count. -/
theorem throughout_ahead_iff {queries : List (String × PhysicalQuery)}
    (found : store.table datastore name = .ok table) (ahead : table.Ahead)
    (inRange : store.Throughout queries datastore name Table.InRange) :
    store.Throughout queries datastore name Table.Ahead ↔ ¬store.Overtaken queries datastore name := by
  induction queries generalizing store table with
  | nil =>
    apply iff_of_true
    · intro before isPrefix
      obtain rfl := List.prefix_nil.mp isPrefix
      exact ⟨table, found, ahead⟩
    · rintro ⟨before, query, later, _, isSplit, -⟩
      simp at isSplit
  | cons first rest ih =>
    obtain ⟨other, query⟩ := first
    obtain ⟨-, inRangeLater⟩ := throughout_cons.mp inRange
    rw [throughout_cons, overtaken_cons, and_iff_right ⟨table, found, ahead⟩]
    by_cases here : other = datastore ∧ query.table = name
    · obtain ⟨rfl, isTable⟩ := here
      have foundNext := table_after_query found isTable
      obtain ⟨_, stored, inRangeNext⟩ := inRangeLater [] (List.nil_prefix ..)
      obtain rfl := Except.ok.inj (foundNext.symm.trans stored)
      have step := ahead.next_iff store.keys query inRangeNext
      simp only [isTable, found, Except.ok.injEq, exists_eq_left', true_and, not_or]
      rw [← step]
      constructor
      · intro throughout
        obtain ⟨_, stored, aheadNext⟩ := throughout [] (List.nil_prefix ..)
        obtain rfl := Except.ok.inj (foundNext.symm.trans stored)
        exact ⟨aheadNext, (ih foundNext aheadNext inRangeLater).mp throughout⟩
      · rintro ⟨aheadNext, notOvertaken⟩
        exact (ih foundNext aheadNext inRangeLater).mpr notOvertaken
    · have foundNext := (table_after_other here).trans found
      rw [ih foundNext ahead inRangeLater, ← and_assoc, or_iff_right (fun overtaken => here overtaken.1)]

/-- A store is stuck exactly where the table does not count ahead. -/
theorem stuck_iff {definition : TableDefinition} (numbered : definition.autoIncrement = true)
    (found : store.table datastore definition.table = .ok table) (isDefinition : table.definition = definition)
    (inRange : table.InRange) :
    store.Stuck datastore definition ↔ ¬table.Ahead := by
  subst isDefinition
  have answers (query : PhysicalQuery) (isTable : query.table = table.definition.table)
      (creates : query.method = .create ∨ query.method = .createEach) :
      store.answer? datastore query = some (settle { store with keys := (table.addAll store.keys query.records).2 }
        datastore query (table.addAll store.keys query.records).1) := by
    rw [← isTable] at found
    rcases creates with isCreate | isCreateEach
    · simp only [answer?, isCreate, create, found]
    · simp only [answer?, isCreateEach, create, found]
  rw [Table.ahead_iff numbered inRange store.keys]
  simp only [not_forall, not_not]
  constructor
  · rintro ⟨query, _, next, creates, isTable, lack, stored, room, refused⟩
    obtain rfl := Except.ok.inj (found.symm.trans stored)
    refine ⟨query.records, lack, room, ?_⟩
    rw [answers query isTable creates] at refused
    cases result : (table.addAll store.keys query.records).1 with
    | ok outcome =>
      rw [result] at refused
      cases refused
    | error column =>
      rw [result] at refused
      obtain ⟨isColumn, -⟩ : AdapterError.notUnique [column] = .notUnique [table.definition.primaryKey] ∧ _ := by
        simpa only [settle, Option.some.injEq, Prod.mk.injEq, Except.error.injEq] using refused
      simpa [AdapterError.notUnique, Footprint.toJson] using isColumn
  · rintro ⟨batch, lack, room, refused⟩
    let query : PhysicalQuery := { method := .createEach, table := table.definition.table, records := batch }
    have isRefused := answers query rfl (.inr rfl)
    rw [refused] at isRefused
    exact ⟨query, table, _, .inr rfl, rfl, lack, found, room, isRefused⟩

/-- From the moment a table that numbers its rows is empty, and while its store answers queries that leave it
numbers in range, the number for its next row stays larger than every number that a row has for a key exactly
where none of the queries is an update that numbers a row past the count. Exactly there, too, no records
without a key would ever be refused for the key: not a single one, nor several for which there are numbers. -/
theorem numbers_ahead_iff (start : Store) (datastore : String) (definition : TableDefinition)
    (numbered : definition.autoIncrement = true) (queries : List (String × PhysicalQuery))
    (inRange : (start.put datastore definition.table { definition }).Throughout queries datastore
      definition.table Table.InRange) :
    let empty := start.put datastore definition.table { definition }
    (empty.Throughout queries datastore definition.table Table.Ahead ↔
      ¬empty.Overtaken queries datastore definition.table) ∧
    ((∀ before, before <+: queries → ¬(empty.after before).Stuck datastore definition) ↔
      ¬empty.Overtaken queries datastore definition.table) := by
  intro empty
  have found : empty.table datastore definition.table = .ok { definition } := table_put_self ..
  have stays := throughout_ahead_iff found (fun row absurd => nomatch absurd) inRange
  refine ⟨stays, Iff.trans ?_ stays⟩
  have isDefined := (keeps_empty start datastore definition).after
  constructor
  · intro neverStuck before isPrefix
    obtain ⟨table, stored, isDefinition, -⟩ := isDefined before
    obtain ⟨_, found, tableInRange⟩ := inRange before isPrefix
    obtain rfl := Except.ok.inj (stored.symm.trans found)
    refine ⟨table, stored, ?_⟩
    by_contra behind
    exact neverStuck before isPrefix ((stuck_iff numbered stored isDefinition tableInRange).mpr behind)
  · intro throughout before isPrefix stuck
    obtain ⟨table, stored, isDefinition, -⟩ := isDefined before
    obtain ⟨_, found, ahead⟩ := throughout before isPrefix
    obtain rfl := Except.ok.inj (stored.symm.trans found)
    obtain ⟨_, found, tableInRange⟩ := inRange before isPrefix
    obtain rfl := Except.ok.inj (stored.symm.trans found)
    exact (stuck_iff numbered stored isDefinition tableInRange).mp stuck ahead

/-- Users, who are numbered. -/
def numberedUsers : TableDefinition where
  table := "users"
  primaryKey := "id"
  autoIncrement := true
  uniqueColumns := []

/-- A first user is created and then numbered `2`, which is the number for the second one. -/
def renumbering : List (String × PhysicalQuery) :=
  [("main", { method := .create, table := "users", records := [[]] }),
    ("main", { method := .update, table := "users", values := some [("id", .ofNat 2)] })]

/-- A user who is given the number of the next one leaves the numbers in range, and the store comes to a
state in which users without a number are refused for it. -/
theorem renumbering_stuck :
    let start : Store := { keys := { draw := toString } }
    let empty := start.put "main" "users" { definition := numberedUsers }
    empty.Throughout renumbering "main" "users" Table.InRange ∧ empty.Overtaken renumbering "main" "users" ∧
      ∃ before, before <+: renumbering ∧ (empty.after before).Stuck "main" numberedUsers := by
  intro start empty
  have inRange : empty.Throughout renumbering "main" "users" Table.InRange := by
    refine throughout_cons.mpr ⟨⟨_, rfl, by decide⟩, throughout_cons.mpr ⟨⟨_, rfl, by decide⟩, ?_⟩⟩
    intro before isPrefix
    obtain rfl := List.prefix_nil.mp isPrefix
    exact ⟨_, rfl, by decide⟩
  have overtaken : empty.Overtaken renumbering "main" "users" := by
    refine ⟨renumbering.take 1, renumbering[1].2, [], _, rfl, rfl, rfl, rfl, ⟨_, rfl⟩, ?_, 2, rfl, ?_⟩
    · exact ⟨_, List.mem_cons_self .., rfl⟩
    · decide
  have exactly := (numbers_ahead_iff start "main" numberedUsers rfl renumbering inRange).2
  have stuck := mt exactly.mp (not_not_intro overtaken)
  push Not at stuck
  exact ⟨inRange, overtaken, stuck⟩

end Store

end RecordMapper
