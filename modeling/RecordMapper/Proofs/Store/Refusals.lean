import RecordMapper.Proofs.Store.Keys
import RecordMapper.Proofs.Store.Mutations

/-! # What a refused write clashes in

A store refuses a write for one column, in which a row that would be written agrees with another one, written or left
alone. The rows that are there are distinct, so the column is one that the write sets, or else it is that of the key
and the store filled it in: with the next number, which a row may have already, or with a text, which no row has as
long as fresh texts are drawn.
-/

namespace RecordMapper

namespace Record

/-- One of some rows agrees in a column with another one of them, or with a row beside them. -/
def ClashesIn (column : String) (rows beside : List Record) : Prop :=
  ∃ before row after, rows = before ++ row :: after ∧
    ∃ other ∈ before ++ after ++ beside, Agree column row other

variable {column : String} {rows beside : List Record}

theorem exists_agree_of_not_distinctIn (clash : ¬DistinctIn column rows) :
    ∃ before row after, rows = before ++ row :: after ∧ ∃ other ∈ after, Agree column row other := by
  induction rows with
  | nil => exact absurd .nil clash
  | cons first rest ih =>
    by_cases apart : ∀ other ∈ rest, ¬Agree column first other
    · obtain ⟨before, row, after, rfl, agrees⟩ := ih fun distinct => clash (.cons apart distinct)
      exact ⟨first :: before, row, after, rfl, agrees⟩
    · push Not at apart
      exact ⟨[], first, rest, rfl, apart⟩

/-- Rows that are not distinct beside distinct ones clash in the column. -/
theorem clashesIn_of_not_distinctIn (clash : ¬DistinctIn column (rows ++ beside))
    (distinct : DistinctIn column beside) : ClashesIn column rows beside := by
  by_cases within : DistinctIn column rows
  · obtain ⟨row, member, other, isBeside, agree⟩ :
        ∃ row ∈ rows, ∃ other ∈ beside, Agree column row other := by
      by_contra none
      push Not at none
      exact clash (distinctIn_append.mpr ⟨within, distinct, none⟩)
    obtain ⟨before, after, rfl⟩ := List.append_of_mem member
    exact ⟨before, row, after, rfl, other, List.mem_append_right _ isBeside, agree⟩
  · obtain ⟨before, row, after, split, other, isLater, agree⟩ := exists_agree_of_not_distinctIn within
    exact ⟨before, row, after, split, other, List.mem_append_left _ (List.mem_append_right _ isLater), agree⟩

/-- A row agrees with one that got a text only where it holds that text. -/
theorem get?_of_agree_insert_text {row other : Record} {text : String}
    (agree : Agree column (Dictionary.insert row column (.text text)) other) :
    Dictionary.get? other column = some (.text text) := by
  obtain ⟨value, found, held, isFound, -, same⟩ := agree
  rw [Dictionary.get?_insert, if_pos rfl] at held
  obtain rfl := Option.some.inj held
  cases found <;> simp [Json.same] at same
  rw [isFound, same]

/-- Rows that hold nothing in a column are distinct in it from each other and from all others. -/
theorem distinctIn_append_of_absent {others : List Record} (distinct : DistinctIn column others)
    (absent : ∀ row ∈ rows, Dictionary.get? row column = none) : DistinctIn column (others ++ rows) := by
  have apart (row : Record) (member : row ∈ rows) (other : Record) : ¬Agree column other row := by
    rintro ⟨_, _, -, held, -⟩
    rw [absent row member] at held
    cases held
  have within : DistinctIn column rows :=
    List.pairwise_of_forall_mem_list fun first _ second member => apart second member first
  exact distinctIn_append.mpr ⟨distinct, within, fun other _ row member => apart row member other⟩

end Record

open Record

/-- The texts that are still to be drawn are different, and no row holds one of them in a column. -/
structure KeySupply.FreshFor (supply : KeySupply) (column : String) (rows : List Record) : Prop where
  injective : Function.Injective supply.draw
  unused : ∀ count, supply.used ≤ count → ∀ row ∈ rows,
    Dictionary.get? row column ≠ some (.text (supply.draw count))

/-- A text that is drawn and stored leaves the others fresh. -/
theorem KeySupply.FreshFor.next {supply : KeySupply} {column : String} {rows : List Record}
    (fresh : supply.FreshFor column rows) (row : Record) :
    supply.next.2.FreshFor column (rows ++ [Dictionary.insert row column (.text supply.next.1)]) where
  injective := fresh.injective
  unused := by
    intro count later other member held
    rcases List.mem_append.mp member with before | isNewest
    · exact fresh.unused count (Nat.le_of_succ_le later) other before held
    · rw [List.mem_singleton.mp isNewest, Dictionary.get?_insert, if_pos rfl, Option.some.injEq,
        Json.text.injEq] at held
      have same : supply.used = count := fresh.injective held
      have : supply.used + 1 ≤ count := later
      omega

namespace Table

variable {table : Table}

/-- Keys that are fresh texts are distinct from each other and from all that are there. -/
theorem distinctIn_keyedAll (texts : table.definition.autoIncrement = false) {supply : KeySupply}
    {rows batch : List Record} (fresh : supply.FreshFor table.definition.primaryKey rows)
    (distinct : DistinctIn table.definition.primaryKey rows)
    (lack : ∀ record ∈ batch, ¬record.Has table.definition.primaryKey) :
    DistinctIn table.definition.primaryKey (rows ++ table.keyedAll supply batch) := by
  induction batch generalizing supply rows with
  | nil => rwa [keyedAll, List.append_nil]
  | cons row batch ih =>
    obtain ⟨lacks, later⟩ := List.forall_mem_cons.mp lack
    have isKeyed := table.keyed_of_absent lacks supply
    rw [if_neg (by simp [texts])] at isKeyed
    rw [keyedAll, isKeyed, List.append_cons]
    refine ih (fresh.next row) (distinctIn_append.mpr ⟨distinct, List.pairwise_singleton _ _, ?_⟩) later
    intro other member newest isNewest agree
    obtain rfl := List.mem_singleton.mp isNewest
    exact fresh.unused supply.used (Nat.le_refl _) other member (get?_of_agree_insert_text agree.symm)

/-- The rows that a query leaves alone. -/
def untouched (table : Table) (query : PhysicalQuery) : List Record :=
  match query.method with
  | .update | .destroy => table.rows.filter fun row => !query.criteria.clause.accepts row
  | _ => table.rows

end Table

namespace PhysicalQuery

/-- A query that adds rows or overwrites them. -/
def Writes (query : PhysicalQuery) : Prop :=
  query.method = .create ∨ query.method = .createEach ∨ query.method = .update

theorem Writes.isMutation {query : PhysicalQuery} (writes : query.Writes) : query.method.isMutation = true := by
  rcases writes with method | method | method
  all_goals
    rw [method]
    rfl

/-- A query gives a column values, in new rows or over old ones. -/
def Sets (query : PhysicalQuery) (column : String) : Prop :=
  match query.method with
  | .create | .createEach => ∃ record ∈ query.records, column ∈ Dictionary.names record
  | .update => column ∈ Dictionary.names (query.values.getD [])
  | _ => False

end PhysicalQuery

namespace Table

variable {table : Table} {supply : KeySupply} {query : PhysicalQuery}

/-- What a query writes and what it leaves alone are the rows that are there after it. -/
theorem affected_append_untouched_perm (writes : query.Writes) :
    (table.affected supply query ++ table.untouched query).Perm (table.outcome supply query) := by
  unfold affected untouched outcome
  rcases writes with method | method | method
  · rw [method]
    exact List.perm_append_comm
  · rw [method]
    exact List.perm_append_comm
  · rw [method]
    exact table.overwritten_perm ..

theorem untouched_sublist (table : Table) (query : PhysicalQuery) : (table.untouched query).Sublist table.rows := by
  unfold untouched
  split
  · exact List.filter_sublist
  · exact List.filter_sublist
  · exact List.Sublist.refl _

/-- Rows added without a value in a column are distinct in it, unless it is the key column and the keys that are
filled in are numbers, or texts that are not fresh. -/
theorem distinctIn_append_keyedAll {batch : List Record} {column : String} (distinct : DistinctIn column table.rows)
    (absent : ∀ record ∈ batch, Dictionary.get? record column = none)
    (fresh : column = table.definition.primaryKey →
      table.definition.autoIncrement = false ∧ supply.FreshFor column table.rows) :
    DistinctIn column (table.rows ++ table.keyedAll supply batch) := by
  by_cases isKey : column = table.definition.primaryKey
  · obtain ⟨texts, isFresh⟩ := fresh isKey
    subst isKey
    refine table.distinctIn_keyedAll texts isFresh distinct fun record member => ?_
    rw [not_has_iff, absent record member]
    rfl
  · refine distinctIn_append_of_absent distinct fun row member => ?_
    obtain ⟨record, isRecord, keyed⟩ := Results.exists_mem_of_forall₂ (table.keyedAll_spec supply batch) row member
    rw [keyed.get?_other (Ne.symm isKey), absent record isRecord]

/-- Rows that are overwritten without a value in a column are as distinct in it as before. -/
theorem distinctIn_overwritten {column : String} (distinct : DistinctIn column table.rows) {values : Record}
    (unset : column ∉ Dictionary.names values) (clause : Clause) :
    DistinctIn column (table.overwritten clause values) := by
  have kept (row : Record) :
      Dictionary.get? (if clause.accepts row then Dictionary.insertAll row values else row) column =
        Dictionary.get? row column := by
    split
    · exact Dictionary.get?_insertAll_of_notMem unset
    · rfl
  exact List.pairwise_map.mpr (distinct.imp fun {first second} apart agree =>
    apart ((agree_congr (kept first) (kept second)).mp agree))

/-- In a column that it does not set a query leaves distinct rows distinct, unless it is the key column and the keys
that are filled in are numbers, or texts that are not fresh. -/
theorem distinctIn_outcome (writes : query.Writes) {column : String} (distinct : DistinctIn column table.rows)
    (unset : ¬query.Sets column)
    (fresh : column = table.definition.primaryKey →
      table.definition.autoIncrement = false ∧ supply.FreshFor column table.rows) :
    DistinctIn column (table.outcome supply query) := by
  have absent (lack : ¬∃ record ∈ query.records, column ∈ Dictionary.names record) :
      ∀ record ∈ query.records, Dictionary.get? record column = none := by
    intro record member
    exact Dictionary.get?_eq_none_iff.mpr fun given => lack ⟨record, member, given⟩
  unfold PhysicalQuery.Sets at unset
  unfold outcome
  rcases writes with method | method | method
  · rw [method] at unset ⊢
    exact distinctIn_append_keyedAll distinct (absent unset) fresh
  · rw [method] at unset ⊢
    exact distinctIn_append_keyedAll distinct (absent unset) fresh
  · rw [method] at unset ⊢
    exact distinctIn_overwritten distinct unset _

end Table

/-- A write that a store refuses is refused for one column, in which what it would have written clashes. The write
sets that column, or else it is the key column, filled in with numbers or with texts that are not fresh. -/
theorem Store.refused_cases {store next : Store} {datastore : String} {query : PhysicalQuery} {table : Table}
    {error : AdapterError} (found : store.table datastore query.table = .ok table) (writes : query.Writes)
    (admits : table.definition.Admits table.rows)
    (refused : store.answer? datastore query = some (.error error, next)) :
    ∃ column, error = .notUnique [column] ∧
      ClashesIn column (table.affected store.keys query) (table.untouched query) ∧
      (query.Sets column ∨ column = table.definition.primaryKey ∧
        (table.definition.autoIncrement = true ∨ ¬store.keys.FreshFor column table.rows)) := by
  rcases answer?_cases found writes.isMutation with ⟨column, keys, answered, member, agree⟩ | ⟨_, _, done, -⟩
  · obtain ⟨rfl, -⟩ : AdapterError.notUnique [column] = error ∧ _ := by
      simpa only [Option.some.injEq, Prod.mk.injEq, Except.error.injEq] using answered.symm.trans refused
    have distinct := TableDefinition.admits_iff.mp admits column member
    have clash := agreeWithin_iff.mp agree
    refine ⟨column, rfl, ?_, ?_⟩
    · rw [← distinctIn_perm (table.affected_append_untouched_perm writes)] at clash
      exact clashesIn_of_not_distinctIn clash (distinct.sublist (table.untouched_sublist query))
    · by_contra neither
      obtain ⟨unset, unfilled⟩ := not_or.mp neither
      refine clash (table.distinctIn_outcome writes distinct unset fun isKey => ?_)
      obtain ⟨texts, fresh⟩ := not_or.mp fun either => unfilled ⟨isKey, either⟩
      exact ⟨Bool.eq_false_iff.mpr texts, not_not.mp fresh⟩
  · rw [done] at refused
    cases refused

end RecordMapper
