import RecordMapper.Proofs.Dictionary
import RecordMapper.Proofs.Json.Equality
import RecordMapper.Store.Table

/-! # Which writes a table refuses

A table admits rows that hold distinct values in its key and in its unique columns, null apart. An
added row is compared with every row before it, but overwritten rows are compared with one another
only in the columns that are set. The rows that were there are admitted, so the comparisons that are
left out could not have found anything: a write is refused exactly when its outcome would not be
admitted.
-/

namespace RecordMapper

namespace Record

/-- Two rows hold one value, which is not null, in a column. -/
def Agree (column : String) (first second : Record) : Prop :=
  ∃ value other, Dictionary.get? first column = some value ∧ Dictionary.get? second column = some other ∧
    value.isNull = false ∧ value.same other = true

theorem Agree.symm {column : String} {first second : Record} (agree : Agree column first second) :
    Agree column second first := by
  obtain ⟨value, other, held, found, notNull, same⟩ := agree
  refine ⟨other, value, found, held, ?_, ?_⟩
  · rw [← Json.isNull_of_same same]
    exact notNull
  · rw [Json.same_comm]
    exact same

/-- Agreement depends only on what the rows hold in the column. -/
theorem agree_congr {column : String} {first second other another : Record}
    (left : Dictionary.get? first column = Dictionary.get? other column)
    (right : Dictionary.get? second column = Dictionary.get? another column) :
    Agree column first second ↔ Agree column other another := by
  simp only [Agree, left, right]

theorem clashes_iff (column : String) (row other : Record) :
    row.clashes other column = true ↔ Agree column row other := by
  unfold clashes Agree Json.present?
  cases held : Dictionary.get? row column with
  | none => simp
  | some value =>
    cases found : Dictionary.get? other column with
    | none => simp
    | some present => cases null : value.isNull <;> simp [Option.filter, null, Json.same_comm value present]

/-- No two rows of a list agree in a column. -/
def DistinctIn (column : String) (rows : List Record) : Prop :=
  rows.Pairwise fun first second => ¬Agree column first second

theorem distinctIn_perm {column : String} {rows others : List Record} (perm : rows.Perm others) :
    DistinctIn column rows ↔ DistinctIn column others :=
  perm.pairwise_iff fun distinct agree => distinct agree.symm

theorem distinctIn_append {column : String} {rows others : List Record} :
    DistinctIn column (rows ++ others) ↔ DistinctIn column rows ∧ DistinctIn column others ∧
      ∀ row ∈ rows, ∀ other ∈ others, ¬Agree column row other :=
  List.pairwise_append

/-- Two rows of a list that agree in a column, at two places of it. -/
def AgreeWithin (column : String) (rows : List Record) : Prop :=
  ∃ (i j : Nat) (first second : Record), i < j ∧ rows[i]? = some first ∧ rows[j]? = some second ∧
    Agree column first second

theorem agreeWithin_iff {column : String} {rows : List Record} :
    AgreeWithin column rows ↔ ¬DistinctIn column rows := by
  rw [DistinctIn, List.pairwise_iff_getElem]
  constructor
  · rintro ⟨i, j, first, second, before, atFirst, atSecond, agree⟩ distinct
    obtain ⟨iBound, rfl⟩ := List.getElem?_eq_some_iff.mp atFirst
    obtain ⟨jBound, rfl⟩ := List.getElem?_eq_some_iff.mp atSecond
    exact distinct i j iBound jBound before agree
  · intro clash
    simp only [Classical.not_forall, Classical.not_not] at clash
    obtain ⟨i, j, iBound, jBound, before, agree⟩ := clash
    exact ⟨i, j, rows[i], rows[j], before, List.getElem?_eq_getElem iBound,
      List.getElem?_eq_getElem jBound, agree⟩

theorem collision?_eq_none_iff {columns : List String} {row : Record} {others : List Record} :
    row.collision? columns others = none ↔
      ∀ column ∈ columns, ∀ other ∈ others, ¬Agree column row other := by
  simp only [collision?, List.find?_eq_none, List.any_eq_true, clashes_iff, not_exists, not_and]

theorem agree_of_collision? {columns : List String} {row : Record} {others : List Record}
    {column : String} (collision : row.collision? columns others = some column) :
    column ∈ columns ∧ ∃ other ∈ others, Agree column row other := by
  refine ⟨List.mem_of_find?_eq_some collision, ?_⟩
  have found := List.find?_some collision
  simpa only [List.any_eq_true, clashes_iff] using found

end Record

namespace TableDefinition

theorem mem_distinctColumns (definition : TableDefinition) (column : String) :
    column ∈ definition.distinctColumns ↔
      column = definition.primaryKey ∨ column ∈ definition.uniqueColumns := by
  simp only [distinctColumns, List.mem_cons, List.mem_filter, decide_eq_true_eq]
  constructor
  · rintro (key | ⟨unique, _⟩)
    · exact .inl key
    · exact .inr unique
  · rintro (key | unique)
    · exact .inl key
    · by_cases key : column = definition.primaryKey
      · exact .inl key
      · exact .inr ⟨unique, key⟩

/-- The rows that a table may hold: no two agree in the key or in a unique column. -/
def Admits (definition : TableDefinition) (rows : List Record) : Prop :=
  ∀ column, column = definition.primaryKey ∨ column ∈ definition.uniqueColumns →
    Record.DistinctIn column rows

theorem admits_iff {definition : TableDefinition} {rows : List Record} :
    definition.Admits rows ↔ ∀ column ∈ definition.distinctColumns, Record.DistinctIn column rows := by
  simp only [Admits, mem_distinctColumns]

/-- Rows with two that agree in a distinct column are not admitted. -/
theorem not_admits {definition : TableDefinition} {rows : List Record} {column : String}
    (member : column ∈ definition.distinctColumns) (agree : Record.AgreeWithin column rows) :
    ¬definition.Admits rows := fun admits =>
  Record.agreeWithin_iff.mp agree (admits_iff.mp admits column member)

end TableDefinition

namespace Table

open Record

/-! ## Adding rows -/

/-- The rows of a batch with their keys, as they would be added one after another. -/
def keyedAll (table : Table) (supply : KeySupply) : List Record → List Record
  | [] => []
  | row :: rest =>
    let (row, table, supply) := table.keyed supply row
    row :: table.keyedAll supply rest

/-- The key of a row depends on the definition of its table and on the keys given out before, not on
the rows that are there. -/
theorem keyed_withRows (table : Table) (rows : List Record) (supply : KeySupply) (row : Record) :
    ({ table with rows } : Table).keyed supply row =
      ((table.keyed supply row).1, { (table.keyed supply row).2.1 with rows },
        (table.keyed supply row).2.2) := by
  unfold keyed
  dsimp only
  split
  · split <;> rfl
  · split <;> rfl

theorem keyedAll_withRows (table : Table) (rows : List Record) (supply : KeySupply)
    (batch : List Record) :
    ({ table with rows } : Table).keyedAll supply batch = table.keyedAll supply batch := by
  induction batch generalizing table supply with
  | nil => rfl
  | cons row rest ih => simp only [keyedAll, keyed_withRows, ih]

theorem keyed_definition (table : Table) (supply : KeySupply) (row : Record) :
    (table.keyed supply row).2.1.definition = table.definition := by
  unfold keyed
  dsimp only
  split
  · split <;> rfl
  · split <;> rfl

theorem keyed_rows (table : Table) (supply : KeySupply) (row : Record) :
    (table.keyed supply row).2.1.rows = table.rows := by
  unfold keyed
  dsimp only
  split
  · split <;> rfl
  · split <;> rfl

/-- One added row: either it agrees with a row that is there, or it stands behind them all. -/
theorem add_cases (table : Table) (supply : KeySupply) (row : Record) :
    (∃ column, table.add supply row = (.error column, (table.keyed supply row).2.2) ∧
      column ∈ table.definition.distinctColumns ∧
      ∃ other ∈ table.rows, Agree column (table.keyed supply row).1 other) ∨
    (table.add supply row = (.ok ((table.keyed supply row).1,
        { (table.keyed supply row).2.1 with rows := table.rows ++ [(table.keyed supply row).1] }),
        (table.keyed supply row).2.2) ∧
      ∀ column ∈ table.definition.distinctColumns, ∀ other ∈ table.rows,
        ¬Agree column (table.keyed supply row).1 other) := by
  unfold add
  dsimp only
  rw [keyed_definition, keyed_rows]
  cases collision : (table.keyed supply row).1.collision? table.definition.distinctColumns table.rows with
  | some column => exact .inl ⟨column, rfl, agree_of_collision? collision⟩
  | none => exact .inr ⟨rfl, collision?_eq_none_iff.mp collision⟩

/-- A refused batch names a column in which two rows of the outcome would agree. -/
theorem addAll_error {table : Table} {supply rest : KeySupply} {batch : List Record}
    {column : String} (refused : table.addAll supply batch = (.error column, rest)) :
    column ∈ table.definition.distinctColumns ∧
      AgreeWithin column (table.rows ++ table.keyedAll supply batch) := by
  rw [agreeWithin_iff]
  induction batch generalizing table supply with
  | nil => simp [addAll] at refused
  | cons row batch ih =>
    simp only [addAll, keyedAll] at refused ⊢
    rcases table.add_cases supply row with ⟨clash, added, member, other, present, agree⟩ | ⟨added, _⟩
    · rw [added] at refused
      obtain ⟨rfl, -⟩ : clash = column ∧ _ = rest := by simpa using refused
      refine ⟨member, fun distinct => ?_⟩
      exact (distinctIn_append.mp distinct).2.2 other present _ (List.mem_cons_self ..) agree.symm
    · rw [added] at refused
      dsimp only at refused
      split at refused
      · next later =>
        obtain ⟨rfl, rfl⟩ : _ = column ∧ _ = rest := by simpa using refused
        have found := ih later
        rw [keyedAll_withRows, List.append_assoc, keyed_definition] at found
        exact found
      · simp at refused

/-- A batch that was not refused stands behind the rows that were there, as it is. -/
theorem addAll_rows {table next : Table} {supply rest : KeySupply} {batch added : List Record}
    (done : table.addAll supply batch = (.ok (added, next), rest)) :
    added = table.keyedAll supply batch ∧ next.definition = table.definition ∧
      next.rows = table.rows ++ added := by
  induction batch generalizing table supply added with
  | nil =>
    obtain ⟨⟨rfl, rfl⟩, -⟩ : (_ ∧ _) ∧ _ := by simpa [addAll] using done
    exact ⟨rfl, rfl, by simp⟩
  | cons row batch ih =>
    simp only [addAll, keyedAll] at done ⊢
    rcases table.add_cases supply row with ⟨_, refused, _⟩ | ⟨first, -⟩
    · rw [refused] at done
      simp at done
    · rw [first] at done
      dsimp only at done
      split at done
      · simp at done
      · next later =>
        obtain ⟨⟨rfl, rfl⟩, rfl⟩ : (_ ∧ _) ∧ _ := by simpa using done
        have outcome := ih later
        rw [keyedAll_withRows, keyed_definition] at outcome
        obtain ⟨rows, definition, all⟩ := outcome
        exact ⟨congrArg _ rows, definition, by rw [all, List.append_assoc]; rfl⟩

/-- A batch that was not refused leaves rows that are admitted. -/
theorem addAll_admits {table next : Table} {supply rest : KeySupply} {batch added : List Record}
    (done : table.addAll supply batch = (.ok (added, next), rest))
    (admits : table.definition.Admits table.rows) : table.definition.Admits next.rows := by
  induction batch generalizing table supply added with
  | nil =>
    obtain ⟨⟨rfl, rfl⟩, -⟩ : (_ ∧ _) ∧ _ := by simpa [addAll] using done
    exact admits
  | cons row batch ih =>
    simp only [addAll] at done
    rcases table.add_cases supply row with ⟨_, refused, _⟩ | ⟨first, fresh⟩
    · rw [refused] at done
      simp at done
    · rw [first] at done
      dsimp only at done
      split at done
      · simp at done
      · next later =>
        obtain ⟨⟨rfl, rfl⟩, rfl⟩ : (_ ∧ _) ∧ _ := by simpa using done
        have admitted : table.definition.Admits (table.rows ++ [(table.keyed supply row).1]) := by
          rw [TableDefinition.admits_iff] at admits ⊢
          intro column member
          refine distinctIn_append.mpr ⟨admits column member, List.pairwise_singleton _ _, ?_⟩
          intro other present newest here agree
          obtain rfl := List.mem_singleton.mp here
          exact fresh column member other present agree.symm
        have outcome := ih later (by rw [keyed_definition]; exact admitted)
        rwa [keyed_definition] at outcome

/-! ## Overwriting rows -/

/-- The rows of a table with values written over those that match. -/
def overwritten (table : Table) (clause : Clause) (values : Record) : List Record :=
  table.rows.map fun row => if clause.accepts row then Dictionary.insertAll row values else row

/-- Written over or not, every row has its place; taken apart, those that match come first. -/
theorem overwritten_perm (table : Table) (clause : Clause) (values : Record) :
    ((table.rows.filter fun row => clause.accepts row).map (Dictionary.insertAll · values) ++
      table.rows.filter fun row => !clause.accepts row).Perm (table.overwritten clause values) := by
  have parts := (List.filter_append_perm (fun row => clause.accepts row) table.rows).map
    fun row => if clause.accepts row then Dictionary.insertAll row values else row
  rw [List.map_append] at parts
  refine List.Perm.trans (List.Perm.of_eq ?_) parts
  congr 1
  · apply List.map_congr_left
    intro row member
    rw [if_pos (List.mem_filter.mp member).2]
  · refine (List.map_id _).symm.trans (List.map_congr_left ?_)
    intro row member
    have misses := (List.mem_filter.mp member).2
    rw [Bool.not_eq_true'] at misses
    simp [misses]

/-- A refused update names a distinct column in which an overwritten row agrees with another one. -/
theorem agree_of_updateCollision? {distinct changed : List String}
    {others earlier updated : List Record} {column : String}
    (collision : updateCollision? distinct changed others earlier updated = some column) :
    column ∈ distinct ∧ ¬DistinctIn column (earlier ++ updated ++ others) := by
  induction updated generalizing earlier with
  | nil => simp [updateCollision?] at collision
  | cons row rest ih =>
    simp only [updateCollision?, Option.or_eq_some_iff] at collision
    rcases collision with (early | ⟨-, outside⟩) | ⟨-, later⟩
    · obtain ⟨member, other, present, agree⟩ := agree_of_collision? early
      refine ⟨(List.mem_filter.mp member).1, fun distinctRows => ?_⟩
      exact (distinctIn_append.mp (distinctIn_append.mp distinctRows).1).2.2 other present row
        (List.mem_cons_self ..) agree.symm
    · obtain ⟨member, other, present, agree⟩ := agree_of_collision? outside
      refine ⟨member, fun distinctRows => ?_⟩
      exact (distinctIn_append.mp distinctRows).2.2 row
        (List.mem_append_right _ (List.mem_cons_self ..)) other present agree
    · have found := ih later
      rwa [List.append_assoc earlier, List.singleton_append] at found

/-- What the comparisons of an update leave out: pairs of overwritten rows in columns that are not
set. -/
theorem updateCollision?_eq_none {distinct changed : List String}
    {others earlier updated : List Record}
    (free : updateCollision? distinct changed others earlier updated = none) :
    (∀ column ∈ distinct, column ∈ changed →
      DistinctIn column updated ∧ ∀ row ∈ updated, ∀ other ∈ earlier, ¬Agree column row other) ∧
    ∀ column ∈ distinct, ∀ row ∈ updated, ∀ other ∈ others, ¬Agree column row other := by
  induction updated generalizing earlier with
  | nil => simp [DistinctIn]
  | cons row rest ih =>
    simp only [updateCollision?, Option.or_eq_none_iff, collision?_eq_none_iff] at free
    obtain ⟨⟨early, outside⟩, later⟩ := free
    obtain ⟨among, apart⟩ := ih later
    constructor
    · intro column member isChanged
      obtain ⟨distinctRest, restEarlier⟩ := among column member isChanged
      refine ⟨List.pairwise_cons.mpr ⟨?_, distinctRest⟩, ?_⟩
      · intro other present agree
        exact restEarlier other present row (by simp) agree.symm
      · intro other present before isEarlier
        rcases List.mem_cons.mp present with rfl | inRest
        · exact early column (by simp [member, isChanged]) before isEarlier
        · exact restEarlier other inRest before (List.mem_append_left _ isEarlier)
    · intro column member other present
      rcases List.mem_cons.mp present with rfl | inRest
      · exact outside column member
      · exact apart column member other inRest

theorem update_error {table : Table} {clause : Clause} {values : Record} {column : String}
    (refused : table.update clause values = .error column) :
    column ∈ table.definition.distinctColumns ∧ AgreeWithin column (table.overwritten clause values) := by
  unfold update at refused
  simp only [List.partition_eq_filter_filter] at refused
  split at refused
  · next collision =>
    obtain rfl := Except.error.inj refused
    obtain ⟨member, clash⟩ := agree_of_updateCollision? collision
    rw [agreeWithin_iff, ← distinctIn_perm (table.overwritten_perm clause values)]
    exact ⟨member, clash⟩
  · simp at refused

/-- An update that was not refused writes over the rows that match, and answers with them. -/
theorem update_rows {table next : Table} {clause : Clause} {values : Record} {updated : List Record}
    (done : table.update clause values = .ok (updated, next)) :
    updated = (table.rows.filter fun row => clause.accepts row).map (Dictionary.insertAll · values) ∧
      next = { table with rows := table.overwritten clause values } := by
  unfold update at done
  simp only [List.partition_eq_filter_filter] at done
  split at done
  · cases done
  · obtain ⟨rfl, rfl⟩ := Prod.mk.inj (Except.ok.inj done)
    exact ⟨rfl, rfl⟩

/-- An update that was not refused leaves rows that are admitted. -/
theorem update_admits {table next : Table} {clause : Clause} {values : Record} {updated : List Record}
    (done : table.update clause values = .ok (updated, next))
    (admits : table.definition.Admits table.rows) :
    table.definition.Admits (table.overwritten clause values) := by
  unfold update at done
  simp only [List.partition_eq_filter_filter] at done
  split at done
  · simp at done
  · next free =>
    obtain ⟨-, rfl⟩ := Prod.mk.inj (Except.ok.inj done)
    obtain ⟨among, apart⟩ := updateCollision?_eq_none free
    refine TableDefinition.admits_iff.mpr fun column member => ?_
    have before := TableDefinition.admits_iff.mp admits column member
    rw [← distinctIn_perm (table.overwritten_perm clause values)]
    refine distinctIn_append.mpr ⟨?_, before.filter _, apart column member⟩
    by_cases isChanged : column ∈ Dictionary.names values
    · exact (among column member isChanged).1
    · -- the column is not set, so the overwritten rows hold in it what the rows before them held
      refine List.pairwise_map.mpr ((before.filter _).imp fun distinct agree => distinct ?_)
      exact (agree_congr (Dictionary.get?_insertAll_of_notMem isChanged)
        (Dictionary.get?_insertAll_of_notMem isChanged)).mp agree

/-! ## Taking rows out -/

theorem destroy_eq (table : Table) (clause : Clause) :
    table.destroy clause = (table.rows.filter fun row => clause.accepts row,
      { table with rows := table.rows.filter fun row => !clause.accepts row }) := by
  simp only [destroy, List.partition_eq_filter_filter]
  rfl

end Table

end RecordMapper
