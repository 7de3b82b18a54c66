import RecordMapper.Proofs.Criteria.Renaming
import RecordMapper.Proofs.Query.Lowering
import RecordMapper.Proofs.Store.Keys
import RecordMapper.Proofs.Store.Mutations

/-! # What a mutation does to records

A mutation is described in terms of records, and a store carries it out on rows. `Effect` says what it
does to a list of records, without a table. What it does to the rows of these records is the same, with
one exception: the keys of new records are filled in by the table, under the column that the table has
them in.
-/

namespace RecordMapper

open Results

variable {σ : Type}

/-- Whether a record satisfies the clause of a query. -/
def Description.means (query : Description σ) (model : Model) (record : Record) : Bool :=
  RawCriteria.satisfied record (RawCriteria.clause model.primaryKey query.criteria)

/-- What a mutation does to records: what they become, and the ones that it affects in their order. -/
inductive Effect (model : Model) (now : Instant) (query : Description σ) (records : List Record) :
    List Record → List Record → Prop where
  /-- New records, each with a key, stand behind those that were there. -/
  | added {given created : List Record} (creates : query.method.takesRecords = true)
      (read : query.compileRecords model now = .ok given)
      (keyed : List.Forall₂ (Record.Keyed model.primaryKey) given created) :
      Effect model now query records (records ++ created) created
  /-- Values are written over the records that satisfy the clause. -/
  | overwritten {raw : Json} {values : Record} (updates : query.method = .update)
      (given : query.values = some raw) (read : model.readChanges now raw = .ok values) :
      Effect model now query records
        (records.map fun record =>
          if query.means model record then Dictionary.insertAll record values else record)
        ((records.filter (query.means model)).map (Dictionary.insertAll · values))
  /-- The records that satisfy the clause are taken out. -/
  | removed (destroys : query.method = .destroy) :
      Effect model now query records (records.filter fun record => !query.means model record)
        (records.filter (query.means model))

/-- A table gives new records the keys that their model asks for: its key is in the column of the model's
key, or there is nothing to fill in on either side. -/
def RegisteredModel.FillsKeys (registered : RegisteredModel σ) (definition : TableDefinition)
    (added : List Record) : Prop :=
  registered.columns.column registered.model.primaryKey = .ok definition.primaryKey ∨
    ∀ record ∈ added, record.Has registered.model.primaryKey ∧
      (registered.columns.rowOf record).Has definition.primaryKey

variable {registry : Registry σ} {registered : RegisteredModel σ} {now : Instant} {query : Description σ}
    {compiled : LogicalQuery σ} {physical : PhysicalQuery}

/-- A mutation takes no associations. -/
theorem Method.takesPopulates_of_isMutation {method : Method} (mutation : method.isMutation = true) :
    method.takesPopulates = false := by
  revert mutation
  cases method <;> decide

/-- A mutation has no joins. -/
theorem joins_eq_nil (made : query.CompiledTo registry now registered.model compiled)
    (lowered : compiled.LoweredTo registered registry physical) (mutation : query.method.isMutation = true) :
    physical.joins = [] := by
  have joins := lowered.joins
  rw [made.populates_eq_nil (Method.takesPopulates_of_isMutation mutation)] at joins
  exact (pure_eq_ok.mp joins).symm

/-- The rows of new records, which are covered. -/
theorem LogicalQuery.LoweredTo.records_eq (lowered : compiled.LoweredTo registered registry physical) :
    (∀ record ∈ compiled.records, registered.columns.Covers record) ∧
      physical.records = compiled.records.map registered.columns.rowOf :=
  Columns.rows_of_lower lowered.records

theorem LogicalQuery.LoweredTo.storable (lowered : compiled.LoweredTo registered registry physical)
    (sorted : ∀ record ∈ compiled.records, Dictionary.Sorted record) :
    ∀ record ∈ compiled.records, registered.columns.Storable record :=
  fun record member => ⟨sorted record member, lowered.records_eq.1 record member⟩

/-- The row of the values of an update, which are covered. -/
theorem LogicalQuery.LoweredTo.values_eq (lowered : compiled.LoweredTo registered registry physical)
    {values : Record} (given : compiled.values = some values) :
    registered.columns.Covers values ∧ physical.values = some (registered.columns.rowOf values) := by
  have done := lowered.values
  rw [given] at done
  obtain ⟨row, isRow, same⟩ := map_eq_ok.mp done
  obtain ⟨covers, rfl⟩ := Columns.rowOf_of_lower isRow
  exact ⟨covers, same.symm⟩

/-- The lowered clause of a mutation accepts the rows of the records that satisfy its raw clause. -/
theorem accepts_rowOf (faithful : registered.columns.Faithful)
    (made : query.CompiledTo registry now registered.model compiled)
    (lowered : compiled.LoweredTo registered registry physical) (mutation : query.method.isMutation = true)
    (takes : query.method.takesCriteria = true) {record : Record} (storable : registered.columns.Storable record) :
    physical.criteria.clause.accepts (registered.columns.rowOf record) =
      query.means registered.model record := by
  have renamed := lowered.criteria
  rw [joins_eq_nil made lowered mutation] at renamed
  change (LogicalQuery.resolveOmission registered.model compiled.criteria).rename _ = _ at renamed
  have clause := (Criteria.rename_eq_ok.mp renamed).1
  have unomitted : (LogicalQuery.resolveOmission registered.model compiled.criteria).clause =
      compiled.criteria.clause := by
    unfold LogicalQuery.resolveOmission
    split <;> rfl
  rw [unomitted] at clause
  have read := made.criteria
  rw [Description.compileCriteria, if_pos takes] at read
  rw [Clause.accepts_rename (fun _ _ _ found => faithful.get?_rowOf storable found) clause]
  exact (Criteria.readFrom_of_read read).accepts_eq record

section Rows

variable {table : Table} {records : List Record}

/-- The new records as a table adds them, if it fills in the keys that their model asks for. -/
theorem exists_created (faithful : registered.columns.Faithful)
    (lowered : compiled.LoweredTo registered registry physical)
    (added : ∀ record ∈ compiled.records, registered.columns.Storable record)
    (fills : registered.FillsKeys table.definition compiled.records) (supply : KeySupply) :
    ∃ created, List.Forall₂ (Record.Keyed registered.model.primaryKey) compiled.records created ∧
      created.map registered.columns.rowOf = table.keyedAll supply physical.records ∧
      ∀ record ∈ created, registered.columns.Storable record := by
  obtain ⟨-, rows⟩ := lowered.records_eq
  have keyed := table.keyedAll_spec supply physical.records
  rw [rows] at keyed ⊢
  rcases fills with found | has
  · obtain ⟨created, isKeyed, same⟩ := faithful.exists_forall₂_keyed found added keyed
    exact ⟨created, isKeyed, same, Columns.storable_of_forall₂_keyed found added isKeyed⟩
  · -- whichever column the table fills in, it finds something there
    have hasKey : ∀ record ∈ compiled.records, record.Has registered.model.primaryKey :=
      fun record member => (has record member).1
    refine ⟨compiled.records, Record.forall₂_keyed_self hasKey, ?_, added⟩
    refine (Record.eq_of_forall₂_keyed keyed fun row member => ?_).symm
    obtain ⟨record, isRecord, rfl⟩ := List.mem_map.mp member
    exact (has record isRecord).2

variable (faithful : registered.columns.Faithful)
  (made : query.CompiledTo registry now registered.model compiled)
  (lowered : compiled.LoweredTo registered registry physical)
  (added : ∀ record ∈ compiled.records, registered.columns.Storable record)
  (each : ∀ record ∈ records, registered.columns.Storable record)
  (rows : table.rows = records.map registered.columns.rowOf)

include faithful made lowered added each rows

/-- The rows that a mutation leaves and those that it affects are the rows of what it does to the records,
if the table fills in the keys that their model asks for. -/
theorem exists_effect (mutation : query.method.isMutation = true)
    (fills : registered.FillsKeys table.definition compiled.records) (supply : KeySupply) :
    ∃ contents affected, Effect registered.model now query records contents affected ∧
      (∀ record ∈ contents, registered.columns.Covers record) ∧
      (∀ record ∈ affected, registered.columns.Storable record) ∧
      table.outcome supply physical = contents.map registered.columns.rowOf ∧
      table.affected supply physical = affected.map registered.columns.rowOf := by
  have method_eq : physical.method = query.method := lowered.method_eq.trans made.method_eq
  have covers : ∀ record ∈ records, registered.columns.Covers record :=
    fun record member => (each record member).covers
  have accepts (takes : query.method.takesCriteria = true) : ∀ record ∈ records,
      physical.criteria.clause.accepts (registered.columns.rowOf record) =
        query.means registered.model record := fun record member =>
    accepts_rowOf faithful made lowered mutation takes (each record member)
  cases method : query.method with
  | create | createEach =>
    obtain ⟨created, isKeyed, same, covered⟩ := exists_created faithful lowered added fills supply
    have creates : query.method.takesRecords = true := by
      rw [method]
      rfl
    refine ⟨records ++ created, created, .added creates made.records isKeyed, ?_, covered, ?_, ?_⟩
    · exact List.forall_mem_append.mpr ⟨covers, fun record member => (covered record member).covers⟩
    · simp only [Table.outcome, method_eq, method, rows, List.map_append, same]
    · simp only [Table.affected, method_eq, method, same]
  | update =>
    have meant := accepts (by rw [method]; rfl)
    obtain ⟨raw, values, isRaw, read, isValues⟩ := made.values_of_update method
    obtain ⟨valuesCovers, rowValues⟩ := lowered.values_eq isValues
    have written : ∀ record ∈ records, registered.columns.rowOf (Dictionary.insertAll record values) =
        Dictionary.insertAll (registered.columns.rowOf record) (registered.columns.rowOf values) :=
      fun record member => faithful.rowOf_insertAll (each record member) valuesCovers
    refine ⟨_, _, .overwritten method isRaw read, ?_, ?_, ?_, ?_⟩
    · refine List.forall_mem_map.mpr fun record member => ?_
      split
      · exact (covers record member).insertAll valuesCovers
      · exact covers record member
    · refine List.forall_mem_map.mpr fun record isMeant => ?_
      exact (each record (List.mem_filter.mp isMeant).1).insertAll valuesCovers
    · simp only [Table.outcome, method_eq, method, Table.overwritten, rows, rowValues, Option.getD_some,
        List.map_map]
      refine List.map_congr_left fun record member => ?_
      dsimp only [Function.comp_apply]
      rw [meant record member, apply_ite registered.columns.rowOf, written record member]
    · simp only [Table.affected, method_eq, method, rows, rowValues, Option.getD_some]
      rw [filter_map_eq meant, List.map_map, List.map_map]
      refine List.map_congr_left fun record isMeant => ?_
      exact (written record (List.mem_filter.mp isMeant).1).symm
  | destroy =>
    have meant := accepts (by rw [method]; rfl)
    refine ⟨_, _, .removed method, ?_, ?_, ?_, ?_⟩
    · exact fun record isLeft => covers record (List.mem_filter.mp isLeft).1
    · exact fun record isMeant => each record (List.mem_filter.mp isMeant).1
    · simp only [Table.outcome, method_eq, method, rows]
      exact filter_map_eq fun record member => congrArg not (meant record member)
    · simp only [Table.affected, method_eq, method, rows]
      exact filter_map_eq meant
  | find | count | sum | avg | stream =>
    rw [method] at mutation
    cases mutation

omit each in
/-- A mutation that leaves the rows of what it does to the records was done by a table that fills in the
keys that their model asks for. -/
theorem fillsKeys_of_effect {key : String}
    (found : registered.columns.column registered.model.primaryKey = .ok key)
    {contents affected : List Record}
    (effect : Effect registered.model now query records contents affected) {supply : KeySupply}
    (outcome : contents.mapM registered.columns.lower = .ok (table.outcome supply physical)) :
    registered.FillsKeys table.definition compiled.records := by
  have method_eq : physical.method = query.method := lowered.method_eq.trans made.method_eq
  obtain ⟨-, rowsAdded⟩ := lowered.records_eq
  cases effect with
  | @added given created creates read keyed =>
    obtain rfl := Except.ok.inj (made.records.symm.trans read)
    by_cases same : key = table.definition.primaryKey
    · exact .inl (same ▸ found)
    · have grown : table.outcome supply physical = table.rows ++ table.keyedAll supply physical.records := by
        unfold Table.outcome
        rw [method_eq]
        cases method : query.method <;> rw [method] at creates <;> first | rfl | cases creates
      -- behind the rows that were there, the table and the effect have to agree on the new ones
      have left := (Columns.rows_of_lower outcome).2
      rw [grown, rows, List.map_append, List.append_cancel_left_eq] at left
      have rowsKeyed := table.keyedAll_spec supply physical.records
      rw [left, rowsAdded] at rowsKeyed
      exact .inr (faithful.has_of_forall₂_keyed found same added keyed rowsKeyed)
  | overwritten updates =>
    have none := made.records_eq_nil (by rw [updates]; rfl)
    exact .inr (by rw [none]; simp)
  | removed destroys =>
    have none := made.records_eq_nil (by rw [destroys]; rfl)
    exact .inr (by rw [none]; simp)

end Rows

end RecordMapper
