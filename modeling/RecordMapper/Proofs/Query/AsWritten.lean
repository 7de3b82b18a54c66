import RecordMapper.Proofs.Criteria.Renaming
import RecordMapper.Proofs.Query.Lowering
import RecordMapper.Proofs.Query.Paging

/-! # Queries as they are written

A query can be compiled as it is written: its clause is not brought into simple form, and neither a
clause that cannot match nor a limit of zero nor an empty list of new records is found to ask for
nothing. Of a query that does ask for nothing, this gives one that selects no row whatever the rows are.
-/

namespace RecordMapper

open Results

namespace Criteria

/-- The criteria that raw criteria write, with the clause and the limit as they are written. -/
def readAsWritten (model : Model) (raw : Option Json) : Except CriteriaFault Criteria := do
  let entries := RawCriteria.entries raw
  let clause ← Clause.read model (RawCriteria.clause model.primaryKey raw)
  let skip ← readKey entries "skip" (readCount "skip") 0
  let sort ← readKey entries "sort" (SortTerm.read model) []
  let selection ← readKey entries "select" (readSelection model) none
  let omission ← readKey entries "omit" (readOmission model) []
  let limit ← readKey entries "limit" (fun raw => (readCount "limit" raw).map some) none
  return { clause, limit, skip, sort, selection, omission }

theorem readAsWritten_eq_ok {model : Model} {raw : Option Json} {criteria : Criteria} :
    readAsWritten model raw = .ok criteria ↔
      Clause.read model (RawCriteria.clause model.primaryKey raw) = .ok criteria.clause ∧
      readKey (RawCriteria.entries raw) "skip" (readCount "skip") 0 = .ok criteria.skip ∧
      readKey (RawCriteria.entries raw) "sort" (SortTerm.read model) [] = .ok criteria.sort ∧
      readKey (RawCriteria.entries raw) "select" (readSelection model) none = .ok criteria.selection ∧
      readKey (RawCriteria.entries raw) "omit" (readOmission model) [] = .ok criteria.omission ∧
      readKey (RawCriteria.entries raw) "limit" (fun raw => (readCount "limit" raw).map some) none =
        .ok criteria.limit := by
  unfold readAsWritten
  simp only [bind_eq_ok, pure_eq_ok]
  constructor
  · rintro ⟨_, clause, _, skip, _, sort, _, selection, _, omission, _, limit, rfl⟩
    exact ⟨clause, skip, sort, selection, omission, limit⟩
  · rintro ⟨clause, skip, sort, selection, omission, limit⟩
    exact ⟨_, clause, _, skip, _, sort, _, selection, _, omission, _, limit, rfl⟩

/-- Criteria that were read are the ones that are written, with the clause in simple form. -/
theorem ReadFrom.asWritten {model : Model} {raw : Option Json} {criteria : Criteria}
    (parts : criteria.ReadFrom model raw) :
    ∃ clause, readAsWritten model raw = .ok { criteria with clause } ∧
      clause.simplify = some criteria.clause := by
  obtain ⟨clause, read, simplified⟩ := parts.clause
  exact ⟨clause, readAsWritten_eq_ok.mpr ⟨read, parts.skip, parts.sort, parts.selection, parts.omission,
    parts.limit⟩, simplified⟩

/-- Criteria that ask for nothing are written with a clause without simple form or, if their method
allows one, with a limit of zero. -/
theorem asWritten_of_noop {model : Model} {method : Method} {raw : Option Json} {criteria : Criteria}
    {details : String} (noop : read model method raw = .error (.noop details))
    (written : readAsWritten model raw = .ok criteria) :
    criteria.clause.simplify = none ∨ method.allowsPaging = true ∧ criteria.limit = some 0 := by
  obtain ⟨clauseRead, -, -, -, -, limitRead⟩ := readAsWritten_eq_ok.mp written
  rcases read_eq_noop noop with ⟨clause, sameRead, never⟩ | ⟨pages, zero⟩
  · rw [Except.ok.inj (clauseRead.symm.trans sameRead)]
    exact .inl never
  · exact .inr ⟨pages, Except.ok.inj (limitRead.symm.trans zero)⟩

/-- Criteria as they are written name stored attributes only. -/
theorem fields_of_readAsWritten {model : Model} {raw : Option Json} {criteria : Criteria}
    (key : model.primaryKey ∈ Dictionary.names model.stored)
    (written : readAsWritten model raw = .ok criteria) : model.Stores criteria.fields := by
  obtain ⟨clause, -, sort, selection, omission, -⟩ := readAsWritten_eq_ok.mp written
  simp only [Model.Stores, fields, List.forall_mem_append, List.forall_mem_map]
  refine ⟨⟨⟨Clause.read_fields clause, ?_⟩, ?_⟩, ?_⟩
  · rcases readKey_eq_ok sort with default | ⟨_, sortRead⟩
    · simp [default]
    · exact SortTerm.read_fields sortRead
  · rcases readKey_eq_ok selection with default | ⟨_, selectionRead⟩
    · simp [default]
    · exact readSelection_fields key selectionRead
  · rcases readKey_eq_ok omission with default | ⟨_, omissionRead⟩
    · simp [default]
    · exact readOmission_fields omissionRead

end Criteria

/-! ## Rows of any kind -/

namespace Columns

/-- What a row holds in the columns of attributes, under the names of these. -/
def recordOf (columns : Columns) (row : Record) : Record :=
  columns.ofAttribute.filterMap fun entry => (Dictionary.get? row entry.2).map (entry.1, ·)

/-- Any row holds in its columns what some record holds under their attributes. -/
theorem renamedBy_recordOf (model : Model) (row : Record) :
    Record.RenamedBy (ofModel model).column ((ofModel model).recordOf row) row := by
  have nodup : (Dictionary.names (ofModel model).ofAttribute).Nodup := (Dictionary.sorted_ofList _).nodup
  intro name column found
  rw [recordOf, Dictionary.get?_filterMap nodup (Dictionary.get? row)]
  change _ = ((ofModel model).column? name).bind _
  rw [column_eq_ok.mp found, Option.bind_some]

end Columns

/-- What a clause without simple form becomes in terms of columns matches no row. -/
theorem Clause.accepts_eq_false_of_never {model : Model} {clause renamed : Clause}
    (never : clause.simplify = none) (done : clause.rename (Columns.ofModel model).column = .ok renamed)
    (row : Record) : renamed.accepts row = false := by
  rw [Clause.accepts_rename ((Columns.renamedBy_recordOf model row).on _) done, ← Clause.accepts_simplify, never]
  rfl

/-! ## The query -/

namespace Description

variable {σ : Type}

/-- The new records of a query, of which there may be none. -/
def compileRecordsAsWritten (query : Description σ) (model : Model) (now : Instant) :
    Except CompileError (List Record) :=
  match query.records with
  | some (.list []) => .ok []
  | _ => query.compileRecords model now

/-- The checked form of a described query on a model, as it is written. -/
def compileAsWritten (query : Description σ) (registry : Registry σ) (model : Model) (now : Instant) :
    Except CompileError (LogicalQuery σ) := do
  let criteria ←
    if query.method.takesCriteria then Criteria.invalid (Criteria.readAsWritten model query.criteria)
    else .ok {}
  let values ← query.compileValues model now
  let records ← query.compileRecordsAsWritten model now
  let numericAttribute ← query.compileNumericAttribute model
  let populates ← query.compilePopulates registry model
  return {
    method := query.method
    model := query.model
    criteria, values, records, numericAttribute, populates
    options := query.options }

/-- The parts of a query compiled as it is written, and what each of them comes from. -/
structure WrittenTo (query : Description σ) (registry : Registry σ) (model : Model) (now : Instant)
    (written : LogicalQuery σ) : Prop where
  method_eq : written.method = query.method
  options_eq : written.options = query.options
  criteria : query.method.takesCriteria = true → Criteria.readAsWritten model query.criteria = .ok written.criteria
  noCriteria : query.method.takesCriteria = false → written.criteria = {}
  values : query.compileValues model now = .ok written.values
  records : query.compileRecordsAsWritten model now = .ok written.records
  numericAttribute : query.compileNumericAttribute model = .ok written.numericAttribute
  populates : query.compilePopulates registry model = .ok written.populates

variable {registry : Registry σ} {model : Model} {now : Instant} {query : Description σ}
  {written : LogicalQuery σ}

theorem writtenTo_of_compileAsWritten (done : query.compileAsWritten registry model now = .ok written) :
    query.WrittenTo registry model now written := by
  unfold compileAsWritten at done
  cases takes : query.method.takesCriteria
  all_goals
    simp only [takes, if_true, if_false, Bool.false_eq_true] at done
    obtain ⟨criteria, read, done⟩ := bind_eq_ok.mp done
    obtain ⟨values, isValues, done⟩ := bind_eq_ok.mp done
    obtain ⟨records, isRecords, done⟩ := bind_eq_ok.mp done
    obtain ⟨numericAttribute, isNumeric, done⟩ := bind_eq_ok.mp done
    obtain ⟨populates, isPopulates, done⟩ := bind_eq_ok.mp done
    obtain rfl := pure_eq_ok.mp done
  · exact ⟨rfl, rfl, by simp [takes], fun _ => (Except.ok.inj read).symm, isValues, isRecords, isNumeric,
      isPopulates⟩
  · exact ⟨rfl, rfl, fun _ => Criteria.invalid_eq_ok.mp read, by simp [takes], isValues, isRecords, isNumeric,
      isPopulates⟩

/-- What a query writes is stored when what it is compiled to as it is written is. -/
theorem WrittenTo.written_stores (made : query.WrittenTo registry model now written)
    (parts : query.checkParts = .ok ()) (key : model.primaryKey ∈ Dictionary.names model.stored) :
    model.Declares (query.written model) ∧ (model.Stores (query.written model) ↔
      (∀ values, written.values = some values → model.Stores (Dictionary.names values)) ∧
        ∀ record ∈ written.records, model.Stores (Dictionary.names record)) := by
  obtain ⟨-, takesValues, takesRecords, -⟩ := checkParts_eq_ok.mp parts
  obtain ⟨declaresValues, values⟩ := compileValues_names takesValues made.values
  have records : model.Declares (recordNames query.records) ∧ (model.Stores (recordNames query.records) ↔
      ∀ record ∈ written.records, model.Stores (Dictionary.names record)) := by
    have compiled := made.records
    unfold compileRecordsAsWritten at compiled
    split at compiled
    · next given =>
      rw [given, ← Except.ok.inj compiled]
      simp [recordNames, Model.Declares, Model.Stores]
    · exact compileRecords_names key takesRecords compiled
  exact ⟨List.forall_mem_append.mpr ⟨declaresValues, records.1⟩,
    List.forall_mem_append.trans (and_congr values records.2)⟩

end Description

/-- A query of a registry that is compiled as it is written can be lowered exactly when it writes no plural
association. -/
theorem LogicalQuery.exists_lower_asWritten_iff {σ : Type} {configuration : Configuration}
    {registry : Registry σ} (built : Registry.Built configuration registry) {now : Instant}
    {query : Description σ} {written : LogicalQuery σ} {registered : RegisteredModel σ}
    (found : registry.model? query.model = some registered) (parts : query.checkParts = .ok ())
    (made : query.WrittenTo registry registered.model now written) :
    (∃ physical, written.lower registered registry = .ok physical) ↔
      ¬∃ name ∈ query.written registered.model, registered.model.Plural name := by
  have key := (built.valid_of_model? found).primaryKey_mem
  obtain ⟨declares, stores⟩ := made.written_stores parts key
  rw [← declares.stores_iff, stores]
  refine exists_lower_iff_stores built found ?_ made.populates made.numericAttribute
  cases takes : query.method.takesCriteria with
  | true => exact Criteria.fields_of_readAsWritten key (made.criteria takes)
  | false =>
    rw [made.noCriteria takes]
    simp [Model.Stores, Criteria.fields, Clause.everything, Clause.predicates, Clause.predicatesOfParts]

end RecordMapper
