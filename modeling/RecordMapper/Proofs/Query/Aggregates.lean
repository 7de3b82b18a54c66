import RecordMapper.Proofs.Model.Rows
import RecordMapper.Proofs.Query.Canonical
import RecordMapper.Proofs.Query.Streams

/-! # Aggregates of what a find describes

A count, a sum and a mean take the criteria of a find, as long as these ask for nothing that an aggregate does not take.
They are compiled and lowered to the criteria to which the find is compiled and lowered.
-/

namespace RecordMapper

open Results

variable {σ : Type}

/-- A method aggregates over an attribute of a model: a count over none, a sum or a mean over one that is a number. -/
inductive Model.Aggregates (model : Model) : Method → Option String → Prop where
  | count : model.Aggregates .count none
  | sum {name : String} (number : model.kind? name = some (.scalar .number)) : model.Aggregates .sum (some name)
  | avg {name : String} (number : model.kind? name = some (.scalar .number)) : model.Aggregates .avg (some name)

/-- A count of some criteria is no fault, though it may be certain to count nothing. -/
def Model.Countable (model : Model) (raw : Option Json) : Prop :=
  ∀ details, Criteria.read model .count raw ≠ .error (.invalid .criteria details)

/-- The aggregate of what a query describes, with options of its own. -/
def Description.aggregating (query : Description σ) (method : Method) (numericAttribute : Option String)
    (options : Meta) : Description σ :=
  { query with method, numericAttribute, populates := none, options }

/-- The same in terms of columns. -/
def PhysicalQuery.aggregating (query : PhysicalQuery) (method : Method) (numericColumn : Option String)
    (options : Meta) : PhysicalQuery :=
  { query with method, numericColumn, options }

namespace Model

variable {model : Model} {raw : Option Json} {method : Method} {numericAttribute : Option String}

theorem Aggregates.allowsPaging (aggregates : model.Aggregates method numericAttribute) :
    method.allowsPaging = true := by
  cases aggregates <;> rfl

theorem Aggregates.isMutation (aggregates : model.Aggregates method numericAttribute) : method.isMutation = false := by
  cases aggregates <;> rfl

theorem Aggregates.ne_stream (aggregates : model.Aggregates method numericAttribute) : method ≠ .stream := by
  cases aggregates <;> decide

theorem Aggregates.stored (aggregates : model.Aggregates method numericAttribute) :
    ∀ name ∈ numericAttribute, name ∈ Dictionary.names model.stored := by
  cases aggregates with
  | count => simp
  | sum number | avg number =>
    rintro _ ⟨⟩
    exact mem_stored_of_kind? number (by simp)

/-- What a count takes is read in the same way for every method with pages. -/
theorem Countable.read_eq (countable : model.Countable raw) (paging : method.allowsPaging = true) :
    Criteria.read model method raw = Criteria.read model .count raw := by
  refine (Criteria.read_of_allowed (fun key allowed => ?_) model raw).resolve_left
    fun ⟨details, invalid⟩ => countable details invalid
  unfold Criteria.allowsKey at allowed ⊢
  split at allowed
  · rfl
  all_goals first | exact paging | cases allowed

/-- What a count takes chooses no attributes. -/
theorem Countable.unchosen (countable : model.Countable raw) {criteria : Criteria} (paging : method.allowsPaging = true)
    (done : Criteria.read model method raw = .ok criteria) : criteria.selection = none ∧ criteria.omission = [] := by
  rw [countable.read_eq paging] at done
  exact Criteria.unchosen_of_read done rfl

end Model

namespace Description

variable {registry : Registry σ} {registered : RegisteredModel σ} {query : Description σ} {now : Instant}
  {method : Method} {numericAttribute : Option String}

theorem checkParts_aggregating (find : query.method = .find) (passed : query.checkParts = .ok ()) {model : Model}
    (aggregates : model.Aggregates method numericAttribute) (options : Meta) :
    (query.aggregating method numericAttribute options).checkParts = .ok () := by
  obtain ⟨values, records, -, noEachRecord, noEachBatch⟩ := parts_of_find find passed
  rw [checkParts_eq_ok]
  cases aggregates <;>
    simp [aggregating, values, records, noEachRecord, noEachBatch, Method.takesCriteria, Method.takesNumericAttribute]

/-- A find and its aggregates have the same criteria. -/
theorem compileCriteria_aggregating (find : query.method = .find) {model : Model}
    (countable : model.Countable query.criteria) (aggregates : model.Aggregates method numericAttribute)
    (options : Meta) :
    (query.aggregating method numericAttribute options).compileCriteria model = query.compileCriteria model := by
  have found : query.compileCriteria model = Criteria.read model .find query.criteria := by
    rw [compileCriteria, find]
    rfl
  rw [found, countable.read_eq rfl, ← countable.read_eq aggregates.allowsPaging]
  cases aggregates <;> rfl

/-- An aggregate of what a find is compiled to is compiled, to the same criteria. -/
theorem compile_aggregating (find : query.method = .find) (found : registry.model? query.model = some registered)
    {compiled : LogicalQuery σ} (made : query.CompiledTo registry now registered.model compiled)
    (countable : registered.model.Countable query.criteria)
    (aggregates : registered.model.Aggregates method numericAttribute) (options : Meta) (later : Instant) :
    (query.aggregating method numericAttribute options).compile registry later =
      .ok { compiled with method, numericAttribute, populates := [], options } := by
  have criteria := (compileCriteria_aggregating find countable aggregates options).trans made.criteria
  have values := made.values
  have records := made.records
  have iteratee := made.iteratee
  rw [compileValues, find] at values
  rw [compileRecords, find] at records
  rw [compileIteratee, find] at iteratee
  refine compile_eq_ok.mpr ⟨registered, found, rfl, made.model_eq, rfl,
    checkParts_aggregating find made.parts aggregates options, criteria, ?_, ?_, ?_, rfl, ?_⟩
  · cases aggregates <;> exact values
  · cases aggregates <;> exact records
  · cases aggregates with
    | count => rfl
    | sum number | avg number =>
      simp [compileNumericAttribute, aggregating, Method.takesNumericAttribute, number]
  · cases aggregates <;> exact iteratee

/-- An aggregate of what is certain to match nothing is certain to match nothing. -/
theorem compile_aggregating_noop (find : query.method = .find) (found : registry.model? query.model = some registered)
    (countable : registered.model.Countable query.criteria)
    (aggregates : registered.model.Aggregates method numericAttribute) {details : String}
    (noop : query.compile registry now = .error (.noop details)) (options : Meta) (later : Instant) :
    (query.aggregating method numericAttribute options).compile registry later = .error (.noop details) := by
  obtain ⟨_, same, parts, inCriteria | inRecords⟩ := compile_eq_noop noop
  · obtain rfl := Option.some.inj (found.symm.trans same)
    have sameModel : registry.model? (query.aggregating method numericAttribute options).model = some registered :=
      found
    exact compile_of_noop sameModel (checkParts_aggregating find parts aggregates options)
      ((compileCriteria_aggregating find countable aggregates options).trans inCriteria)
  · rw [compileRecords, find] at inRecords
    cases inRecords

end Description

namespace LogicalQuery

variable {registry : Registry σ} {registered : RegisteredModel σ} {compiled : LogicalQuery σ} {physical : PhysicalQuery}

/-- An aggregate of what a find without associations is lowered to is lowered, to the same criteria. -/
theorem LoweredTo.aggregating (lowered : compiled.LoweredTo registered registry physical)
    (noPopulates : compiled.populates = []) {numericAttribute : Option String}
    (stored : ∀ name ∈ numericAttribute, registered.columns.column name = .ok (registered.columns.columnOf name))
    (method : Method) (options : Meta) :
    LogicalQuery.lower { compiled with method, numericAttribute, populates := [], options } registered registry =
      .ok (physical.aggregating method (numericAttribute.map registered.columns.columnOf) options) := by
  have joins := lowered.joins
  rw [noPopulates] at joins
  refine lower_eq_ok.mpr ⟨rfl, lowered.table_eq, rfl, joins, lowered.criteria, lowered.values, lowered.records, ?_⟩
  cases numericAttribute with
  | none => rfl
  | some name =>
    dsimp only
    rw [stored name rfl]
    rfl

end LogicalQuery

end RecordMapper
