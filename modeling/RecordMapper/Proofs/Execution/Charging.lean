import RecordMapper.Proofs.Execution.Mutating
import RecordMapper.Proofs.Store.Refusals

/-! # What the caller is told of an error of an adapter

An error of an adapter is classified by what it is: no error at all, a failure that blames columns for not being
unique, or any other failure. The columns are told by the names of their attributes, and all else is told as it is.
Whatever hooks and adapter a model has, an operation whose query is answered with an error ends with what is told of
it.
-/

namespace RecordMapper

open Attempt

variable {σ : Type}

namespace RegisteredModel

variable {registered : RegisteredModel σ} {origin method : Method} {error : AdapterError} {charged : QueryError}

/-- What is told of an error of an adapter, and the three codes that tell what kind of error it was. -/
structure Classifies (registered : RegisteredModel σ) (origin method : Method) (error : AdapterError)
    (charged : QueryError) : Prop where
  tells : registered.Tells origin method error charged
  contract : charged.code = "E_ADAPTER_CONTRACT" ↔ ∃ value, error = .malformed value
  notUnique : charged.code = "E_UNIQUE" ↔
    ∃ message footprint columns, error = .failure message (some footprint) ∧ Footprint.Blames footprint columns
  adapter : charged.code = "E_ADAPTER" ↔ ∃ message footprint, error = .failure message footprint ∧
    ∀ blaming ∈ footprint, ∀ columns, ¬Footprint.Blames blaming columns

theorem Tells.classifies (tells : registered.Tells origin method error charged) :
    registered.Classifies origin method error charged := by
  refine ⟨tells, ?_, ?_, ?_⟩
  · cases tells with
    | malformed value => exact iff_of_true rfl ⟨value, rfl⟩
    | notUnique | failure =>
      refine iff_of_false (by simp [QueryError.code]) ?_
      rintro ⟨_, ⟨⟩⟩
  · cases tells with
    | malformed =>
      refine iff_of_false (by simp [QueryError.code]) ?_
      rintro ⟨_, _, _, ⟨⟩, _⟩
    | notUnique blames => exact iff_of_true rfl ⟨_, _, _, rfl, blames⟩
    | failure blameless =>
      refine iff_of_false (by simp [QueryError.code]) ?_
      rintro ⟨message, footprint, columns, same, blames⟩
      obtain ⟨-, rfl⟩ := AdapterError.failure.inj same
      exact blameless footprint rfl columns blames
  · cases tells with
    | malformed =>
      refine iff_of_false (by simp [QueryError.code]) ?_
      rintro ⟨_, _, ⟨⟩, _⟩
    | @notUnique message footprint columns blames =>
      refine iff_of_false (by simp [QueryError.code]) ?_
      rintro ⟨_, _, same, blameless⟩
      obtain ⟨-, rfl⟩ := AdapterError.failure.inj same
      exact blameless footprint rfl columns blames
    | failure blameless => exact iff_of_true rfl ⟨_, _, rfl, blameless⟩

/-- That columns are not unique is told by the names of their attributes. -/
theorem Tells.eq_notUnique {columns : List String}
    (tells : registered.Tells origin method (.notUnique columns) charged) :
    charged = .notUnique registered.identity (columns.map registered.columns.nameOf)
      (AdapterError.notUnique columns).message
      (Footprint.toJson ⟨Footprint.notUnique, columns.map registered.columns.nameOf⟩) origin := by
  have recognized := Footprint.ofJson?_toJson ⟨Footprint.notUnique, columns⟩
  unfold AdapterError.notUnique at tells
  cases tells with
  | notUnique blames =>
    obtain rfl : columns = _ := by
      simpa using recognized.symm.trans (Footprint.ofJson?_eq_some_iff.mpr blames)
    rfl
  | failure blameless => exact absurd (Footprint.ofJson?_eq_some_iff.mp recognized) (blameless _ rfl columns)

end RegisteredModel

namespace Registry

variable {registry : Registry σ} {registered : RegisteredModel σ} {now : Instant} {query : Description σ}
  {run : Run σ} {physical : PhysicalQuery} {environment : σ} {error : AdapterError}

/-- An operation comes to a query that the adapter of its model answers with an error. -/
def Refused (registry : Registry σ) (registered : RegisteredModel σ) (now : Instant) (query : Description σ)
    (run : Run σ) (physical : PhysicalQuery) (environment : σ) (error : AdapterError) : Prop :=
  ∃ compiled calls left, query.compile registry now = .ok compiled ∧
    Prepared registry registered compiled run.environment calls physical environment ∧
    registered.answer? physical environment = some (.error error, left)

/-- The query of a refused operation is that of its method. -/
theorem Refused.method_eq (refused : registry.Refused registered now query run physical environment error) :
    physical.method = query.method := by
  obtain ⟨compiled, calls, left, compilation, ⟨prepared, reached, lowered⟩, -⟩ := refused
  obtain ⟨_, -, made⟩ := Description.compile_eq_ok.mp compilation
  have kept := (RegisteredModel.before_ok (congrArg Stage.made reached)).1
  exact (LogicalQuery.lower_eq_ok.mp lowered).method_eq.trans (kept.trans made.method_eq)

/-- A refused operation ends with what is told of the error. -/
theorem execute_of_refused (found : registry.model? query.model = some registered) (notStream : query.method ≠ .stream)
    (refused : registry.Refused registered now query run physical environment error) :
    ∃ charged, (result (registry.execute now query) run).1 = .error charged ∧
      registered.Tells query.method query.method error charged := by
  have method := refused.method_eq
  obtain ⟨compiled, calls, left, compilation, ⟨prepared, reached, lowered⟩, answered⟩ := refused
  obtain ⟨_, -, made⟩ := Description.compile_eq_ok.mp compilation
  obtain ⟨charged, warnings, fetched, tells⟩ :=
    @fetch_tells _ _ _ _ _ (run.advance environment calls) lowered _ _ answered compiled.method
  rw [method, made.method_eq] at tells
  refine ⟨charged, ?_, tells⟩
  rw [execute_of_compile found compilation, if_neg notStream, result_perform reached, fetched]
  rfl

/-- An operation that calls no hook leaves the environment as the answer to its query does. -/
theorem execute_of_answer (found : registry.model? query.model = some registered) (notStream : query.method ≠ .stream)
    (quiet : registered.Quiet query.options) {compiled : LogicalQuery σ}
    (compilation : query.compile registry now = .ok compiled)
    (lowering : compiled.lower registered registry = .ok physical) {reply : AdapterReply}
    (answered : registered.answer? physical run.environment = some (reply, environment)) :
    (result (registry.execute now query) run).2.environment = environment := by
  obtain ⟨_, same, made⟩ := Description.compile_eq_ok.mp compilation
  obtain rfl := Option.some.inj (found.symm.trans same)
  rw [execute_of_compile found compilation, if_neg notStream, perform_of_quiet (made.options_eq ▸ quiet)]
  cases reply with
  | error error =>
    obtain ⟨charged, warnings, fetched, -⟩ := fetch_tells lowering answered compiled.method
    rw [fetched]
    rfl
  | ok payload =>
    rw [fetch_of_ok lowering (LogicalQuery.lower_eq_ok.mp lowering).options_eq answered]
    rfl

/-- A column of the row of a record is that of an attribute. -/
theorem exists_column_of_mem_rowOf {columns : Columns} {record : Record} (covers : columns.Covers record)
    {column : String} (member : column ∈ Dictionary.names (columns.rowOf record)) :
    ∃ name, columns.column name = .ok column := by
  rw [Columns.rowOf, Dictionary.mem_names_ofList, List.map_map] at member
  obtain ⟨entry, isEntry, same⟩ := List.mem_map.mp member
  exact ⟨entry.1, same ▸ covers entry.1 (List.mem_map_of_mem isEntry)⟩

/-- A column that a query sets is that of an attribute. -/
theorem exists_column_of_sets {compiled : LogicalQuery σ} (lowered : compiled.LoweredTo registered registry physical)
    {column : String} (sets : physical.Sets column) : ∃ name, registered.columns.column name = .ok column := by
  have creates (given : ∃ row ∈ physical.records, column ∈ Dictionary.names row) :
      ∃ name, registered.columns.column name = .ok column := by
    obtain ⟨covers, rows⟩ := lowered.records_eq
    obtain ⟨row, isRow, member⟩ := given
    obtain ⟨record, isRecord, rfl⟩ := List.mem_map.mp (rows ▸ isRow)
    exact exists_column_of_mem_rowOf (covers record isRecord) member
  unfold PhysicalQuery.Sets at sets
  split at sets
  · exact creates sets
  · exact creates sets
  · cases given : compiled.values with
    | none =>
      have none := lowered.values
      rw [given] at none
      rw [← Except.ok.inj none] at sets
      cases sets
    | some values =>
      obtain ⟨covers, isRow⟩ := lowered.values_eq given
      rw [isRow] at sets
      exact exists_column_of_mem_rowOf covers sets
  · cases sets

end Registry

end RecordMapper
