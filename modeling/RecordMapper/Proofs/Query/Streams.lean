import RecordMapper.Proofs.Query.Compilation

/-! # The stream of a find

A find and a stream take the same criteria and the same associations, and read them in the same way.
So the stream of what a find asks for is compiled when the find is, to the same query with an
iteratee.
-/

namespace RecordMapper

open Results

/-- Criteria that a find takes are read in the same way for a stream. -/
theorem Criteria.read_stream (model : Model) (raw : Option Json) :
    (∃ details, read model .find raw = .error (.invalid .criteria details)) ∨
      read model .stream raw = read model .find raw :=
  read_of_allowed (fun key allowed => (show allowsKey .stream key = allowsKey .find key from rfl).trans allowed) model
    raw

namespace Description

variable {σ : Type} {registry : Registry σ} {query : Description σ}

/-- The stream of what a find asks for to an iteratee. -/
def streamTo (query : Description σ) : Iteratee σ → Description σ
  | .eachRecord continuation => { query with method := .stream, eachRecord := some continuation }
  | .eachBatch continuation => { query with method := .stream, eachBatch := some continuation }

/-- A find has no part that belongs to another method. -/
theorem parts_of_find (find : query.method = .find) (passed : query.checkParts = .ok ()) :
    query.values = none ∧ query.records = none ∧ query.numericAttribute = none ∧ query.eachRecord = none ∧
      query.eachBatch = none := by
  obtain ⟨-, values, records, numericAttribute, -, iteratee⟩ := checkParts_eq_ok.mp passed
  rw [find] at values records numericAttribute iteratee
  simp only [Method.takesValues, Method.takesRecords, Method.takesNumericAttribute, reduceCtorEq, imp_false,
    Bool.false_eq_true, not_or, Option.not_isSome_iff_eq_none] at values records numericAttribute iteratee
  exact ⟨values, records, numericAttribute, iteratee⟩

theorem checkParts_streamTo (find : query.method = .find) (passed : query.checkParts = .ok ())
    (iteratee : Iteratee σ) : (query.streamTo iteratee).checkParts = .ok () := by
  obtain ⟨values, records, numericAttribute, -, -⟩ := parts_of_find find passed
  rw [checkParts_eq_ok]
  cases iteratee <;>
    simp [streamTo, values, records, numericAttribute, Method.takesCriteria, Method.takesPopulates]

variable {now later : Instant}

/-- A find and its stream have the same criteria. -/
theorem compileCriteria_streamTo (find : query.method = .find) {model : Model}
    {result : Except CompileError Criteria} (done : query.compileCriteria model = result)
    (notInvalid : ∀ details, result ≠ .error (.invalid .criteria details)) (iteratee : Iteratee σ) :
    (query.streamTo iteratee).compileCriteria model = result := by
  have read : Criteria.read model .find query.criteria = result := by
    rw [compileCriteria, find] at done
    exact done
  have same := (Criteria.read_stream model query.criteria).resolve_left fun ⟨details, invalid⟩ =>
    notInvalid details (read.symm.trans invalid)
  cases iteratee with
  | eachRecord | eachBatch => exact same.trans read

/-- The stream of a find that is compiled is compiled, to the same query with its iteratee. -/
theorem compile_streamTo (find : query.method = .find) {compiled : LogicalQuery σ}
    (done : query.compile registry now = .ok compiled) (iteratee : Iteratee σ) :
    (query.streamTo iteratee).compile registry later =
      .ok { compiled with method := .stream, iteratee := some iteratee } := by
  obtain ⟨registered, found, made⟩ := compile_eq_ok.mp done
  have parts := checkParts_streamTo find made.parts iteratee
  have criteria := compileCriteria_streamTo find made.criteria (by simp) iteratee
  have values := made.values
  have records := made.records
  have numericAttribute := made.numericAttribute
  obtain ⟨-, -, -, noEachRecord, noEachBatch⟩ := parts_of_find find made.parts
  rw [compileValues, find] at values
  rw [compileRecords, find] at records
  rw [compileNumericAttribute, find] at numericAttribute
  refine compile_eq_ok.mpr ⟨registered, ?_, ?_⟩
  · cases iteratee <;> exact found
  · cases iteratee with
    | eachRecord continuation =>
      exact ⟨rfl, made.model_eq, made.options_eq, parts, criteria, values, records,
        numericAttribute, made.populates, by simp [compileIteratee, streamTo, noEachBatch]⟩
    | eachBatch continuation =>
      exact ⟨rfl, made.model_eq, made.options_eq, parts, criteria, values, records,
        numericAttribute, made.populates, by simp [compileIteratee, streamTo, noEachRecord]⟩

/-- The stream of a find that asks for nothing asks for nothing. -/
theorem compile_streamTo_noop (find : query.method = .find) {details : String}
    (noop : query.compile registry now = .error (.noop details)) (iteratee : Iteratee σ) :
    (query.streamTo iteratee).compile registry later = .error (.noop details) := by
  obtain ⟨registered, found, parts, inCriteria | inRecords⟩ := compile_eq_noop noop
  · have sameModel : (query.streamTo iteratee).model = query.model := by
      cases iteratee <;> rfl
    unfold compile
    rw [sameModel, found]
    refine bind_eq_error.mpr (.inr ⟨registered, rfl,
      bind_eq_error.mpr (.inr ⟨(), ?_, bind_eq_error.mpr (.inl ?_)⟩)⟩)
    · exact checkParts_streamTo find parts iteratee
    · exact compileCriteria_streamTo find inCriteria (by simp) iteratee
  · rw [compileRecords, find] at inRecords
    cases inRecords

end Description

end RecordMapper
