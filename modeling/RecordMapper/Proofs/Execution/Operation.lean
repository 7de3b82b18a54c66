import RecordMapper.Execution.Operation
import RecordMapper.Proofs.Execution.Run
import RecordMapper.Proofs.Query.Compilation

/-! # What becomes of an operation

How an operation on a model goes on is settled when its query is compiled: it is over with the
outcome of asking for nothing or with an error, or it goes on as a stream or as another operation.
-/

namespace RecordMapper.Registry

open Attempt

variable {σ : Type} {registry : Registry σ} {registered : RegisteredModel σ}
    {query : Description σ} {now : Instant}

theorem require_eq_ok (found : registry.model? query.model = some registered) :
    registry.require query.model = .ok registered := by
  rw [require, found]

theorem execute_of_unknown (unknown : registry.model? query.model = none) (run : Run σ) :
    result (registry.execute now query) run = (.error (.unknownModel query.model), run) := by
  unfold execute require
  rw [unknown]
  rfl

theorem execute_of_noop (found : registry.model? query.model = some registered) {details : String}
    (noop : query.compile registry now = .error (.noop details)) (run : Run σ) :
    result (registry.execute now query) run = (.ok (.noop query.method query.options), run) := by
  unfold execute
  rw [require_eq_ok found, noop]
  rfl

theorem execute_of_invalid (found : registry.model? query.model = some registered)
    {part : QueryPart} {details : String}
    (invalid : query.compile registry now = .error (.invalid part details)) (run : Run σ) :
    result (registry.execute now query) run =
      (.error ((CompileError.invalid part details).toQueryError query.method), run) := by
  unfold execute
  rw [require_eq_ok found, invalid]
  rfl

theorem execute_of_compile (found : registry.model? query.model = some registered)
    {compiled : LogicalQuery σ} (done : query.compile registry now = .ok compiled) (run : Run σ) :
    result (registry.execute now query) run =
      if query.method = .stream then
        result (registry.stream registered compiled >>= fun _ => pure .nothing) run
      else result (registry.perform registered compiled) run := by
  unfold execute
  rw [require_eq_ok found, done]
  change result (if query.method = .stream then _ else _) run = _
  split <;> rfl

/-- An operation whose query is not compiled leaves the run as it was. If it asks for nothing it ends
well, and otherwise with a usage error. -/
theorem execute_of_compile_error {reason : CompileError}
    (failed : query.compile registry now = .error reason) (run : Run σ) :
    ∃ outcome, result (registry.execute now query) run = (outcome, run) ∧
      (reason.isNoop = true → outcome = .ok (.noop query.method query.options)) ∧
      (reason.isNoop = false → ∃ error, outcome = .error error ∧ error.isUsage = true) := by
  cases found : registry.model? query.model with
  | none =>
    refine ⟨_, execute_of_unknown found run, fun noop => ?_, fun _ => ⟨_, rfl, rfl⟩⟩
    unfold Description.compile at failed
    rw [found] at failed
    obtain rfl := Except.error.inj failed
    cases noop
  | some registered =>
    cases reason with
    | noop details => exact ⟨_, execute_of_noop found failed run, fun _ => rfl, fun noop => by cases noop⟩
    | invalid part details =>
      exact ⟨_, execute_of_invalid found failed run, fun noop => (by cases noop), fun _ => ⟨_, rfl, rfl⟩⟩

/-- An operation that succeeds asked for nothing or was compiled. -/
theorem execute_eq_ok (found : registry.model? query.model = some registered) {run after : Run σ}
    {outcome : Outcome} (done : result (registry.execute now query) run = (.ok outcome, after)) :
    (∃ details, query.compile registry now = .error (.noop details) ∧
      outcome = .noop query.method query.options ∧
        after = run) ∨
      ∃ compiled, query.compile registry now = .ok compiled := by
  cases answer : query.compile registry now with
  | ok compiled => exact .inr ⟨compiled, rfl⟩
  | error error =>
    cases error with
    | noop details =>
      rw [execute_of_noop found answer] at done
      obtain ⟨same, rfl⟩ := Prod.mk.inj done
      exact .inl ⟨details, rfl, (Except.ok.inj same).symm, rfl⟩
    | invalid part details =>
      rw [execute_of_invalid found answer] at done
      cases done

end RecordMapper.Registry
