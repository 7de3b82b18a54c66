import RecordMapper.Execution.Run
import RecordMapper.Proofs.Results

/-! # What attempts do to a run

`Attempt.result` is what an attempt answers with on a run, and the run after it. It is worked out
part by part, and nothing that has happened in a run is ever taken back.
-/

namespace RecordMapper.Attempt

variable {ε σ α β : Type}

/-- What an attempt answers with on a run, and the run after it. -/
def result (attempt : Attempt ε σ α) (run : Run σ) : Except ε α × Run σ :=
  attempt.run.run run

@[simp] theorem result_pure (value : α) (run : Run σ) :
    result (pure value : Attempt ε σ α) run = (.ok value, run) := rfl

@[simp] theorem result_throw (error : ε) (run : Run σ) :
    result (throw error : Attempt ε σ α) run = (.error error, run) := rfl

@[simp] theorem result_ofExcept (outcome : Except ε α) (run : Run σ) :
    result (Run.ofExcept outcome) run = (outcome, run) := rfl

theorem result_pure_eq_ok {value other : α} {run after : Run σ} :
    result (pure value : Attempt ε σ α) run = (.ok other, after) ↔ value = other ∧ run = after := by
  rw [result_pure, Prod.mk.injEq, Except.ok.injEq]

theorem result_ofExcept_eq_ok {outcome : Except ε α} {value : α} {run after : Run σ} :
    result (Run.ofExcept outcome) run = (.ok value, after) ↔ outcome = .ok value ∧ run = after := by
  rw [result_ofExcept, Prod.mk.injEq]

@[simp] theorem result_note (event : Event) (run : Run σ) :
    result (Run.note event : Attempt ε σ Unit) run =
      (.ok (), { run with events := run.events ++ [event] }) := rfl

@[simp] theorem result_call (event : Event) (function : σ → α × σ) (run : Run σ) :
    result (Run.call event function : Attempt ε σ α) run =
      (.ok (function run.environment).1,
        { environment := (function run.environment).2, events := run.events ++ [event] }) := rfl

@[simp] theorem result_modifyGet (function : Run σ → α × Run σ) (run : Run σ) :
    result (modifyGet function : Attempt ε σ α) run = (.ok (function run).1, (function run).2) := rfl

theorem result_bind (attempt : Attempt ε σ α) (next : α → Attempt ε σ β) (run : Run σ) :
    result (attempt >>= next) run =
      match result attempt run with
      | (.ok value, after) => result (next value) after
      | (.error error, after) => (.error error, after) := by
  simp only [result, ExceptT.run_bind, StateT.run_bind]
  rcases StateT.run (ExceptT.run attempt) run with ⟨outcome, after⟩
  cases outcome <;> rfl

theorem result_bind_of_ok {attempt : Attempt ε σ α} {next : α → Attempt ε σ β} {run after : Run σ}
    {value : α} (done : result attempt run = (.ok value, after)) :
    result (attempt >>= next) run = result (next value) after := by
  rw [result_bind, done]

theorem result_bind_of_error {attempt : Attempt ε σ α} {next : α → Attempt ε σ β}
    {run after : Run σ} {error : ε} (failed : result attempt run = (.error error, after)) :
    result (attempt >>= next) run = (.error error, after) := by
  rw [result_bind, failed]

theorem result_bind_eq_ok {attempt : Attempt ε σ α} {next : α → Attempt ε σ β} {run after : Run σ}
    {value : β} :
    result (attempt >>= next) run = (.ok value, after) ↔
      ∃ middle between, result attempt run = (.ok middle, between) ∧
        result (next middle) between = (.ok value, after) := by
  rw [result_bind]
  rcases result attempt run with ⟨outcome, between⟩
  cases outcome with
  | error error => simp
  | ok middle =>
    constructor
    · intro done
      exact ⟨middle, between, rfl, done⟩
    · rintro ⟨_, _, same, done⟩
      cases same
      exact done

/-- What every step of a list makes sure of, the whole list makes sure of, and its items can be told
from the values if each can be told from its own. -/
theorem mapM_eq_ok {step : α → Attempt ε σ β} {back : β → α} {property : β → Prop}
    (each : ∀ item run value after, result (step item) run = (.ok value, after) →
      back value = item ∧ property value)
    {items : List α} {values : List β} {run after : Run σ}
    (done : result (items.mapM step) run = (.ok values, after)) :
    values.map back = items ∧ ∀ value ∈ values, property value := by
  induction items generalizing values run after with
  | nil =>
    obtain ⟨rfl, -⟩ : [] = values ∧ run = after := by simpa using done
    simp
  | cons item rest ih =>
    rw [List.mapM_cons] at done
    obtain ⟨value, between, here, later⟩ := result_bind_eq_ok.mp done
    obtain ⟨others, _, there, whole⟩ := result_bind_eq_ok.mp later
    obtain ⟨rfl, -⟩ : value :: others = values ∧ _ = after := by simpa using whole
    obtain ⟨same, holds⟩ := each item run value between here
    obtain ⟨sameRest, holdRest⟩ := ih there
    refine ⟨by rw [List.map_cons, same, sameRest], ?_⟩
    intro other member
    rcases List.mem_cons.mp member with rfl | member
    · exact holds
    · exact holdRest other member

/-- What every step of a list keeps up, the whole list keeps up. -/
theorem mapM_keeps {step : α → Attempt ε σ β} (invariant : σ → Prop)
    (keeps : ∀ item run value after, result (step item) run = (.ok value, after) →
      invariant run.environment → invariant after.environment)
    {items : List α} {values : List β} {run after : Run σ}
    (done : result (items.mapM step) run = (.ok values, after)) (start : invariant run.environment) :
    invariant after.environment := by
  induction items generalizing values run with
  | nil =>
    obtain ⟨-, rfl⟩ : [] = values ∧ run = after := by simpa using done
    exact start
  | cons item rest ih =>
    rw [List.mapM_cons] at done
    obtain ⟨value, between, here, later⟩ := result_bind_eq_ok.mp done
    obtain ⟨others, _, there, whole⟩ := result_bind_eq_ok.mp later
    obtain ⟨-, rfl⟩ := result_pure_eq_ok.mp whole
    exact ih there (keeps item run value between here start)

/-- What every step of a list brings about and later steps keep up, holds after the whole list. -/
theorem mapM_establishes {step : α → Attempt ε σ β} (property : β → σ → Prop)
    (establishes : ∀ item run value after, result (step item) run = (.ok value, after) →
      property value after.environment)
    (keeps : ∀ value item run other after, result (step item) run = (.ok other, after) →
      property value run.environment → property value after.environment)
    {items : List α} {values : List β} {run after : Run σ}
    (done : result (items.mapM step) run = (.ok values, after)) :
    ∀ value ∈ values, property value after.environment := by
  induction items generalizing values run with
  | nil =>
    obtain ⟨rfl, -⟩ : [] = values ∧ run = after := by simpa using done
    simp
  | cons item rest ih =>
    rw [List.mapM_cons] at done
    obtain ⟨value, between, here, later⟩ := result_bind_eq_ok.mp done
    obtain ⟨others, _, there, whole⟩ := result_bind_eq_ok.mp later
    obtain ⟨rfl, rfl⟩ := result_pure_eq_ok.mp whole
    exact List.forall_mem_cons.mpr
      ⟨mapM_keeps (property value) (keeps value) there (establishes item run value between here), ih there⟩

end RecordMapper.Attempt
