import RecordMapper.Proofs.Execution.Finding
import RecordMapper.Proofs.Execution.Hooking

/-! # The course of an operation

An operation that is no stream does things in one order: the hooks before its query, the query itself,
and the hooks after it for what the answer holds. It ends with the first of these that fails. `Course`
has one constructor for each way to end, with everything that is called on that way.
-/

namespace RecordMapper

open Attempt

variable {σ : Type}

/-- Whether a hook was called. -/
def Event.isHook : Event → Bool
  | .hooked .. => true
  | _ => false

/-- Whether a query was put to an adapter. -/
def Event.isQuery : Event → Bool
  | .queried .. => true
  | _ => false

namespace Registry

/-- The hooks before a query have all been called, and what they made of it can be put to the adapter. -/
def Prepared (registry : Registry σ) (registered : RegisteredModel σ) (query : LogicalQuery σ)
    (start : σ) (calls : List Event) (physical : PhysicalQuery) (environment : σ) : Prop :=
  ∃ prepared, registered.before query start = ⟨calls, .ok prepared, environment⟩ ∧
    prepared.lower registered registry = .ok physical

/-- How a compiled query may go: what is called, how it ends, and the environment that is left behind. -/
inductive Course (registry : Registry σ) (registered : RegisteredModel σ) (query : LogicalQuery σ)
    (start : σ) : List Event → Except QueryError Outcome → σ → Prop where
  /-- A hook before the query fails. -/
  | unprepared {calls : List Event} {name : HookName} {message : String} {left : σ}
      (failed : registered.before query start =
        ⟨calls, .error (.hook registered.identity name message), left⟩) :
      Course registry registered query start calls (.error (.hook registered.identity name message)) left
  /-- What the hooks made of the query has no form for the adapter. -/
  | unlowered {calls : List Event} {prepared : LogicalQuery σ} {cause : TransformError} {left : σ}
      (reached : registered.before query start = ⟨calls, .ok prepared, left⟩)
      (failed : prepared.lower registered registry = .error cause) :
      Course registry registered query start calls (.error (.transform registered.identity cause)) left
  /-- The adapter does not implement the method. -/
  | unsupported {calls : List Event} {physical : PhysicalQuery} {left : σ}
      (prepared : Prepared registry registered query start calls physical left)
      (unanswered : registered.answer? physical left = none) :
      Course registry registered query start calls
        (.error (.unsupported registered.identity physical.method)) left
  /-- The adapter answers with an error. -/
  | refused {calls : List Event} {physical : PhysicalQuery} {environment left : σ} {error : AdapterError}
      {charged : QueryError} (prepared : Prepared registry registered query start calls physical environment)
      (answered : registered.answer? physical environment = some (.error error, left))
      (code : charged.code = error.reportedCode) :
      Course registry registered query start (calls ++ [registered.asked physical]) (.error charged) left
  /-- The answer cannot be read. -/
  | unread {calls : List Event} {physical : PhysicalQuery} {environment left : σ} {payload : Option Json}
      {error : QueryError} (prepared : Prepared registry registered query start calls physical environment)
      (answered : registered.answer? physical environment = some (.ok payload, left))
      (failed : registry.reading registered physical payload = .error error) :
      Course registry registered query start (calls ++ [registered.asked physical]) (.error error) left
  /-- The answer is read, and there is no hook to call for it. -/
  | plain {calls : List Event} {physical : PhysicalQuery} {environment left : σ} {payload : Option Json}
      {outcome : Outcome} (prepared : Prepared registry registered query start calls physical environment)
      (answered : registered.answer? physical environment = some (.ok payload, left))
      (read : registry.reading registered physical payload = .ok outcome)
      (last : outcome.records? = none ∨ HookName.after? query.method = none) :
      Course registry registered query start (calls ++ [registered.asked physical]) (.ok outcome) left
  /-- The hook after a mutation is called for the records that the answer holds. -/
  | followed {calls : List Event} {physical : PhysicalQuery} {environment left : σ}
      {payload : Option Json} {records : List Record} {name : HookName}
      (prepared : Prepared registry registered query start calls physical environment)
      (answered : registered.answer? physical environment = some (.ok payload, left))
      (read : registry.reading registered physical payload = .ok (.records records))
      (place : HookName.after? query.method = some name) :
      Course registry registered query start
        (calls ++ registered.asked physical ::
          (registered.hookRecords query.options name records left).calls)
        ((registered.hookRecords query.options name records left).made.map .records)
        (registered.hookRecords query.options name records left).environment

end Registry

namespace RegisteredModel

variable {registered : RegisteredModel σ} {query : LogicalQuery σ} {environment : σ}

/-! ## The hooks around a query -/

theorem hookRecords_calls (options : Meta) (name : HookName) (records : List Record) (environment : σ) :
    ∀ event ∈ (registered.hookRecords options name records environment).calls, event.isHook = true := by
  intro event member
  obtain ⟨record, -, rfl⟩ := List.mem_map.mp member
  rfl

theorem before_calls (query : LogicalQuery σ) (environment : σ) :
    ∀ event ∈ (registered.before query environment).calls, event.isHook = true := by
  unfold before
  split
  · exact hookRecords_calls _ _ _ _
  · exact hookRecords_calls _ _ _ _
  · exact hookRecords_calls _ _ _ _
  · intro event member
    obtain ⟨criteria, -, rfl⟩ := List.mem_map.mp member
    rfl
  · intro event member
    cases member

/-- The hook of a place makes one record of each. -/
theorem length_hookRecords {options : Meta} {name : HookName} {records made : List Record}
    (done : (registered.hookRecords options name records environment).made = .ok made) :
    made.length = records.length := by
  have series := Results.mapError_eq_ok.mp done
  cases place : options.active? (registered.hooks.recordHook? name) with
  | none =>
    rw [place] at series
    exact congrArg List.length (Except.ok.inj series).symm
  | some hook =>
    rw [place] at series
    exact ((hook.series_called records environment).2 made series).2

/-- A hook that fails before a query fails the operation with its message. -/
theorem before_error {error : QueryError}
    (failed : (registered.before query environment).made = .error error) :
    ∃ name message, error = .hook registered.identity name message := by
  have hooked {α β : Type} {name : HookName} {note : α → HookPayload} {series : HookSeries σ α}
      {function : List α → β}
      (failed : ((registered.hooking name note series).map function).made = .error error) :
      ∃ name message, error = .hook registered.identity name message := by
    obtain ⟨message, -, rfl⟩ := Results.mapError_eq_error.mp (Results.map_eq_error.mp failed)
    exact ⟨name, message, rfl⟩
  unfold before at failed
  split at failed
  · exact hooked failed
  · exact hooked failed
  · exact hooked failed
  · exact hooked failed
  · cases failed

/-- The hooks before a query leave its method and its options alone. -/
theorem before_ok {prepared : LogicalQuery σ}
    (done : (registered.before query environment).made = .ok prepared) :
    prepared.method = query.method ∧ prepared.options = query.options := by
  unfold before at done
  split at done
  case h_5 =>
    obtain rfl := Except.ok.inj done
    exact ⟨rfl, rfl⟩
  all_goals
    obtain ⟨_, -, rfl⟩ := Results.map_eq_ok.mp done
    exact ⟨rfl, rfl⟩

theorem result_callAfter (method : Method) (options : Meta) (records : List Record) (run : Run σ) :
    result (registered.callAfter method options records) run =
      match HookName.after? method with
      | some name =>
        let stage := registered.hookRecords options name records run.environment
        (stage.made, run.advance stage.environment stage.calls)
      | none => (.ok records, run) := by
  unfold callAfter
  cases HookName.after? method with
  | none => rfl
  | some name => exact registered.of_mapM_callRecordHook options name records run

end RegisteredModel

/-- Hook calls are calls, and none is a query. -/
theorem Event.filter_hooks {events : List Event} (hooks : ∀ event ∈ events, event.isHook = true) :
    events.filter Event.isCall = events ∧ events.filter Event.isQuery = [] := by
  rw [List.filter_eq_self, List.filter_eq_nil_iff]
  constructor
  all_goals
    intro event member
    have hook := hooks event member
    cases event with
    | hooked => simp [isCall, isQuery]
    | defined | queried | delivered | warned => cases hook

/-- That an operation asks for nothing is no error of it. -/
theorem QueryError.code_ne_noop (error : QueryError) : error.code ≠ "E_NOOP" := by
  cases error with
  | invalid part method details => cases part <;> simp [code, CompileError.code]
  | _ => simp [code]

namespace Registry

variable {registry : Registry σ} {registered : RegisteredModel σ} {query : LogicalQuery σ}

namespace Course

variable {start finish : σ} {calls : List Event} {outcome : Except QueryError Outcome}

/-- The hooks before the query come first, then at most one query, and hooks after it last. -/
theorem calls_eq (course : Course registry registered query start calls outcome finish) :
    calls = (registered.before query start).calls ∨
      ∃ physical after, calls = (registered.before query start).calls ++ registered.asked physical :: after ∧
        (after = [] ∨ ∃ name records left,
          after = (registered.hookRecords query.options name records left).calls) := by
  cases course with
  | unprepared reached | unlowered reached => exact .inl (congrArg Stage.calls reached).symm
  | unsupported prepared =>
    obtain ⟨_, reached, -⟩ := prepared
    exact .inl (congrArg Stage.calls reached).symm
  | refused prepared | unread prepared | plain prepared =>
    obtain ⟨_, reached, -⟩ := prepared
    exact .inr ⟨_, [], by rw [reached], .inl rfl⟩
  | followed prepared =>
    obtain ⟨_, reached, -⟩ := prepared
    exact .inr ⟨_, _, by rw [reached], .inr ⟨_, _, _, rfl⟩⟩

/-- An adapter is asked once, if at all. -/
theorem queries_le_one (course : Course registry registered query start calls outcome finish) :
    (calls.filter Event.isQuery).length ≤ 1 := by
  have before := (Event.filter_hooks (registered.before_calls query start)).2
  rcases course.calls_eq with rfl | ⟨physical, after, rfl, rfl | ⟨name, records, left, rfl⟩⟩
  · rw [before]
    exact Nat.zero_le 1
  · rw [List.filter_append, before]
    exact List.length_filter_le ..
  · have later := (Event.filter_hooks (registered.hookRecords_calls query.options name records left)).2
    rw [List.filter_append, before, List.filter_cons_of_pos rfl, later]
    exact Nat.le_refl 1

/-- If there is no hook to call, none is called. -/
theorem no_hooks (course : Course registry registered query start calls outcome finish)
    (quiet : registered.Quiet query.options) : ∀ event ∈ calls, event.isHook = false := by
  have before : (registered.before query start).calls = [] := by
    rw [registered.before_of_quiet quiet]
    rfl
  have after (name : HookName) (records : List Record) (left : σ) :
      (registered.hookRecords query.options name records left).calls = [] := by
    rw [registered.hookRecords_of_quiet quiet]
    rfl
  intro event member
  rcases course.calls_eq with rfl | ⟨physical, later, rfl, rfl | ⟨name, records, left, rfl⟩⟩
  · rw [before] at member
    cases member
  · rw [before, List.nil_append, List.mem_singleton] at member
    rw [member]
    rfl
  · rw [before, after, List.nil_append, List.mem_singleton] at member
    rw [member]
    rfl

end Course

/-- What becomes of the answer to a query: the hooks after it are called for its records. -/
def conclude (registered : RegisteredModel σ) (query : LogicalQuery σ) :
    Except QueryError Outcome × Run σ → Except QueryError Outcome × Run σ
  | (.ok (.records records), between) =>
    let (made, after) := result (registered.callAfter query.method query.options records) between
    (made.map .records, after)
  | ended => ended

/-- An operation after the hooks before its query. -/
theorem result_perform {prepared : LogicalQuery σ} {run : Run σ} {calls : List Event} {left : σ}
    (reached : registered.before query run.environment = ⟨calls, .ok prepared, left⟩) :
    result (registry.perform registered query) run =
      conclude registered query
        (result (registry.fetch registered query.method prepared) (run.advance left calls)) := by
  have through := registered.of_callBefore query run
  have same := RegisteredModel.before_ok (congrArg Stage.made reached)
  rw [Stage.Of, reached] at through
  unfold perform
  rw [result_bind_of_ok through, same.1, same.2, result_bind]
  rcases result (registry.fetch registered query.method prepared) (run.advance left calls) with
    ⟨error | outcome, after⟩
  · rfl
  · cases outcome with
    | nothing | count | number => rfl
    | records records =>
      dsimp only [conclude]
      rw [result_bind]
      rcases result (registered.callAfter query.method query.options records) after with ⟨error | made, last⟩
      · rfl
      · rfl

section Answers

variable {run after : Run σ} {calls : List Event} {physical : PhysicalQuery} {left last : σ}
    {outcome : Except QueryError Outcome}

/-- Warnings aside, a query adds itself to the calls before it. -/
theorem filter_asked (registered : RegisteredModel σ) (physical : PhysicalQuery)
    (hooks : calls.filter Event.isCall = calls) (warnings : List Warning) :
    (calls ++ registered.asked physical :: warnings.map Event.warned).filter Event.isCall =
      calls ++ [registered.asked physical] := by
  rw [List.filter_append, hooks, List.filter_cons_of_pos rfl, Event.filter_warned]

/-- The course of a query that was answered without an error. -/
theorem course_of_answer (hooks : calls.filter Event.isCall = calls)
    (prepared : Prepared registry registered query run.environment calls physical left)
    {payload : Option Json} (answered : registered.answer? physical left = some (.ok payload, last))
    {warnings : List Warning}
    (concluded : conclude registered query (registry.reading registered physical payload,
        run.advance last (calls ++ registered.asked physical :: warnings.map Event.warned)) =
      (outcome, after)) :
    ∃ calls, after.calls = run.calls ++ calls ∧
      Course registry registered query run.environment calls outcome after.environment := by
  have asked := filter_asked registered physical hooks warnings
  cases read : registry.reading registered physical payload with
  | error error =>
    rw [read] at concluded
    obtain ⟨rfl, rfl⟩ := Prod.mk.inj concluded
    exact ⟨_, by rw [Run.calls_advance, asked], .unread prepared answered read⟩
  | ok held =>
    rw [read] at concluded
    cases held with
    | nothing | count | number =>
      obtain ⟨rfl, rfl⟩ := Prod.mk.inj concluded
      exact ⟨_, by rw [Run.calls_advance, asked], .plain prepared answered read (.inl rfl)⟩
    | records records =>
      dsimp only [conclude] at concluded
      rw [RegisteredModel.result_callAfter] at concluded
      cases place : HookName.after? query.method with
      | none =>
        rw [place] at concluded
        obtain ⟨rfl, rfl⟩ := Prod.mk.inj concluded
        exact ⟨_, by rw [Run.calls_advance, asked], .plain prepared answered read (.inr place)⟩
      | some name =>
        rw [place] at concluded
        obtain ⟨rfl, rfl⟩ := Prod.mk.inj concluded
        have later := (Event.filter_hooks (registered.hookRecords_calls query.options name records last)).1
        refine ⟨_, ?_, .followed prepared answered read place⟩
        rw [Run.environment_advance, Run.calls_advance, Run.calls_advance, asked, later]
        simp

/-- The course of a query that can be put to the adapter. -/
theorem course_of_prepared {prepared : LogicalQuery σ}
    (reached : registered.before query run.environment = ⟨calls, .ok prepared, left⟩)
    (lowered : prepared.lower registered registry = .ok physical)
    (performed : result (registry.perform registered query) run = (outcome, after)) :
    ∃ calls, after.calls = run.calls ++ calls ∧
      Course registry registered query run.environment calls outcome after.environment := by
  have hooks := registered.before_calls query run.environment
  rw [reached] at hooks
  have isPrepared : Prepared registry registered query run.environment calls physical left :=
    ⟨prepared, reached, lowered⟩
  rw [result_perform reached] at performed
  rcases answered : registered.answer? physical (run.advance left calls).environment with
    _ | ⟨error | payload, last⟩
  · rw [fetch_of_none lowered answered] at performed
    obtain ⟨rfl, rfl⟩ := Prod.mk.inj performed
    exact ⟨calls, by rw [Run.calls_advance, (Event.filter_hooks hooks).1], .unsupported isPrepared answered⟩
  · obtain ⟨charged, warnings, fetched, code⟩ := fetch_of_error lowered answered query.method
    rw [fetched] at performed
    obtain ⟨rfl, rfl⟩ := Prod.mk.inj performed
    refine ⟨_, ?_, .refused isPrepared answered code⟩
    rw [Run.advance_advance, Run.calls_advance, filter_asked _ _ (Event.filter_hooks hooks).1]
  · have options := (LogicalQuery.lower_eq_ok.mp lowered).options_eq
    rw [fetch_of_ok lowered options answered query.method, Run.advance_advance] at performed
    exact course_of_answer (Event.filter_hooks hooks).1 isPrepared answered performed

end Answers

/-- A compiled query that is no stream takes one of the courses. -/
theorem perform_course {run after : Run σ} {outcome : Except QueryError Outcome}
    (performed : result (registry.perform registered query) run = (outcome, after)) :
    ∃ calls, after.calls = run.calls ++ calls ∧
      Course registry registered query run.environment calls outcome after.environment := by
  have hooks := registered.before_calls query run.environment
  rcases reached : registered.before query run.environment with ⟨calls, error | prepared, left⟩
  · obtain ⟨name, message, rfl⟩ := RegisteredModel.before_error (congrArg Stage.made reached)
    have through := registered.of_callBefore query run
    rw [reached] at hooks
    rw [Stage.Of, reached] at through
    unfold perform at performed
    rw [result_bind_of_error through] at performed
    obtain ⟨rfl, rfl⟩ := Prod.mk.inj performed
    exact ⟨calls, by rw [Run.calls_advance, (Event.filter_hooks hooks).1], .unprepared reached⟩
  · cases lowered : prepared.lower registered registry with
    | error cause =>
      rw [reached] at hooks
      rw [result_perform reached, fetch_of_lower_error lowered] at performed
      obtain ⟨rfl, rfl⟩ := Prod.mk.inj performed
      exact ⟨calls, by rw [Run.calls_advance, (Event.filter_hooks hooks).1], .unlowered reached lowered⟩
    | ok physical => exact course_of_prepared reached lowered performed

/-- What an operation that is no stream calls, and in which order. If its query is not compiled, it
calls nothing and leaves the run as it was: what asks for nothing ends well, and everything else is a
usage error. A compiled query takes one of the courses; it asks an adapter at most once, and calls no
hook if options turn them off. -/
theorem execute_calls_in_order (registry : Registry σ) {query : Description σ}
    (notStream : query.method ≠ .stream) (now : Instant) (run : Run σ) :
    ∃ outcome after, result (registry.execute now query) run = (outcome, after) ∧
      (∀ error, outcome = .error error → error.code ≠ "E_NOOP") ∧
      (∀ reason, query.compile registry now = .error reason →
        after = run ∧ (reason.isNoop = true → outcome = .ok (.noop query.method query.options)) ∧
        (reason.isNoop = false → ∃ error, outcome = .error error ∧ error.isUsage = true)) ∧
      ∀ registered compiled, registry.model? query.model = some registered →
        query.compile registry now = .ok compiled →
        ∃ calls, after.calls = run.calls ++ calls ∧
          Course registry registered compiled run.environment calls outcome after.environment ∧
          (calls.filter Event.isQuery).length ≤ 1 ∧
          (query.options.skipHooks = true → ∀ event ∈ calls, event.isHook = false) := by
  rcases executed : result (registry.execute now query) run with ⟨outcome, after⟩
  refine ⟨outcome, after, rfl, fun error _ => error.code_ne_noop, fun reason failed => ?_,
    fun registered compiled found done => ?_⟩
  · obtain ⟨_, untouched, noop, invalid⟩ := execute_of_compile_error failed run
    obtain ⟨rfl, rfl⟩ := Prod.mk.inj (executed.symm.trans untouched)
    exact ⟨rfl, noop, invalid⟩
  · rw [execute_of_compile found done, if_neg notStream] at executed
    obtain ⟨calls, called, course⟩ := perform_course executed
    obtain ⟨_, _, made⟩ := Description.compile_eq_ok.mp done
    exact ⟨calls, called, course, course.queries_le_one, fun skips =>
      course.no_hooks (.inl (made.options_eq ▸ skips))⟩

/-- Lets one user pass, and fails for any other. -/
def onlyFirst : Hook Store Record :=
  fun record store =>
    if (Record.read record "id").same (.ofNat 1) then (.ok record, store) else (.error "no more", store)

/-- An update of the name of every user, with the users it affects. -/
def renameUsers : Description Store where
  method := .update
  model := "user"
  criteria := some (.record [])
  values := some (.record [("name", .text "Eve")])
  options := { fetch := true }

/-- An update of three users with a hook after it that fails for the second: the adapter was asked once,
the hook was called twice, and the update fails with what the hook said. -/
theorem renameUsers_in_order :
    ∃ (registry : Registry Store) (start finish run after : Run Store) (outcome : Except QueryError Outcome)
      (calls : List Event),
      result (build .usersAndPets [("memory", Store.adapter)] [("user", { afterUpdate := some onlyFirst })])
        start = (.ok registry, finish) ∧
      run.environment.rows "default" "user" = .ok userRows ∧
      result (registry.execute ⟨0⟩ renameUsers) run = (outcome, after) ∧
      outcome = .error (.hook "user" .afterUpdate "no more") ∧ after.calls = run.calls ++ calls ∧
      (calls.filter Event.isQuery).length ≤ 1 ∧ (calls.filter Event.isHook).length = 2 := by
  let start : Run Store := { environment := { keys := { draw := toString } } }
  let built := result (build .usersAndPets [("memory", Store.adapter)]
    [("user", { afterUpdate := some onlyFirst })]) start
  let table : Table := { definition := { table := "user", primaryKey := "id" }, rows := userRows }
  let run : Run Store := { environment := built.2.environment.put "default" "user" table }
  have stopped {registry : Registry Store} (isBuilt : built.1 = .ok registry) :
      (result (registry.execute ⟨0⟩ renameUsers) run).1 = .error (.hook "user" .afterUpdate "no more") ∧
        ((result (registry.execute ⟨0⟩ renameUsers) run).2.calls.filter Event.isHook).length = 2 ∧
        ∃ registered compiled, registry.model? renameUsers.model = some registered ∧
          renameUsers.compile registry ⟨0⟩ = .ok compiled := by
    obtain rfl := Except.ok.inj isBuilt
    exact ⟨by cbv, by cbv, _, _, rfl, rfl⟩
  obtain ⟨failed, hooked, registered, compiled, found, done⟩ := stopped rfl
  obtain ⟨outcome, after, executed, -, -, inOrder⟩ := execute_calls_in_order _
    (show renameUsers.method ≠ .stream by decide) ⟨0⟩ run
  obtain ⟨calls, called, -, once, -⟩ := inOrder registered compiled found done
  rw [executed] at failed hooked
  refine ⟨_, start, _, run, after, outcome, calls, rfl, rfl, executed, failed, called, once, ?_⟩
  rw [← hooked, called]
  rfl

end Registry

end RecordMapper
