import RecordMapper.Execution.HookCalls
import RecordMapper.Proofs.Execution.Fetching

/-! # One hook after the other

The hook of a place is called for one payload after the other, each in the environment that the call
before it left behind, and never again after it failed. A `Stage` of an operation is the part of it that
one place makes up. `RegisteredModel.before` and `RegisteredModel.after` are the stages around the query
of an operation, and the operation calls exactly what they call.
-/

namespace RecordMapper

open Attempt

variable {σ α β : Type}

/-- What a hook made of payloads, one after the other. -/
structure HookSeries (σ α : Type) where
  /-- The payloads that it was called with. -/
  called : List α
  /-- What it made of them, or the message that it failed with. -/
  made : Except String (List α)
  environment : σ

namespace Hook

/-- Call a hook for one payload after the other, until it fails. -/
def series (hook : Hook σ α) : List α → σ → HookSeries σ α
  | [], environment => ⟨[], .ok [], environment⟩
  | payload :: rest, environment =>
    match hook payload environment with
    | (.error message, left) => ⟨[payload], .error message, left⟩
    | (.ok value, left) =>
      let later := series hook rest left
      ⟨payload :: later.called, later.made.map (value :: ·), later.environment⟩

theorem series_of_error {hook : Hook σ α} {payload : α} {environment left : σ} {message : String}
    (failed : hook payload environment = (.error message, left)) (rest : List α) :
    hook.series (payload :: rest) environment = ⟨[payload], .error message, left⟩ := by
  rw [series, failed]

theorem series_of_ok {hook : Hook σ α} {payload value : α} {environment left : σ}
    (done : hook payload environment = (.ok value, left)) (rest : List α) :
    hook.series (payload :: rest) environment =
      ⟨payload :: (hook.series rest left).called, (hook.series rest left).made.map (value :: ·),
        (hook.series rest left).environment⟩ := by
  rw [series, done]

/-- The payloads are taken in order, and unless the hook fails it is called once for each. -/
theorem series_called (hook : Hook σ α) (payloads : List α) (environment : σ) :
    (hook.series payloads environment).called <+: payloads ∧
      ∀ values, (hook.series payloads environment).made = .ok values →
        (hook.series payloads environment).called = payloads ∧ values.length = payloads.length := by
  induction payloads generalizing environment with
  | nil =>
    refine ⟨List.prefix_refl [], fun values made => ⟨rfl, ?_⟩⟩
    rw [← Except.ok.inj made]
  | cons payload rest ih =>
    rcases step : hook payload environment with ⟨message | value, left⟩
    · rw [series_of_error step]
      exact ⟨List.prefix_iff_eq_append.mpr rfl, fun values made => by cases made⟩
    · rw [series_of_ok step]
      obtain ⟨order, once⟩ := ih left
      refine ⟨(List.prefix_cons_inj payload).mpr order, fun values made => ?_⟩
      obtain ⟨others, there, rfl⟩ := Results.map_eq_ok.mp made
      obtain ⟨same, length⟩ := once others there
      exact ⟨by rw [same], by rw [List.length_cons, List.length_cons, length]⟩

end Hook

/-- What a place makes of payloads; without a hook the payloads themselves. -/
def HookSeries.of : Option (Hook σ α) → List α → σ → HookSeries σ α
  | some hook, payloads, environment => hook.series payloads environment
  | none, payloads, environment => ⟨[], .ok payloads, environment⟩

/-- A part of an operation: what it calls, what it makes, and the environment that it leaves behind. -/
structure Stage (σ α : Type) where
  calls : List Event
  made : Except QueryError α
  environment : σ

namespace Stage

/-- A part in which nothing is called. -/
def idle (value : α) (environment : σ) : Stage σ α :=
  ⟨[], .ok value, environment⟩

/-- Make something of what a part makes. -/
def map (function : α → β) (stage : Stage σ α) : Stage σ β where
  calls := stage.calls
  made := stage.made.map function
  environment := stage.environment

/-- On a run, an attempt does what a part does. -/
def Of (stage : Stage σ α) (attempt : Execution σ α) (run : Run σ) : Prop :=
  result attempt run = (stage.made, run.advance stage.environment stage.calls)

theorem of_idle (value : α) (run : Run σ) : (idle value run.environment).Of (pure value) run := by
  rw [Of, result_pure, idle, Run.advance_self]

theorem Of.map {stage : Stage σ α} {attempt : Execution σ α} {run : Run σ} (done : stage.Of attempt run)
    (function : α → β) :
    (stage.map function).Of (attempt >>= fun value => pure (function value)) run := by
  rw [Of, result_bind, done, Stage.map]
  cases stage.made with
  | error error => rfl
  | ok value => rfl

end Stage

/-- The hook of a place, unless options turn all hooks off. -/
def Meta.active? (options : Meta) (hook : Option (Hook σ α)) : Option (Hook σ α) :=
  if options.skipHooks then none else hook

namespace RegisteredModel

/-- The part of an operation that the hook of one place makes up. -/
def hooking (registered : RegisteredModel σ) (name : HookName) (note : α → HookPayload)
    (series : HookSeries σ α) : Stage σ (List α) where
  calls := series.called.map fun payload => .hooked registered.identity name (note payload)
  made := series.made.mapError (.hook registered.identity name)
  environment := series.environment

/-- What the hook for records at a place makes of records. -/
def hookRecords (registered : RegisteredModel σ) (options : Meta) (name : HookName)
    (records : List Record) (environment : σ) : Stage σ (List Record) :=
  let hook := options.active? (registered.hooks.recordHook? name)
  registered.hooking name .record (.of hook records environment)

/-- What the hook before a destroy makes of its criteria. -/
def hookCriteria (registered : RegisteredModel σ) (options : Meta) (criteria : Criteria)
    (environment : σ) : Stage σ (List Criteria) :=
  let hook := options.active? registered.hooks.beforeDestroy
  registered.hooking .beforeDestroy .criteria (.of hook [criteria] environment)

/-- What the hooks before a mutation make of its query: of each new record of a create, once of the
values of an update, and once of the criteria of a destroy. -/
def before (registered : RegisteredModel σ) (query : LogicalQuery σ) (environment : σ) :
    Stage σ (LogicalQuery σ) :=
  match query.method with
  | .create | .createEach =>
    (registered.hookRecords query.options .beforeCreate query.records environment).map
      fun records => { query with records }
  | .update =>
    (registered.hookRecords query.options .beforeUpdate query.values.toList environment).map
      fun values => { query with values := values.head? }
  | .destroy =>
    (registered.hookCriteria query.options query.criteria environment).map
      fun criteria => { query with criteria := criteria.headD query.criteria }
  | _ => .idle query environment

/-- An operation on a model calls no hook: options turn them off, or the model has none. -/
def Quiet (registered : RegisteredModel σ) (options : Meta) : Prop :=
  options.skipHooks = true ∨ registered.hooks = {}

variable (registered : RegisteredModel σ)

/-- Without a hook to call, records are left as they are. -/
theorem hookRecords_of_quiet {options : Meta} (quiet : registered.Quiet options) (name : HookName)
    (records : List Record) (environment : σ) :
    registered.hookRecords options name records environment = .idle records environment := by
  have inactive : options.active? (registered.hooks.recordHook? name) = none := by
    rcases quiet with skips | noHooks
    · rw [Meta.active?, if_pos skips]
    · rw [noHooks, Meta.active?]
      cases name <;> exact ite_self _
  rw [hookRecords, inactive]
  rfl

theorem hookCriteria_of_quiet {options : Meta} (quiet : registered.Quiet options) (criteria : Criteria)
    (environment : σ) :
    registered.hookCriteria options criteria environment = .idle [criteria] environment := by
  have inactive : options.active? registered.hooks.beforeDestroy = none := by
    rcases quiet with skips | noHooks
    · rw [Meta.active?, if_pos skips]
    · rw [noHooks, Meta.active?]
      exact ite_self _
  rw [hookCriteria, inactive]
  rfl

/-- Without a hook to call, a query is left as it is. -/
theorem before_of_quiet {query : LogicalQuery σ} (quiet : registered.Quiet query.options) (environment : σ) :
    registered.before query environment = .idle query environment := by
  unfold before
  simp only [registered.hookRecords_of_quiet quiet, registered.hookCriteria_of_quiet quiet]
  split
  · rfl
  · rfl
  · have same : query.values.toList.head? = query.values := by cases query.values <;> rfl
    rw [Stage.map, Stage.idle, Except.map, same]
    rfl
  · rfl
  · rfl

theorem hookRecords_nil (options : Meta) (name : HookName) (environment : σ) :
    registered.hookRecords options name [] environment = .idle [] environment := by
  unfold hookRecords
  cases options.active? (registered.hooks.recordHook? name) with
  | none => rfl
  | some hook => rfl

theorem result_callHook (name : HookName) (note : HookPayload) (hook : Hook σ α) (payload : α)
    (run : Run σ) :
    result (registered.callHook name note hook payload) run =
      ((hook payload run.environment).1.mapError (.hook registered.identity name),
        run.advance (hook payload run.environment).2 [.hooked registered.identity name note]) := by
  unfold callHook
  rw [result_bind_of_ok (result_call ..)]
  rcases hook payload run.environment with ⟨message | value, left⟩
  · rfl
  · rfl

/-- A hook that is called for each payload of a list makes a series of its calls. -/
theorem of_mapM_callHook (name : HookName) (note : α → HookPayload) (hook : Hook σ α)
    (payloads : List α) (run : Run σ) :
    (registered.hooking name note (hook.series payloads run.environment)).Of
      (payloads.mapM fun payload => registered.callHook name (note payload) hook payload) run := by
  induction payloads generalizing run with
  | nil => exact Stage.of_idle [] run
  | cons payload rest ih =>
    rw [Stage.Of, List.mapM_cons, result_bind, result_callHook]
    rcases step : hook payload run.environment with ⟨message | value, left⟩
    · rw [Hook.series_of_error step]
      rfl
    · have later := ih (run.advance left [.hooked registered.identity name (note payload)])
      rw [Stage.Of, Run.environment_advance, Run.advance_advance] at later
      rw [Hook.series_of_ok step]
      dsimp only [Except.mapError]
      rw [result_bind, later]
      unfold hooking
      dsimp only
      cases (hook.series rest left).made <;> rfl

/-- Every record that a mutation has for the hook of a place goes through it. -/
theorem of_mapM_callRecordHook (options : Meta) (name : HookName) (records : List Record)
    (run : Run σ) :
    (registered.hookRecords options name records run.environment).Of
      (records.mapM (registered.callRecordHook options name)) run := by
  have untouched : (Stage.idle records run.environment).Of (records.mapM pure) run := by
    rw [List.mapM_pure, List.map_id']
    exact Stage.of_idle records run
  unfold hookRecords Meta.active?
  cases place : registered.hooks.recordHook? name with
  | none =>
    have each : registered.callRecordHook options name = pure := by
      funext record
      rw [callRecordHook, place]
    rw [each, ite_self]
    exact untouched
  | some hook =>
    cases skips : options.skipHooks with
    | true =>
      have each : registered.callRecordHook options name = pure := by
        funext record
        rw [callRecordHook, place]
        simp only [skips, if_true]
      rw [each]
      exact untouched
    | false =>
      have each : registered.callRecordHook options name =
          fun record => registered.callHook name (.record record) hook record := by
        funext record
        rw [callRecordHook, place]
        simp only [skips, Bool.false_eq_true, if_false]
      rw [each]
      exact registered.of_mapM_callHook name .record hook records run

theorem of_callRecordHook (options : Meta) (name : HookName) (record : Record) (run : Run σ) :
    (registered.hookRecords options name [record] run.environment).Of
      ((registered.callRecordHook options name record) >>= fun made => pure [made]) run := by
  have each := registered.of_mapM_callRecordHook options name [record] run
  rwa [List.mapM_cons, List.mapM_nil] at each

theorem of_callCriteriaHook (options : Meta) (criteria : Criteria) (run : Run σ) :
    (registered.hookCriteria options criteria run.environment).Of
      ((registered.callCriteriaHook options criteria) >>= fun made => pure [made]) run := by
  unfold hookCriteria Meta.active? callCriteriaHook
  cases registered.hooks.beforeDestroy with
  | none =>
    rw [ite_self]
    exact Stage.of_idle [criteria] run
  | some hook =>
    cases options.skipHooks with
    | true => exact Stage.of_idle [criteria] run
    | false =>
      have each := registered.of_mapM_callHook .beforeDestroy .criteria hook [criteria] run
      rwa [List.mapM_cons, List.mapM_nil] at each

/-- The hooks before a mutation go through the part before its query. -/
theorem of_callBefore (query : LogicalQuery σ) (run : Run σ) :
    (registered.before query run.environment).Of (registered.callBefore query) run := by
  obtain ⟨method, model, criteria, values, records, numericAttribute, populates, iteratee, options⟩ := query
  cases method with
  | create | createEach => exact (registered.of_mapM_callRecordHook options .beforeCreate records run).map _
  | update =>
    cases values with
    | none =>
      unfold before
      dsimp only [Option.toList]
      rw [hookRecords_nil]
      exact Stage.of_idle _ run
    | some values =>
      have made := (registered.of_callRecordHook options .beforeUpdate values run).map
        fun values => LogicalQuery.mk .update model criteria values.head? records numericAttribute
          populates iteratee options
      rwa [bind_assoc] at made
  | destroy =>
    have made := (registered.of_callCriteriaHook options criteria run).map
      fun found => LogicalQuery.mk .destroy model (found.headD criteria) values records numericAttribute
        populates iteratee options
    rwa [bind_assoc] at made
  | find | count | sum | avg | stream => exact Stage.of_idle _ run

end RegisteredModel

end RecordMapper
