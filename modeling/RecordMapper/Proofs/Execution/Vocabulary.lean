import RecordMapper.Proofs.Execution.Course
import RecordMapper.Proofs.Execution.Events
import RecordMapper.Proofs.Query.Effects
import RecordMapper.Proofs.Query.Vocabulary
import RecordMapper.Store.Answering

/-! # What adapters are asked in

Whatever a caller describes and whatever hooks make of it, an adapter is asked about tables in columns
only, by a stream as by any other operation. What a hook names that has no column fails the operation
before its adapter is asked, unless the name is only to be omitted.
-/

namespace RecordMapper

open Attempt

variable {σ : Type}

/-- The hooks before a query leave its associations alone. -/
theorem RegisteredModel.before_populates {registered : RegisteredModel σ} {query prepared : LogicalQuery σ}
    {environment : σ} (done : (registered.before query environment).made = .ok prepared) :
    prepared.populates = query.populates := by
  unfold before at done
  split at done
  case h_5 =>
    obtain rfl := Except.ok.inj done
    rfl
  all_goals
    obtain ⟨_, -, rfl⟩ := Results.map_eq_ok.mp done
    rfl

namespace Registry

variable {registry : Registry σ} {registered : RegisteredModel σ}

/-- An event is not a query, or it is a query to the adapter of a model in columns of that model. -/
def InColumns (registry : Registry σ) (registered : RegisteredModel σ) : Event → Prop
  | .queried adapter datastore query =>
    adapter = registered.adapter.identity ∧ datastore = registered.datastore ∧
      query.InColumns registry registered
  | _ => True

theorem asked_inColumns {query : LogicalQuery σ} {physical : PhysicalQuery}
    (lowered : query.lower registered registry = .ok physical) :
    registry.InColumns registered (.queried registered.adapter.identity registered.datastore physical) :=
  ⟨rfl, rfl, (LogicalQuery.lower_eq_ok.mp lowered).inColumns⟩

/-- A fetch asks in columns, whatever query it is for. -/
theorem fetch_inColumns (query : LogicalQuery σ) (origin : Method) :
    Adds (registry.InColumns registered) (registry.fetch registered origin query) :=
  adds_fetch (fun _ => trivial) (fun _ => asked_inColumns) origin

theorem stream_inColumns (query : LogicalQuery σ) :
    Adds (registry.InColumns registered) (registry.stream registered query) := by
  unfold stream
  split
  · exact adds_throw _
  · exact adds_streamFrom (fun _ => trivial) (fun _ => trivial) (fun _ _ _ => asked_inColumns) _ _ _ _

theorem perform_inColumns (query : LogicalQuery σ) :
    Adds (registry.InColumns registered) (registry.perform registered query) := by
  unfold perform
  refine (RegisteredModel.adds_callBefore (fun _ _ _ => trivial) registered query).bind fun prepared => ?_
  refine (fetch_inColumns prepared _).bind fun outcome => ?_
  split
  · exact (RegisteredModel.adds_callAfter (fun _ _ _ => trivial) registered _ _ _).bind fun records => adds_pure _
  · exact adds_pure _

/-- An operation asks in columns of its model. -/
theorem execute_inColumns {query : Description σ} (found : registry.model? query.model = some registered)
    (now : Instant) : Adds (registry.InColumns registered) (registry.execute now query) := by
  intro run
  cases done : query.compile registry now with
  | error reason =>
    obtain ⟨outcome, same, -⟩ := execute_of_compile_error done run
    rw [same]
    exact ⟨[], (List.append_nil _).symm, by simp⟩
  | ok compiled =>
    rw [execute_of_compile found done]
    split
    · exact (stream_inColumns _).bind (fun _ => adds_pure _) run
    · exact perform_inColumns _ run

/-! ## What hooks name -/

/-- What the hooks before an operation make of its query is not put to the adapter if it has no form for
it. -/
theorem execute_of_unlowered {query : Description σ} (found : registry.model? query.model = some registered)
    {now : Instant} {compiled prepared : LogicalQuery σ} (done : query.compile registry now = .ok compiled)
    (notStream : query.method ≠ .stream) {run : Run σ} {calls : List Event} {left : σ}
    (reached : registered.before compiled run.environment = ⟨calls, .ok prepared, left⟩)
    {cause : TransformError} (failed : prepared.lower registered registry = .error cause) :
    result (registry.execute now query) run =
      (.error (.transform registered.identity cause), run.advance left calls) := by
  rw [execute_of_compile found done, if_neg notStream, result_perform reached,
    fetch_of_lower_error failed]
  rfl

/-- Adapters are asked in tables and columns. Every query that an operation puts to an adapter is to the
adapter of its model, about the table of the model, and names nothing but columns of the model, and in its
joins of the associated models. What the hooks before a mutation make of it is lowered exactly when all
that it carries over is stored; otherwise only hooks have been called, and the operation fails with a
transform error. -/
theorem queries_in_columns {configuration : Configuration} {adapters : Dictionary (Adapter σ)}
    {hooks : Dictionary (Hooks σ)} {start finish : Run σ}
    (built : result (build configuration adapters hooks) start = (.ok registry, finish))
    (query : Description σ) (now : Instant) (run : Run σ) :
    ∃ outcome after events, result (registry.execute now query) run = (outcome, after) ∧
      after.events = run.events ++ events ∧
      (∀ adapter datastore physical, .queried adapter datastore physical ∈ events →
        ∃ registered, registry.model? query.model = some registered ∧
          adapter = registered.adapter.identity ∧ datastore = registered.datastore ∧
          physical.InColumns registry registered) ∧
      ∀ registered compiled prepared calls left, registry.model? query.model = some registered →
        query.compile registry now = .ok compiled → query.method.isMutation = true →
        registered.before compiled run.environment = ⟨calls, .ok prepared, left⟩ →
        ((∃ physical, prepared.lower registered registry = .ok physical) ↔
          registered.model.Stores prepared.carried) ∧
        (¬registered.model.Stores prepared.carried →
          (∃ cause, outcome = .error (.transform registered.identity cause)) ∧
            ∀ event ∈ events, event.isHook = true) := by
  rcases executed : result (registry.execute now query) run with ⟨outcome, after⟩
  cases found : registry.model? query.model with
  | none =>
    obtain ⟨-, rfl⟩ := Prod.mk.inj (executed.symm.trans (execute_of_unknown found run))
    exact ⟨outcome, _, [], rfl, (List.append_nil _).symm, by simp, by simp⟩
  | some registered =>
    obtain ⟨events, added, inColumns⟩ := execute_inColumns found now run
    rw [executed] at added
    refine ⟨outcome, after, events, rfl, added, ?_, ?_⟩
    · intro adapter datastore physical member
      exact ⟨registered, rfl, inColumns _ member⟩
    · intro _ compiled prepared calls left same done isMutation reached
      obtain rfl := Option.some.inj same
      obtain ⟨_, isModel, made⟩ := Description.compile_eq_ok.mp done
      have noPopulates : prepared.populates = [] := by
        rw [RegisteredModel.before_populates (congrArg Stage.made reached)]
        exact made.populates_eq_nil (Method.takesPopulates_of_isMutation isMutation)
      have lowers : (∃ physical, prepared.lower registered registry = .ok physical) ↔
          registered.model.Stores prepared.carried :=
        LogicalQuery.exists_lower_iff_carried ((built_of_build built).columns_eq found) noPopulates
      refine ⟨lowers, fun missing => ?_⟩
      cases lowered : prepared.lower registered registry with
      | ok physical => exact absurd (lowers.mp ⟨physical, lowered⟩) missing
      | error cause =>
        have notStream : query.method ≠ .stream := by
          intro isStream
          rw [isStream] at isMutation
          cases isMutation
        have unlowered := execute_of_unlowered found done notStream reached lowered
        obtain ⟨rfl, rfl⟩ := Prod.mk.inj (executed.symm.trans unlowered)
        refine ⟨⟨cause, rfl⟩, ?_⟩
        have onlyHooks := registered.before_calls compiled run.environment
        rw [reached] at onlyHooks
        rwa [List.append_cancel_left (show run.events ++ events = run.events ++ calls from added.symm)]

/-- Goes for the nicknames of users, which have none. -/
def byNickname : Hook Store Criteria :=
  fun criteria store => (.ok { criteria with sort := [⟨"nickname", .ascending⟩] }, store)

/-- Leaves out the nicknames of users, which have none. -/
def withoutNickname : Hook Store Criteria :=
  fun criteria store => (.ok { criteria with omission := ["nickname"] }, store)

/-- A destroy of all users. -/
def destroyUsers : Description Store where
  method := .destroy
  model := "user"
  criteria := some (.record [])

/-- A hook that sorts by an attribute that there is not fails the destroy before the adapter is asked. -/
theorem byNickname_fails :
    ∃ (registry : Registry Store) (start finish after : Run Store) (events : List Event),
      result (build .usersAndPets [("memory", Store.adapter)] [("user", { beforeDestroy := some byNickname })])
        start = (.ok registry, finish) ∧
      (∃ cause, result (registry.execute ⟨0⟩ destroyUsers) finish =
        (.error (.transform "user" cause), after)) ∧
      after.events = finish.events ++ events ∧ ∀ event ∈ events, event.isHook = true := by
  let start : Run Store := { environment := { keys := { draw := toString } } }
  let built := result (build .usersAndPets [("memory", Store.adapter)]
    [("user", { beforeDestroy := some byNickname })]) start
  have prepared {registry : Registry Store} (isBuilt : built.1 = .ok registry) :
      ∃ registered compiled prepared calls left, registry.model? destroyUsers.model = some registered ∧
        destroyUsers.compile registry ⟨0⟩ = .ok compiled ∧
        registered.before compiled built.2.environment = ⟨calls, .ok prepared, left⟩ ∧
        ¬registered.model.Stores prepared.carried ∧ registered.identity = "user" := by
    obtain rfl := Except.ok.inj isBuilt
    exact ⟨_, _, _, _, _, rfl, rfl, rfl, fun stores => absurd (stores "nickname" (by decide)) (by decide), rfl⟩
  obtain ⟨registered, compiled, _, calls, left, found, done, reached, missing, isUser⟩ := prepared rfl
  obtain ⟨outcome, after, events, executed, added, -, hooked⟩ :=
    queries_in_columns (show built = _ from rfl) destroyUsers ⟨0⟩ built.2
  obtain ⟨-, fails⟩ := hooked registered compiled _ calls left found done rfl reached
  obtain ⟨⟨cause, rfl⟩, onlyHooks⟩ := fails missing
  rw [isUser] at executed
  exact ⟨_, start, _, after, events, rfl, ⟨cause, executed⟩, added, onlyHooks⟩

/-- A hook that leaves out an attribute that there is not fails nothing: the adapter is asked, and the
destroy succeeds. -/
theorem withoutNickname_passes :
    ∃ (registry : Registry Store) (start finish after : Run Store) (registered : RegisteredModel Store)
      (physical : PhysicalQuery),
      result (build .usersAndPets [("memory", Store.adapter)]
        [("user", { beforeDestroy := some withoutNickname })]) start = (.ok registry, finish) ∧
      registry.model? destroyUsers.model = some registered ∧
      registered.hooks.beforeDestroy = some withoutNickname ∧
      (∀ criteria store, ∃ made, withoutNickname criteria store = (.ok made, store) ∧
        "nickname" ∈ made.fields) ∧
      registered.columns.column "nickname" = .error (.unknownAttribute "user" "nickname") ∧
      result (registry.execute ⟨0⟩ destroyUsers) finish = (.ok .nothing, after) ∧
      .queried "memory" "default" physical ∈ after.events := by
  let start : Run Store := { environment := { keys := { draw := toString } } }
  let built := result (build .usersAndPets [("memory", Store.adapter)]
    [("user", { beforeDestroy := some withoutNickname })]) start
  have facts {registry : Registry Store} (isBuilt : built.1 = .ok registry) :
      ∃ registered physical after, registry.model? destroyUsers.model = some registered ∧
        registered.hooks.beforeDestroy = some withoutNickname ∧
        registered.columns.column "nickname" = .error (.unknownAttribute "user" "nickname") ∧
        result (registry.execute ⟨0⟩ destroyUsers) built.2 = (.ok .nothing, after) ∧
        after.events.getLast? = some (.queried "memory" "default" physical) := by
    obtain rfl := Except.ok.inj isBuilt
    exact ⟨_, _, _, rfl, rfl, rfl, rfl, rfl⟩
  obtain ⟨registered, physical, after, found, hooked, missing, executed, isLast⟩ := facts rfl
  exact ⟨_, start, built.2, after, registered, physical, rfl, found, hooked,
    fun criteria _ => ⟨_, rfl, by simp [Criteria.fields]⟩, missing, executed, List.mem_of_getLast? isLast⟩

end Registry

end RecordMapper
