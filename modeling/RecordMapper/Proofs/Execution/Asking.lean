import RecordMapper.Proofs.Execution.Course
import RecordMapper.Proofs.Store.Tables

/-! # Operations reach a store by asking it

An operation touches its environment through hooks and adapters only. If those that do not belong to a
store do nothing to it but ask it queries, then that is all that any series of operations does to it. So what
a store keeps up from one query to the next, operations keep up.
-/

namespace RecordMapper

open Attempt

variable {σ α : Type}

namespace Store

theorem after_append (store : Store) (queries others : List (String × PhysicalQuery)) :
    store.after (queries ++ others) = (store.after queries).after others :=
  List.foldl_append

namespace Place

variable {place : Store.Place σ}

/-- The store at a place was asked queries, and nothing else was done to it. -/
def Asked (place : Store.Place σ) (before after : σ) : Prop :=
  ∃ queries, place.part after = (place.part before).after queries

theorem Asked.refl (environment : σ) : place.Asked environment environment :=
  ⟨[], rfl⟩

theorem Asked.trans {first second third : σ} (earlier : place.Asked first second)
    (later : place.Asked second third) : place.Asked first third := by
  obtain ⟨queries, asked⟩ := earlier
  obtain ⟨others, askedLater⟩ := later
  exact ⟨queries ++ others, by rw [askedLater, asked, after_append]⟩

end Place

end Store

/-- A hook does nothing to the store at a place but ask it. -/
def Hook.OnlyAsks (hook : Hook σ α) (place : Store.Place σ) : Prop :=
  ∀ payload environment, place.Asked environment (hook payload environment).2

/-- Hooks do nothing to the store at a place but ask it. -/
structure Hooks.OnlyAsk (hooks : Hooks σ) (place : Store.Place σ) : Prop where
  records : ∀ name hook, hooks.recordHook? name = some hook → hook.OnlyAsks place
  criteria : ∀ hook, hooks.beforeDestroy = some hook → hook.OnlyAsks place

/-- Queries to an adapter do nothing to the store at a place but ask it. -/
def Adapter.OnlyAsks (adapter : Adapter σ) (place : Store.Place σ) : Prop :=
  ∀ datastore query environment reply left,
    adapter.answer? datastore query environment = some (reply, left) → place.Asked environment left

theorem Hooks.onlyAsk_none (place : Store.Place σ) : ({} : Hooks σ).OnlyAsk place where
  records name hook found := by cases name <;> cases found
  criteria hook found := by cases found

/-- A query to the adapter of a store asks the store. -/
theorem Store.Place.adapter_onlyAsks (place : Store.Place σ) : place.adapter.OnlyAsks place := by
  intro datastore query environment reply left answered
  obtain ⟨⟨_, store⟩, asked, same⟩ := Option.map_eq_some_iff.mp answered
  obtain ⟨-, rfl⟩ := Prod.mk.inj same
  have queried : (place.part environment).answer? datastore query = some (_, store) := asked
  refine ⟨[(datastore, query)], ?_⟩
  rw [place.part_put, after, List.foldl_cons, List.foldl_nil]
  dsimp only
  rw [queried]
  rfl

theorem Hook.OnlyAsks.series {hook : Hook σ α} {place : Store.Place σ} (asks : hook.OnlyAsks place)
    (payloads : List α) (environment : σ) :
    place.Asked environment (hook.series payloads environment).environment := by
  induction payloads generalizing environment with
  | nil => exact .refl environment
  | cons payload rest ih =>
    have first := asks payload environment
    rcases step : hook payload environment with ⟨message | value, left⟩
    · rw [step] at first
      rw [series_of_error step]
      exact first
    · rw [step] at first
      rw [series_of_ok step]
      exact first.trans (ih left)

namespace RegisteredModel

variable {registered : RegisteredModel σ} {place : Store.Place σ}

/-- The hooks of a model and the queries to its adapter do nothing to the store at a place but ask it. -/
structure OnlyAsks (registered : RegisteredModel σ) (place : Store.Place σ) : Prop where
  hooks : registered.hooks.OnlyAsk place
  adapter : registered.adapter.OnlyAsks place

theorem hooking_asked (registered : RegisteredModel σ) {hook : Option (Hook σ α)}
    (asks : ∀ found, hook = some found → found.OnlyAsks place) (options : Meta) (name : HookName)
    (note : α → HookPayload) (payloads : List α) (environment : σ) :
    place.Asked environment
      (registered.hooking name note (.of (options.active? hook) payloads environment)).environment := by
  unfold hooking Meta.active?
  cases options.skipHooks with
  | true => exact .refl environment
  | false =>
    cases hook with
    | none => exact .refl environment
    | some found => exact (asks found rfl).series payloads environment

theorem hookRecords_asked (asks : registered.hooks.OnlyAsk place) (options : Meta) (name : HookName)
    (records : List Record) (environment : σ) :
    place.Asked environment (registered.hookRecords options name records environment).environment :=
  hooking_asked registered (asks.records name) options name .record records environment

theorem before_asked (asks : registered.hooks.OnlyAsk place) (query : LogicalQuery σ) (environment : σ) :
    place.Asked environment (registered.before query environment).environment := by
  unfold before
  split
  · exact hookRecords_asked asks ..
  · exact hookRecords_asked asks ..
  · exact hookRecords_asked asks ..
  · exact hooking_asked registered asks.criteria query.options .beforeDestroy .criteria [query.criteria] environment
  · exact .refl environment

theorem OnlyAsks.answer (asks : registered.OnlyAsks place) {physical : PhysicalQuery} {environment left : σ}
    {reply : AdapterReply} (answered : registered.answer? physical environment = some (reply, left)) :
    place.Asked environment left := by
  unfold answer? at answered
  split at answered
  · cases answered
  · exact asks.adapter _ _ _ _ _ answered

end RegisteredModel

namespace Registry

variable {registry : Registry σ} {registered : RegisteredModel σ} {place : Store.Place σ}

theorem Prepared.asked {query : LogicalQuery σ} {start environment : σ} {calls : List Event}
    {physical : PhysicalQuery} (prepared : Prepared registry registered query start calls physical environment)
    (asks : registered.OnlyAsks place) : place.Asked start environment := by
  obtain ⟨_, reached, -⟩ := prepared
  have before := registered.before_asked asks.hooks query start
  rwa [reached] at before

/-- On whatever way an operation goes, it only asks the store. -/
theorem Course.asked {query : LogicalQuery σ} {start finish : σ} {calls : List Event}
    {outcome : Except QueryError Outcome}
    (course : Course registry registered query start calls outcome finish) (asks : registered.OnlyAsks place) :
    place.Asked start finish := by
  cases course with
  | unprepared reached | unlowered reached =>
    have before := registered.before_asked asks.hooks query start
    rwa [reached] at before
  | unsupported prepared => exact prepared.asked asks
  | refused prepared answered | unread prepared answered | plain prepared answered =>
    exact (prepared.asked asks).trans (asks.answer answered)
  | followed prepared answered =>
    exact ((prepared.asked asks).trans (asks.answer answered)).trans
      (registered.hookRecords_asked asks.hooks _ _ _ _)

/-- The hooks and adapters of all models do nothing to the store at a place but ask it. -/
def OnlyAsks (registry : Registry σ) (place : Store.Place σ) : Prop :=
  ∀ identity registered, registry.model? identity = some registered → registered.OnlyAsks place

/-- An operation that is no stream does nothing to a store but ask it. -/
theorem execute_asked (asks : registry.OnlyAsks place) {query : Description σ}
    (notStream : query.method ≠ .stream) (now : Instant) (run : Run σ) :
    place.Asked run.environment (result (registry.execute now query) run).2.environment := by
  cases compilation : query.compile registry now with
  | error reason =>
    obtain ⟨outcome, untouched, -, -⟩ := execute_of_compile_error compilation run
    rw [untouched]
    exact .refl run.environment
  | ok compiled =>
    obtain ⟨registered, found, -⟩ := Description.compile_eq_ok.mp compilation
    rw [execute_of_compile found compilation, if_neg notStream]
    obtain ⟨_, -, course⟩ := perform_course (rfl : result (registry.perform registered compiled) run = _)
    exact course.asked (asks _ _ found)

/-- The run after operations, each at its point in time. -/
def after (registry : Registry σ) (run : Run σ) (operations : List (Instant × Description σ)) : Run σ :=
  operations.foldl (fun run operation => (result (registry.execute operation.1 operation.2) run).2) run

theorem after_asked (asks : registry.OnlyAsks place) {operations : List (Instant × Description σ)}
    (notStream : ∀ operation ∈ operations, operation.2.method ≠ .stream) (run : Run σ) :
    place.Asked run.environment (registry.after run operations).environment := by
  induction operations generalizing run with
  | nil => exact .refl run.environment
  | cons first rest ih =>
    obtain ⟨here, later⟩ := List.forall_mem_cons.mp notStream
    exact (execute_asked asks here first.1 run).trans (ih later _)

end Registry

end RecordMapper
