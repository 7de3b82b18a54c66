import RecordMapper.Execution.Operation
import RecordMapper.Proofs.Execution.Run

/-! # Events stay

Nothing that has happened in a run is taken back: whatever an operation does, it only adds events.
`Adds` says which ones it may add, part by part. Putting a query to an adapter adds one, unless the
adapter does not implement its method.
-/

namespace RecordMapper

namespace Attempt

variable {ε σ α β : Type} {allowed : Event → Prop}

/-- The attempt adds events to a run, and only such as are allowed. -/
def Adds (allowed : Event → Prop) (attempt : Attempt ε σ α) : Prop :=
  ∀ run, ∃ events, (result attempt run).2.events = run.events ++ events ∧ ∀ event ∈ events, allowed event

/-- The attempt only adds to the events of a run. -/
def Extends (attempt : Attempt ε σ α) : Prop :=
  ∀ run, run.events <+: (result attempt run).2.events

theorem Adds.extends {attempt : Attempt ε σ α} (adds : Adds allowed attempt) : Extends attempt := by
  intro run
  obtain ⟨events, added, -⟩ := adds run
  exact ⟨events, added.symm⟩

theorem adds_pure (value : α) : Adds allowed (pure value : Attempt ε σ α) :=
  fun _ => ⟨[], (List.append_nil _).symm, by simp⟩

theorem adds_throw (error : ε) : Adds allowed (throw error : Attempt ε σ α) :=
  fun _ => ⟨[], (List.append_nil _).symm, by simp⟩

theorem adds_ofExcept (outcome : Except ε α) : Adds allowed (Run.ofExcept outcome : Attempt ε σ α) :=
  fun _ => ⟨[], (List.append_nil _).symm, by simp⟩

theorem adds_note {event : Event} (isAllowed : allowed event) :
    Adds allowed (Run.note event : Attempt ε σ Unit) :=
  fun _ => ⟨[event], rfl, by simpa using isAllowed⟩

theorem adds_call {event : Event} (isAllowed : allowed event) (function : σ → α × σ) :
    Adds allowed (Run.call event function : Attempt ε σ α) :=
  fun _ => ⟨[event], rfl, by simpa using isAllowed⟩

theorem Adds.bind {attempt : Attempt ε σ α} {next : α → Attempt ε σ β} (first : Adds allowed attempt)
    (rest : ∀ value, Adds allowed (next value)) : Adds allowed (attempt >>= next) := by
  intro run
  obtain ⟨events, added, areAllowed⟩ := first run
  rw [result_bind]
  generalize result attempt run = reached at added
  obtain ⟨outcome, between⟩ := reached
  cases outcome with
  | error error => exact ⟨events, added, areAllowed⟩
  | ok value =>
    obtain ⟨later, addedLater, laterAllowed⟩ := rest value between
    refine ⟨events ++ later, ?_, List.forall_mem_append.mpr ⟨areAllowed, laterAllowed⟩⟩
    rw [← List.append_assoc, ← added]
    exact addedLater

theorem Adds.mapM {step : α → Attempt ε σ β} (each : ∀ item, Adds allowed (step item))
    (items : List α) :
    Adds allowed (items.mapM step) := by
  induction items with
  | nil => exact adds_pure []
  | cons item rest ih =>
    rw [List.mapM_cons]
    exact (each item).bind fun value => ih.bind fun values => adds_pure (value :: values)

theorem extends_pure (value : α) : Extends (pure value : Attempt ε σ α) :=
  fun _ => List.prefix_refl _

theorem extends_ofExcept (outcome : Except ε α) : Extends (Run.ofExcept outcome : Attempt ε σ α) :=
  fun _ => List.prefix_refl _

theorem Extends.bind {attempt : Attempt ε σ α} {next : α → Attempt ε σ β} (first : Extends attempt)
    (rest : ∀ value, Extends (next value)) : Extends (attempt >>= next) := by
  have adds {γ : Type} {attempt : Attempt ε σ γ} (stays : Extends attempt) : Adds (fun _ => True) attempt := by
    intro run
    obtain ⟨events, added⟩ := stays run
    exact ⟨events, added.symm, fun _ _ => trivial⟩
  exact ((adds first).bind fun value => adds (rest value)).extends

/-- On a run, the attempt puts a query to an adapter, unless the adapter does not implement its
method. -/
def Asks (attempt : Execution σ α) (run : Run σ) : Prop :=
  (∃ model method, result attempt run = (.error (.unsupported model method), run)) ∨
    run.events.length < (result attempt run).2.events.length

theorem Asks.bind {attempt : Execution σ α} {next : α → Execution σ β} {run : Run σ}
    (asks : Asks attempt run) (rest : ∀ value, Extends (next value)) :
    Asks (attempt >>= next) run := by
  rcases asks with ⟨model, method, failed⟩ | longer
  · exact .inl ⟨model, method, result_bind_of_error failed⟩
  · right
    rw [result_bind]
    generalize result attempt run = reached at longer
    obtain ⟨outcome, between⟩ := reached
    cases outcome with
    | error error => exact longer
    | ok value => exact Nat.lt_of_lt_of_le longer (rest value between).length_le

/-- An attempt that asks an adapter does not fail with a transform error before that. -/
theorem Asks.not_transform {attempt : Execution σ α} {run after : Run σ} (asks : Asks attempt run)
    {model : String} {cause : TransformError}
    (failed : result attempt run = (.error (.transform model cause), after)) :
    after.events ≠ run.events := by
  rcases asks with ⟨_, _, unsupported⟩ | longer
  · rw [unsupported] at failed
    cases failed
  · rw [failed] at longer
    intro same
    rw [same] at longer
    exact Nat.lt_irrefl _ longer

end Attempt

open Attempt

variable {σ : Type}

namespace RegisteredModel

variable {allowed : Event → Prop}

theorem adds_attributeNames (warned : ∀ warning, allowed (.warned warning)) (registered : RegisteredModel σ)
    (columns : List String) : Adds allowed (registered.attributeNames columns) := by
  apply Adds.mapM
  intro column
  cases registered.columns.attribute? column with
  | some name => exact adds_pure name
  | none => exact (adds_note (warned _)).bind fun _ => adds_pure column

theorem adds_charge (warned : ∀ warning, allowed (.warned warning)) (registered : RegisteredModel σ)
    (origin method : Method) (error : AdapterError) : Adds allowed (registered.charge origin method error) := by
  unfold charge
  split
  · exact adds_pure _
  · split
    · split
      · exact (adds_attributeNames warned registered _).bind fun names => adds_pure _
      · exact adds_pure _
    · exact adds_pure _

theorem adds_ask {registered : RegisteredModel σ} {query : PhysicalQuery}
    (asked : allowed (.queried registered.adapter.identity registered.datastore query)) :
    Adds allowed (registered.ask query) := by
  intro run
  unfold ask
  rw [result_modifyGet]
  split
  · exact ⟨[], (List.append_nil _).symm, by simp⟩
  · split
    · exact ⟨[], (List.append_nil _).symm, by simp⟩
    · exact ⟨_, rfl, by simpa using asked⟩

/-- A dispatch asks the adapter once, and then it only adds warnings. -/
theorem dispatch_eq_ask (registered : RegisteredModel σ) (origin : Method) (query : PhysicalQuery) :
    ∃ next : Option AdapterReply → Execution σ Outcome,
      registered.dispatch origin query = registered.ask query >>= next ∧
      next none = throw (.unsupported registered.identity query.method) ∧
        ∀ answer {allowed}, (∀ warning, allowed (.warned warning)) → Adds allowed (next answer) := by
  refine ⟨_, rfl, rfl, fun answer allowed warned => ?_⟩
  split
  · exact adds_throw _
  · exact (adds_charge warned registered _ _ _).bind fun error => adds_throw error
  · dsimp only
    split
    · split
      · exact (adds_note (warned _)).bind fun _ => adds_pure _
      · exact (adds_note (warned _)).bind fun _ => adds_throw _
    · split
      · exact adds_pure _
      · exact adds_throw _

theorem adds_dispatch (warned : ∀ warning, allowed (.warned warning)) {registered : RegisteredModel σ}
    {query : PhysicalQuery}
    (asked : allowed (.queried registered.adapter.identity registered.datastore query)) (origin : Method) :
    Adds allowed (registered.dispatch origin query) := by
  obtain ⟨next, same, -, rest⟩ := registered.dispatch_eq_ask origin query
  rw [same]
  exact (adds_ask asked).bind fun answer => rest answer warned

theorem asks_dispatch (registered : RegisteredModel σ) (origin : Method) (query : PhysicalQuery)
    (run : Run σ) :
    Asks (registered.dispatch origin query) run := by
  obtain ⟨next, same, unsupported, rest⟩ := registered.dispatch_eq_ask origin query
  rw [same]
  have asked : (result (registered.ask query) run = (.ok none, run)) ∨
      ∃ answer between, result (registered.ask query) run = (.ok answer, between) ∧
        run.events.length < between.events.length := by
    unfold ask
    rw [result_modifyGet]
    split
    · exact .inl rfl
    · split
      · exact .inl rfl
      · exact .inr ⟨_, _, rfl, by simp⟩
  rcases asked with none | ⟨answer, between, some, longer⟩
  · left
    rw [result_bind_of_ok none, unsupported]
    exact ⟨_, _, rfl⟩
  · right
    rw [result_bind_of_ok some]
    exact Nat.lt_of_lt_of_le longer ((@rest answer (fun _ => True) fun _ => trivial).extends between).length_le

theorem adds_callHook {α : Type} (hooked : ∀ model name payload, allowed (.hooked model name payload))
    (registered : RegisteredModel σ) (name : HookName) (note : HookPayload) (hook : Hook σ α) (payload : α) :
    Adds allowed (registered.callHook name note hook payload) := by
  unfold callHook
  refine (adds_call (hooked _ _ _) _).bind fun answer => ?_
  split
  · exact adds_pure _
  · exact adds_throw _

theorem adds_callRecordHook (hooked : ∀ model name payload, allowed (.hooked model name payload))
    (registered : RegisteredModel σ) (options : Meta) (name : HookName) (record : Record) :
    Adds allowed (registered.callRecordHook options name record) := by
  unfold callRecordHook
  split
  · split
    · exact adds_pure record
    · exact adds_callHook hooked registered _ _ _ _
  · exact adds_pure record

theorem adds_callBefore (hooked : ∀ model name payload, allowed (.hooked model name payload))
    (registered : RegisteredModel σ) (query : LogicalQuery σ) :
    Adds allowed (registered.callBefore query) := by
  have records (name : HookName) (records : List Record) :
      Adds allowed (records.mapM (registered.callRecordHook query.options name)) :=
    Adds.mapM (adds_callRecordHook hooked registered query.options name) records
  have criteria : Adds allowed (registered.callCriteriaHook query.options query.criteria) := by
    unfold callCriteriaHook
    split
    · split
      · exact adds_pure _
      · exact adds_callHook hooked registered _ _ _ _
    · exact adds_pure _
  unfold callBefore
  split
  · exact (records _ _).bind fun made => adds_pure _
  · exact (records _ _).bind fun made => adds_pure _
  · split
    · exact (adds_callRecordHook hooked registered _ _ _).bind fun made => adds_pure _
    · exact adds_pure _
  · exact criteria.bind fun made => adds_pure _
  · exact adds_pure _

theorem adds_callAfter (hooked : ∀ model name payload, allowed (.hooked model name payload))
    (registered : RegisteredModel σ) (method : Method) (options : Meta) (records : List Record) :
    Adds allowed (registered.callAfter method options records) := by
  unfold callAfter
  split
  · exact Adds.mapM (adds_callRecordHook hooked registered options _) records
  · exact adds_pure records

theorem extends_callAfter (registered : RegisteredModel σ) (method : Method) (options : Meta)
    (records : List Record) : Extends (registered.callAfter method options records) :=
  have adds : Adds (fun _ => True) (registered.callAfter method options records) :=
    adds_callAfter (fun _ _ _ => trivial) registered method options records
  adds.extends

end RegisteredModel

namespace Iteratee

variable {allowed : Event → Prop}

theorem adds_call {α : Type} (delivered : ∀ delivery, allowed (.delivered delivery)) (delivery : Delivery)
    (continuation : Continuation σ α) (read : α) : Adds allowed (call delivery continuation read) := by
  unfold call
  refine (Attempt.adds_call (delivered _) _).bind fun answer => ?_
  split
  · exact adds_pure _
  · exact adds_throw _

theorem adds_deliverEach (delivered : ∀ delivery, allowed (.delivered delivery))
    (continuation : Continuation σ Record) (records : List Record) :
    Adds allowed (deliverEach continuation records) := by
  induction records with
  | nil => exact adds_pure _
  | cons record rest ih =>
    unfold deliverEach
    refine (adds_call delivered _ _ _).bind fun flow => ?_
    cases flow with
    | stop => exact adds_pure _
    | proceed => exact ih

theorem adds_deliver (delivered : ∀ delivery, allowed (.delivered delivery)) (iteratee : Iteratee σ)
    (records : List Record) : Adds allowed (iteratee.deliver records) := by
  cases iteratee with
  | eachRecord continuation => exact adds_deliverEach delivered continuation records
  | eachBatch continuation => exact adds_call delivered _ _ _

theorem extends_deliver (iteratee : Iteratee σ) (records : List Record) :
    Extends (iteratee.deliver records) :=
  have adds : Adds (fun _ => True) (iteratee.deliver records) :=
    adds_deliver (fun _ => trivial) iteratee records
  adds.extends

end Iteratee

namespace Registry

variable {allowed : Event → Prop} {registry : Registry σ} {registered : RegisteredModel σ}

/-- A fetch adds the query that it lowers to, and warnings. -/
theorem adds_fetch (warned : ∀ warning, allowed (.warned warning)) {query : LogicalQuery σ}
    (asked : ∀ physical, query.lower registered registry = .ok physical →
      allowed (.queried registered.adapter.identity registered.datastore physical)) (origin : Method) :
    Adds allowed (registry.fetch registered origin query) := by
  cases lowered : query.lower registered registry with
  | error cause =>
    intro run
    refine ⟨[], ?_, by simp⟩
    unfold fetch lower
    rw [lowered]
    exact (List.append_nil _).symm
  | ok physical =>
    unfold fetch lower
    rw [lowered]
    change Adds allowed (registered.dispatch origin physical >>= _)
    refine (RegisteredModel.adds_dispatch warned (asked physical lowered) origin).bind fun outcome => ?_
    split
    · exact (adds_ofExcept _).bind fun records => adds_pure _
    · exact adds_pure _

theorem adds_streamFrom (warned : ∀ warning, allowed (.warned warning))
    (delivered : ∀ delivery, allowed (.delivered delivery)) {query : LogicalQuery σ}
    (asked : ∀ skip limit physical, (batchQuery query skip limit).lower registered registry = .ok physical →
      allowed (.queried registered.adapter.identity registered.datastore physical))
    (iteratee : Iteratee σ) (batches skip : Nat) (remaining : Option Nat) :
    Adds allowed (registry.streamFrom registered query iteratee batches skip remaining) := by
  induction batches generalizing skip remaining with
  | zero => exact adds_pure ()
  | succ batches ih =>
    unfold streamFrom
    dsimp only
    split
    · exact adds_pure ()
    · refine ((adds_fetch warned (asked _ _) _).bind fun outcome => adds_pure _).bind fun records => ?_
      split
      · exact adds_pure ()
      · refine (iteratee.adds_deliver delivered records).bind fun flow => ?_
        cases flow with
        | stop => exact adds_pure ()
        | proceed => exact ih _ _

theorem extends_streamFrom (registry : Registry σ) (registered : RegisteredModel σ) (query : LogicalQuery σ)
    (iteratee : Iteratee σ) (batches skip : Nat) (remaining : Option Nat) :
    Extends (registry.streamFrom registered query iteratee batches skip remaining) :=
  have adds : Adds (fun _ => True) (registry.streamFrom registered query iteratee batches skip remaining) :=
    adds_streamFrom (fun _ => trivial) (fun _ => trivial) (fun _ _ _ _ => trivial) iteratee batches skip
      remaining
  adds.extends

end Registry

end RecordMapper
