import RecordMapper.Execution.Streaming
import RecordMapper.Proofs.Execution.Run

/-! # One query put to an adapter

A query that is lowered is put to the adapter once, and what becomes of it is settled by the reply. A
method that the adapter does not implement is an error and no call. An error of the adapter is charged
to the operation, and told in terms of its model (`RegisteredModel.Tells`). Every other reply is read:
`Registry.reading` is the outcome that it stands for, or what is wrong with it.
-/

namespace RecordMapper

open Attempt

variable {σ : Type}

/-- Whether something outside was called; a warning is only noted. -/
def Event.isCall : Event → Bool
  | .warned _ => false
  | _ => true

namespace Run

/-- The calls of a run, oldest first. -/
def calls (run : Run σ) : List Event :=
  run.events.filter Event.isCall

/-- The run after something that left an environment behind and added events. -/
def advance (run : Run σ) (environment : σ) (events : List Event) : Run σ :=
  { environment, events := run.events ++ events }

@[simp] theorem environment_advance (run : Run σ) (environment : σ) (events : List Event) :
    (run.advance environment events).environment = environment := rfl

@[simp] theorem advance_self (run : Run σ) : run.advance run.environment [] = run := by
  rw [advance, List.append_nil]

@[simp] theorem advance_advance (run : Run σ) (first second : σ) (events others : List Event) :
    (run.advance first events).advance second others = run.advance second (events ++ others) := by
  simp only [advance, List.append_assoc]

theorem calls_advance (run : Run σ) (environment : σ) (events : List Event) :
    (run.advance environment events).calls = run.calls ++ events.filter Event.isCall :=
  List.filter_append ..

end Run

/-- Warnings are no calls. -/
theorem Event.filter_warned (warnings : List Warning) :
    (warnings.map Event.warned).filter Event.isCall = [] := by
  simp [Event.isCall]

/-- Steps that always succeed and leave the environment as it is, one after the other. -/
theorem Attempt.result_mapM_of_noting {ε α β : Type} {step : α → Attempt ε σ β} {value : α → β}
    {events : α → List Event}
    (each : ∀ item run, result (step item) run =
      (.ok (value item), run.advance run.environment (events item)))
    (items : List α) (run : Run σ) :
    result (items.mapM step) run =
      (.ok (items.map value), run.advance run.environment (items.flatMap events)) := by
  induction items generalizing run with
  | nil => simp
  | cons item rest ih =>
    rw [List.mapM_cons, result_bind_of_ok (each item run), result_bind_of_ok (ih _), result_pure]
    simp

namespace Footprint

/-- A footprint that blames columns of a table for not being unique: a record of that identity that lists them, or
that lists nothing. -/
def Blames (footprint : Json) (columns : List String) : Prop :=
  ∃ entries, footprint = .record entries ∧ Dictionary.get? entries "identity" = some (.text notUnique) ∧
    (Dictionary.get? entries "keys" = none ∧ columns = [] ∨
      Dictionary.get? entries "keys" = some (.list (columns.map .text)))

theorem mapM_text?_eq_some_iff {items : List Json} {texts : List String} :
    items.mapM Json.text? = some texts ↔ items = texts.map .text := by
  induction items generalizing texts with
  | nil => cases texts <;> simp
  | cons item rest ih =>
    simp only [List.mapM_cons, bind, Option.bind_eq_some_iff, ih, pure, Option.some.injEq]
    constructor
    · rintro ⟨text, isText, later, rfl, rfl⟩
      cases item <;> cases isText
      rfl
    · intro same
      cases texts with
      | nil => cases same
      | cons text later =>
        obtain ⟨rfl, rfl⟩ := List.cons.inj same
        exact ⟨text, rfl, later, rfl, rfl⟩

/-- The footprints that blame columns are those that are recognized as such. -/
theorem ofJson?_eq_some_iff {footprint : Json} {columns : List String} :
    ofJson? footprint = some ⟨notUnique, columns⟩ ↔ Blames footprint columns := by
  cases footprint with
  | record entries =>
    simp only [ofJson?, Json.field?, Blames, Json.record.injEq, exists_eq_left', bind, Option.bind_eq_some_iff]
    constructor
    · rintro ⟨value, isIdentity, identity, isText, read⟩
      cases value <;> cases isText
      split at read
      · next absent =>
        obtain ⟨rfl, rfl⟩ : identity = notUnique ∧ [] = columns := by simpa using read
        exact ⟨isIdentity, .inl ⟨absent, rfl⟩⟩
      · next items listed =>
        obtain ⟨texts, areTexts, read⟩ := Option.bind_eq_some_iff.mp read
        obtain ⟨rfl, rfl⟩ : identity = notUnique ∧ texts = columns := by simpa using read
        exact ⟨isIdentity, .inr (mapM_text?_eq_some_iff.mp areTexts ▸ listed)⟩
      · cases read
    · rintro ⟨isIdentity, ⟨absent, rfl⟩ | listed⟩
      · exact ⟨_, isIdentity, notUnique, rfl, by rw [absent]; rfl⟩
      · refine ⟨_, isIdentity, notUnique, rfl, ?_⟩
        simp only [listed]
        rw [mapM_text?_eq_some_iff.mpr rfl]
        rfl
  | _ => simp [ofJson?, Json.field?, Blames]

end Footprint

/-- The code of the error that an operation reports for an error of its adapter. -/
def AdapterError.reportedCode : AdapterError → String
  | .malformed _ => "E_ADAPTER_CONTRACT"
  | .failure _ footprint =>
    if (footprint.bind Footprint.ofJson?).any Footprint.isNotUnique then "E_UNIQUE" else "E_ADAPTER"

namespace RegisteredModel

variable (registered : RegisteredModel σ)

/-- The event of a query that is put to the adapter of a model. -/
def asked (query : PhysicalQuery) : Event :=
  .queried registered.adapter.identity registered.datastore query

/-- What the adapter of a model answers to a query, and the environment that it leaves behind. No
adapter implements streams. -/
def answer? (query : PhysicalQuery) (environment : σ) : Option (AdapterReply × σ) :=
  if query.method = .stream then none
  else registered.adapter.answer? registered.datastore query environment

/-- The warning about what nobody asked for. -/
def unrequested (query : PhysicalQuery) (payload : Option Json) : List Warning :=
  if query.method.isMutation && !query.options.fetch && Outcome.isUnrequested payload then
    [.unrequestedRows registered.identity registered.adapter.identity query.method]
  else []

/-- The warning about a column that no attribute has. -/
def unclaimed (column : String) : List Warning :=
  match registered.columns.attribute? column with
  | some _ => []
  | none => [.unclaimedColumn registered.identity column]

/-- What an operation that `origin` started tells of an error of the adapter of its model. -/
inductive Tells (registered : RegisteredModel σ) (origin method : Method) : AdapterError → QueryError → Prop where
  /-- What is no error breaks the contract of adapters. -/
  | malformed (value : Json) : Tells registered origin method (.malformed value)
      (.contract registered.identity registered.datastore method (.notError value))
  /-- Columns that would not be unique are told by the names of their attributes. -/
  | notUnique {message : String} {footprint : Json} {columns : List String}
      (blames : Footprint.Blames footprint columns) :
      Tells registered origin method (.failure message (some footprint))
        (.notUnique registered.identity (columns.map registered.columns.nameOf) message
          (Footprint.toJson ⟨Footprint.notUnique, columns.map registered.columns.nameOf⟩) origin)
  /-- Every other failure is told as it is. -/
  | failure {message : String} {footprint : Option Json}
      (blameless : ∀ blaming ∈ footprint, ∀ columns, ¬Footprint.Blames blaming columns) :
      Tells registered origin method (.failure message footprint)
        (.adapter registered.identity registered.datastore message footprint)

variable {registered} {query : PhysicalQuery} {run : Run σ}

theorem Tells.code_eq {origin method : Method} {error : AdapterError} {charged : QueryError}
    (tells : registered.Tells origin method error charged) : charged.code = error.reportedCode := by
  cases tells with
  | malformed value => rfl
  | notUnique blames =>
    simp only [AdapterError.reportedCode, Option.bind_some, Footprint.ofJson?_eq_some_iff.mpr blames]
    rfl
  | @failure message footprint blameless =>
    have unrecognized : (footprint.bind Footprint.ofJson?).any Footprint.isNotUnique = false := by
      refine Bool.eq_false_iff.mpr fun recognized => ?_
      obtain ⟨⟨identity, columns⟩, isParsed, unique⟩ := (Option.any_eq_true ..).mp recognized
      obtain ⟨blaming, isFootprint, parses⟩ := Option.bind_eq_some_iff.mp isParsed
      obtain rfl : identity = Footprint.notUnique := beq_iff_eq.mp unique
      exact blameless blaming isFootprint columns (Footprint.ofJson?_eq_some_iff.mp parses)
    simp only [AdapterError.reportedCode, unrecognized]
    rfl

theorem ask_of_none (unanswered : registered.answer? query run.environment = none) :
    result (registered.ask query) run = (.ok none, run) := by
  unfold answer? at unanswered
  unfold ask
  rw [result_modifyGet]
  by_cases stream : query.method = .stream
  · rw [if_pos stream]
  · rw [if_neg stream] at unanswered ⊢
    rw [unanswered]

theorem ask_of_some {reply : AdapterReply} {environment : σ}
    (answered : registered.answer? query run.environment = some (reply, environment)) :
    result (registered.ask query) run =
      (.ok (some reply), run.advance environment [registered.asked query]) := by
  unfold answer? at answered
  unfold ask
  rw [result_modifyGet]
  by_cases stream : query.method = .stream
  · rw [if_pos stream] at answered
    cases answered
  · rw [if_neg stream] at answered ⊢
    rw [answered]
    rfl

/-- Columns become attributes, with a warning for each that no attribute has. -/
theorem result_attributeNames (registered : RegisteredModel σ) (columns : List String) (run : Run σ) :
    result (registered.attributeNames columns) run =
      (.ok (columns.map registered.columns.nameOf),
        run.advance run.environment ((columns.flatMap registered.unclaimed).map Event.warned)) := by
  rw [List.map_flatMap]
  refine Attempt.result_mapM_of_noting (fun column run => ?_) columns run
  unfold unclaimed Columns.nameOf
  cases registered.columns.attribute? column with
  | some name => simp
  | none => rfl

/-- An error is charged without a call. -/
theorem charge_tells (registered : RegisteredModel σ) (origin method : Method) (error : AdapterError) (run : Run σ) :
    ∃ (charged : QueryError) (warnings : List Warning),
      result (registered.charge origin method error) run =
        (.ok charged, run.advance run.environment (warnings.map Event.warned)) ∧
      registered.Tells origin method error charged := by
  have quiet (charged : QueryError) :
      result (pure charged : Execution σ QueryError) run =
        (.ok charged, run.advance run.environment (([] : List Warning).map Event.warned)) := by
    rw [List.map_nil, Run.advance_self, result_pure]
  cases error with
  | malformed value => exact ⟨_, [], quiet _, .malformed value⟩
  | failure message footprint =>
    unfold charge
    dsimp only
    cases recognized : footprint.bind Footprint.ofJson? with
    | none =>
      refine ⟨_, [], quiet _, .failure fun blaming isFootprint columns blames => ?_⟩
      rw [Option.mem_def.mp isFootprint, Option.bind_some, Footprint.ofJson?_eq_some_iff.mpr blames] at recognized
      cases recognized
    | some parsed =>
      dsimp only
      cases unique : parsed.isNotUnique with
      | false =>
        refine ⟨_, [], quiet _, .failure fun blaming isFootprint columns blames => ?_⟩
        rw [Option.mem_def.mp isFootprint, Option.bind_some, Footprint.ofJson?_eq_some_iff.mpr blames] at recognized
        obtain rfl := Option.some.inj recognized
        cases unique
      | true =>
        obtain ⟨blaming, rfl, parses⟩ := Option.bind_eq_some_iff.mp recognized
        obtain ⟨identity, columns⟩ := parsed
        obtain rfl : identity = Footprint.notUnique := beq_iff_eq.mp unique
        exact ⟨_, _, result_bind_of_ok (registered.result_attributeNames columns run),
          .notUnique (Footprint.ofJson?_eq_some_iff.mp parses)⟩

/-- A method that the adapter does not implement. -/
theorem dispatch_of_none (unanswered : registered.answer? query run.environment = none)
    (origin : Method) :
    result (registered.dispatch origin query) run =
      (.error (.unsupported registered.identity query.method), run) :=
  result_bind_of_ok (ask_of_none unanswered)

/-- An error of the adapter. -/
theorem dispatch_tells {error : AdapterError} {environment : σ}
    (answered : registered.answer? query run.environment = some (.error error, environment))
    (origin : Method) :
    ∃ (charged : QueryError) (warnings : List Warning),
      result (registered.dispatch origin query) run =
        (.error charged, run.advance environment (registered.asked query :: warnings.map Event.warned)) ∧
      registered.Tells origin query.method error charged := by
  obtain ⟨charged, warnings, charging, tells⟩ := registered.charge_tells origin query.method error
    (run.advance environment [registered.asked query])
  refine ⟨charged, warnings, ?_, tells⟩
  unfold dispatch
  rw [result_bind_of_ok (ask_of_some answered)]
  dsimp only
  rw [result_bind_of_ok charging, result_throw, Run.advance_advance]
  rfl

theorem dispatch_of_error {error : AdapterError} {environment : σ}
    (answered : registered.answer? query run.environment = some (.error error, environment))
    (origin : Method) :
    ∃ (charged : QueryError) (warnings : List Warning),
      result (registered.dispatch origin query) run =
        (.error charged, run.advance environment (registered.asked query :: warnings.map Event.warned)) ∧
      charged.code = error.reportedCode := by
  obtain ⟨charged, warnings, dispatched, tells⟩ := dispatch_tells answered origin
  exact ⟨charged, warnings, dispatched, tells.code_eq⟩

/-- A reply that is no error is read, with a warning if it holds what nobody asked for. -/
theorem dispatch_of_ok {payload : Option Json} {environment : σ}
    (answered : registered.answer? query run.environment = some (.ok payload, environment))
    (origin : Method) :
    result (registered.dispatch origin query) run =
      ((Outcome.ofReply query.method query.options payload).mapError
          (.contract registered.identity registered.datastore query.method),
        run.advance environment
          (registered.asked query :: (registered.unrequested query payload).map Event.warned)) := by
  unfold dispatch unrequested
  rw [result_bind_of_ok (ask_of_some answered)]
  by_cases odd : (query.method.isMutation && !query.options.fetch && Outcome.isUnrequested payload) = true
  · simp only [odd, if_true]
    rw [result_bind_of_ok (result_note ..)]
    cases Outcome.ofReply query.method query.options payload <;> simp [Except.mapError, Run.advance]
  · simp only [odd]
    cases Outcome.ofReply query.method query.options payload <;> simp [Except.mapError]

end RegisteredModel

namespace Registry

variable (registry : Registry σ) (registered : RegisteredModel σ)

/-- What a reply to a query comes to: the outcome that it stands for, its rows taken to records. -/
def reading (query : PhysicalQuery) (payload : Option Json) : Except QueryError Outcome :=
  match Outcome.ofReply query.method query.options payload with
  | .error breach => .error (.contract registered.identity registered.datastore query.method breach)
  | .ok (.records rows) => (registry.materialize registered query.joins query.options rows).map .records
  | .ok outcome => .ok outcome

variable {registry registered} {query : LogicalQuery σ} {physical : PhysicalQuery} {run : Run σ}

/-- A query that cannot be lowered is not put to the adapter. -/
theorem fetch_of_lower_error {cause : TransformError}
    (failed : query.lower registered registry = .error cause) (origin : Method) (run : Run σ) :
    result (registry.fetch registered origin query) run =
      (.error (.transform registered.identity cause), run) := by
  unfold fetch lower
  rw [failed]
  rfl

theorem fetch_of_lower (lowered : query.lower registered registry = .ok physical)
    (origin : Method) (run : Run σ) :
    result (registry.fetch registered origin query) run =
      match result (registered.dispatch origin physical) run with
      | (.ok (.records rows), after) =>
        ((registry.materialize registered physical.joins query.options rows).map .records, after)
      | (outcome, after) => (outcome, after) := by
  have isLowered : result (Run.ofExcept (registry.lower registered query)) run = (.ok physical, run) := by
    rw [lower, lowered]
    rfl
  unfold fetch
  rw [result_bind_of_ok isLowered, result_bind]
  rcases result (registered.dispatch origin physical) run with ⟨error | outcome, after⟩
  · rfl
  · cases outcome with
    | nothing | count | number => rfl
    | records rows =>
      dsimp only
      cases registry.materialize registered physical.joins query.options rows <;> rfl

/-- A method that the adapter does not implement. -/
theorem fetch_of_none (lowered : query.lower registered registry = .ok physical)
    (unanswered : registered.answer? physical run.environment = none) (origin : Method) :
    result (registry.fetch registered origin query) run =
      (.error (.unsupported registered.identity physical.method), run) := by
  rw [fetch_of_lower lowered, RegisteredModel.dispatch_of_none unanswered]

/-- An error of the adapter. -/
theorem fetch_tells (lowered : query.lower registered registry = .ok physical)
    {error : AdapterError} {environment : σ}
    (answered : registered.answer? physical run.environment = some (.error error, environment))
    (origin : Method) :
    ∃ (charged : QueryError) (warnings : List Warning),
      result (registry.fetch registered origin query) run =
        (.error charged, run.advance environment (registered.asked physical :: warnings.map Event.warned)) ∧
      registered.Tells origin physical.method error charged := by
  obtain ⟨charged, warnings, dispatched, tells⟩ := RegisteredModel.dispatch_tells answered origin
  exact ⟨charged, warnings, by rw [fetch_of_lower lowered, dispatched], tells⟩

theorem fetch_of_error (lowered : query.lower registered registry = .ok physical)
    {error : AdapterError} {environment : σ}
    (answered : registered.answer? physical run.environment = some (.error error, environment))
    (origin : Method) :
    ∃ (charged : QueryError) (warnings : List Warning),
      result (registry.fetch registered origin query) run =
        (.error charged, run.advance environment (registered.asked physical :: warnings.map Event.warned)) ∧
      charged.code = error.reportedCode := by
  obtain ⟨charged, warnings, fetched, tells⟩ := fetch_tells lowered answered origin
  exact ⟨charged, warnings, fetched, tells.code_eq⟩

/-- A reply that is no error is read. -/
theorem fetch_of_ok (lowered : query.lower registered registry = .ok physical)
    (options : physical.options = query.options) {payload : Option Json} {environment : σ}
    (answered : registered.answer? physical run.environment = some (.ok payload, environment))
    (origin : Method) :
    result (registry.fetch registered origin query) run =
      (registry.reading registered physical payload, run.advance environment
        (registered.asked physical :: (registered.unrequested physical payload).map Event.warned)) := by
  rw [fetch_of_lower lowered, RegisteredModel.dispatch_of_ok answered, reading, options]
  rcases Outcome.ofReply physical.method query.options payload with breach | outcome
  · rfl
  · cases outcome <;> rfl

end Registry

end RecordMapper
