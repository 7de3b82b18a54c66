import RecordMapper.Execution.Outcome
import RecordMapper.Execution.Run
import RecordMapper.Registry.Basic

/-! # Putting queries to adapters

`RegisteredModel.dispatch` puts one physical query to the adapter of a model and checks what it answers.
An error of the adapter is told in terms of the model: a violated uniqueness names attributes, and it
is charged to the operation that the caller started.
-/

namespace RecordMapper

namespace RegisteredModel

variable {σ : Type}

/-- The attributes of columns. A column without an attribute keeps its name, with a warning. -/
def attributeNames (registered : RegisteredModel σ) (columns : List String) : Execution σ (List String) :=
  columns.mapM fun column =>
    match registered.columns.attribute? column with
    | some name => return name
    | none => do
      Run.note (.warned (.unclaimedColumn registered.identity column))
      return column

/-- An error of the adapter, charged to the operation that `origin` started. -/
def charge (registered : RegisteredModel σ) (origin method : Method) :
    AdapterError → Execution σ QueryError
  | .malformed value =>
    return .contract registered.identity registered.datastore method (.notError value)
  | .failure message footprint =>
    match footprint.bind Footprint.ofJson? with
    | some parsed =>
      if parsed.isNotUnique then do
        let names ← registered.attributeNames parsed.keys
        let footprint := Footprint.toJson ⟨parsed.identity, names⟩
        return .notUnique registered.identity names message footprint origin
      else return .adapter registered.identity registered.datastore message footprint
    | none => return .adapter registered.identity registered.datastore message footprint

/-- What the adapter of a model answers to a query, if it implements the method. A stream is not put to
an adapter as such. -/
def ask (registered : RegisteredModel σ) (query : PhysicalQuery) : Execution σ (Option AdapterReply) :=
  modifyGet fun run =>
    if query.method = .stream then (none, run)
    else
      match registered.adapter.answer? registered.datastore query run.environment with
      | none => (none, run)
      | some (reply, environment) =>
        let event := Event.queried registered.adapter.identity registered.datastore query
        (some reply, { environment, events := run.events ++ [event] })

/-- Put a query to the adapter of a model, and check its answer. -/
def dispatch (registered : RegisteredModel σ) (origin : Method) (query : PhysicalQuery) :
    Execution σ Outcome := do
  match ← registered.ask query with
  | none => throw (.unsupported registered.identity query.method)
  | some (.error error) => throw (← registered.charge origin query.method error)
  | some (.ok reply) =>
    if query.method.isMutation && !query.options.fetch && Outcome.isUnrequested reply then
      Run.note (.warned (.unrequestedRows registered.identity registered.adapter.identity query.method))
    match Outcome.ofReply query.method query.options reply with
    | .ok outcome => return outcome
    | .error breach =>
      throw (.contract registered.identity registered.datastore query.method breach)

end RegisteredModel

end RecordMapper
