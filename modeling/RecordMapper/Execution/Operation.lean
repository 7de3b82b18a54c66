import RecordMapper.Execution.HookCalls
import RecordMapper.Execution.Streaming

/-! # Operations

`Registry.execute` takes a described query through its whole course: it is compiled, the hooks before
it run, it is lowered and put to the adapter, the answer becomes records, and the hooks after it run
once for each of them. A query that is certain to match nothing ends after it is compiled, with an empty
outcome and without any hook. A stream is handed over after it is compiled.
-/

namespace RecordMapper

namespace Registry

variable {σ : Type}

/-- Take a compiled query that is no stream through the rest of its course. -/
def perform (registry : Registry σ) (registered : RegisteredModel σ) (query : LogicalQuery σ) :
    Execution σ Outcome := do
  let query ← registered.callBefore query
  match ← registry.fetch registered query.method query with
  | .records records =>
    let records ← registered.callAfter query.method query.options records
    return .records records
  | outcome => return outcome

/-- Take a described query through its course at a point in time. -/
def execute (registry : Registry σ) (now : Instant) (query : Description σ) : Execution σ Outcome := do
  let registered ← Run.ofExcept (registry.require query.model)
  match query.compile registry now with
  | .error (.noop _) => return .noop query.method query.options
  | .error error => throw (error.toQueryError query.method)
  | .ok compiled =>
    if query.method = .stream then
      registry.stream registered compiled
      return .nothing
    else registry.perform registered compiled

end Registry

end RecordMapper
