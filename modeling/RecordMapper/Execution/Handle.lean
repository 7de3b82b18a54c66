import RecordMapper.Execution.Operation

/-! # Handles

A handle is the way to work on one model. Each of its functions describes a query on that model,
executes it at a point in time, and answers with just what its method gives.
-/

namespace RecordMapper

/-- A model of a registry, to be worked on. -/
structure Handle (σ : Type) where
  registry : Registry σ
  /-- The identity of the model. -/
  identity : String

/-- The handle of a model that the registry has. -/
def Registry.handle? {σ : Type} (registry : Registry σ) (identity : String) : Option (Handle σ) :=
  (registry.model? identity).map fun _ => { registry, identity }

namespace Handle

variable {σ : Type}

/-- Execute a described query on the model of the handle, whatever model it names. -/
def execute (handle : Handle σ) (now : Instant) (query : Description σ) : Execution σ Outcome :=
  handle.registry.execute now { query with model := handle.identity }

/-- The records that executing a query gives, if it gives any. -/
def records? (handle : Handle σ) (now : Instant) (query : Description σ) :
    Execution σ (Option (List Record)) :=
  Outcome.records? <$> handle.execute now query

/-- Add one record; answers with it if it is to be fetched. -/
def create (handle : Handle σ) (now : Instant) (record : Json) (options : Meta) :
    Execution σ (Option Record) := do
  let found ← handle.records? now
    { method := .create, model := handle.identity, records := some record, options }
  return found.bind List.getLast?

/-- Add a list of records at once; answers with them if they are to be fetched. -/
def createEach (handle : Handle σ) (now : Instant) (records : Json) (options : Meta) :
    Execution σ (Option (List Record)) :=
  handle.records? now { method := .createEach, model := handle.identity, records := some records, options }

/-- Write values over the records that match; answers with them if they are to be fetched. -/
def update (handle : Handle σ) (now : Instant) (criteria values : Json) (options : Meta) :
    Execution σ (Option (List Record)) :=
  handle.records? now
    { method := .update, model := handle.identity, criteria := some criteria, values := some values, options }

/-- Take out the records that match; answers with them if they are to be fetched. -/
def destroy (handle : Handle σ) (now : Instant) (criteria : Json) (options : Meta) :
    Execution σ (Option (List Record)) :=
  handle.records? now { method := .destroy, model := handle.identity, criteria := some criteria, options }

/-- The records that criteria select. -/
def find (handle : Handle σ) (now : Instant) (criteria : Json) : Execution σ (List Record) := do
  let found ← handle.records? now { method := .find, model := handle.identity, criteria := some criteria }
  return found.getD []

/-- How many records criteria select. -/
def count (handle : Handle σ) (now : Instant) (criteria : Json) : Execution σ Nat := do
  let outcome ← handle.execute now
    { method := .count, model := handle.identity, criteria := some criteria }
  return outcome.count?.getD 0

/-- An aggregate of an attribute over the records that criteria select. -/
def aggregate (handle : Handle σ) (method : Method) (now : Instant) (name : String) (criteria : Json) :
    Execution σ Double := do
  let outcome ← handle.execute now
    { method, model := handle.identity, criteria := some criteria, numericAttribute := some name }
  return outcome.number?.getD (.zero false)

/-- The sum of an attribute over the records that criteria select. -/
def sum (handle : Handle σ) (now : Instant) (name : String) (criteria : Json) : Execution σ Double :=
  handle.aggregate .sum now name criteria

/-- The mean of an attribute over the records that criteria select. -/
def average (handle : Handle σ) (now : Instant) (name : String) (criteria : Json) : Execution σ Double :=
  handle.aggregate .avg now name criteria

/-- Call a continuation with each record that criteria select. -/
def eachRecord (handle : Handle σ) (now : Instant) (criteria : Json) (continuation : Continuation σ Record) :
    Execution σ Unit := do
  let _ ← handle.execute now
    { method := .stream, model := handle.identity, criteria := some criteria, eachRecord := some continuation }

/-- Call a continuation with each batch of the records that criteria select. -/
def eachBatch (handle : Handle σ) (now : Instant) (criteria : Json)
    (continuation : Continuation σ (List Record)) : Execution σ Unit := do
  let _ ← handle.execute now
    { method := .stream, model := handle.identity, criteria := some criteria, eachBatch := some continuation }

end Handle

end RecordMapper
