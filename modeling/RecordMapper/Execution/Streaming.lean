import RecordMapper.Execution.Dispatch
import RecordMapper.Execution.Materialization
import RecordMapper.Query.Lowering

/-! # Streams

A stream is read as a series of finds, each of at most thirty records, one after the other: a batch is
asked for only when the iteratee is done with the one before. The stream ends with the first empty
batch, when the caller's limit is used up, when the iteratee says so, or with the first error.
-/

namespace RecordMapper

/-- How many records a batch has at most. -/
def batchSize : Nat := 30

/-- How many batches from a skip on have a skip that is a count of 64 bits. A stream has no more. -/
def batchesFrom (skip : Nat) : Nat := (Nat.pow 2 64 - 1 - skip) / batchSize + 1

namespace Iteratee

variable {σ : Type}

/-- Call a continuation with what was read. -/
def call {α : Type} (delivery : Delivery) (continuation : Continuation σ α) (read : α) :
    Execution σ Flow := do
  match ← Run.call (.delivered delivery) (continuation read) with
  | .ok flow => return flow
  | .error failure => throw (.iteratee failure)

/-- Call a continuation with one record after another, until it stops the stream. -/
def deliverEach (continuation : Continuation σ Record) : List Record → Execution σ Flow
  | [] => return .proceed
  | record :: rest => do
    match ← call (.record record) continuation record with
    | .stop => return .stop
    | .proceed => deliverEach continuation rest

/-- Hand one batch to the iteratee. -/
def deliver : Iteratee σ → List Record → Execution σ Flow
  | .eachRecord continuation, records => deliverEach continuation records
  | .eachBatch continuation, records => call (.batch records) continuation records

end Iteratee

namespace Registry

variable {σ : Type}

/-- The query as it is put to the adapter. -/
def lower (registry : Registry σ) (registered : RegisteredModel σ) (query : LogicalQuery σ) :
    Except QueryError PhysicalQuery :=
  (query.lower registered registry).mapError (.transform registered.identity)

/-- Put a query to the adapter of a model, and take the rows of its answer to records. -/
def fetch (registry : Registry σ) (registered : RegisteredModel σ) (origin : Method)
    (query : LogicalQuery σ) : Execution σ Outcome := do
  let physical ← Run.ofExcept (registry.lower registered query)
  match ← registered.dispatch origin physical with
  | .records rows =>
    let records ← Run.ofExcept (registry.materialize registered physical.joins query.options rows)
    return .records records
  | outcome => return outcome

/-- The query that reads one batch of a stream. -/
def batchQuery (query : LogicalQuery σ) (skip limit : Nat) : LogicalQuery σ :=
  { query with method := .find, criteria := { query.criteria with skip, limit := some limit } }

/-- The records of one batch of a stream. -/
def fetchBatch (registry : Registry σ) (registered : RegisteredModel σ) (query : LogicalQuery σ)
    (skip limit : Nat) : Execution σ (List Record) := do
  let outcome ← registry.fetch registered .stream (batchQuery query skip limit)
  return outcome.records?.getD []

/-- Read and deliver batches from a skip on, as long as something remains of the limit. -/
def streamFrom (registry : Registry σ) (registered : RegisteredModel σ) (query : LogicalQuery σ)
    (iteratee : Iteratee σ) : Nat → Nat → Option Nat → Execution σ Unit
  | 0, _, _ => return ()
  | batches + 1, skip, remaining => do
    let limit := (remaining.map (min batchSize)).getD batchSize
    if limit = 0 then return ()
    let records ← registry.fetchBatch registered query skip limit
    if records.isEmpty then return ()
    match ← iteratee.deliver records with
    | .stop => return ()
    | .proceed =>
      streamFrom registry registered query iteratee batches (skip + batchSize)
        (remaining.map (· - records.length))

/-- Deliver what a query selects to its iteratee. -/
def stream (registry : Registry σ) (registered : RegisteredModel σ) (query : LogicalQuery σ) :
    Execution σ Unit :=
  match query.iteratee with
  | none => throw (.invalid .iteratee .stream "no iteratee to deliver records to")
  | some iteratee =>
    let skip := query.criteria.skip
    streamFrom registry registered query iteratee (batchesFrom skip) skip query.criteria.limit

end Registry

end RecordMapper
