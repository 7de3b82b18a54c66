import RecordMapper.Adapter.Basic
import RecordMapper.Execution.Error

/-! # Runs

Everything that is done outside of this library goes through a `Run`: the environment that adapters,
hooks and iteratees work on, and the list of what was asked of them, oldest first. An `Execution`
changes a run and succeeds or fails; what it did before a failure stays done.
-/

namespace RecordMapper

/-- What a hook gets. -/
inductive HookPayload where
  | record (record : Record)
  | criteria (criteria : Criteria)
deriving Inhabited

/-- What an iteratee gets. -/
inductive Delivery where
  | record (record : Record)
  | batch (records : List Record)
deriving Inhabited

/-- Something odd that is no error. -/
inductive Warning where
  /-- An adapter answered a mutation with rows that nobody asked for. -/
  | unrequestedRows (model adapter : String) (method : Method)
  /-- A uniqueness footprint names a column that no attribute has. -/
  | unclaimedColumn (model column : String)
deriving DecidableEq, Repr, Inhabited

/-- What is odd, in words. -/
def Warning.message : Warning → String
  | .unrequestedRows .. =>
    "adapter returned records although `fetch` was not requested; this is a bug in the adapter, " ++
      "the payload was ignored"
  | .unclaimedColumn .. => "uniqueness footprint names a column no attribute maps to"

/-- One thing that was asked of the outside, or noted. -/
inductive Event where
  /-- A table was described to an adapter. -/
  | defined (adapter datastore : String) (table : TableDefinition)
  /-- A hook of a model was called. -/
  | hooked (model : String) (name : HookName) (payload : HookPayload)
  /-- A query was put to an adapter that implements it. -/
  | queried (adapter datastore : String) (query : PhysicalQuery)
  /-- An iteratee was called. -/
  | delivered (delivery : Delivery)
  | warned (warning : Warning)
deriving Inhabited

/-- The environment and what has happened in it. -/
structure Run (σ : Type) where
  environment : σ
  events : List Event := []

/-- Something that changes a run and answers with a value or an error. -/
abbrev Attempt (ε σ α : Type) := ExceptT ε (StateM (Run σ)) α

/-- Something that an operation does. -/
abbrev Execution (σ α : Type) := Attempt QueryError σ α

namespace Run

variable {ε σ α : Type}

/-- Note an event. -/
def note (event : Event) : Attempt ε σ Unit :=
  modify fun run => { run with events := run.events ++ [event] }

/-- Note an event, then let a function work on the environment. -/
def call (event : Event) (function : σ → α × σ) : Attempt ε σ α := do
  note event
  modifyGet fun run =>
    let (answer, environment) := function run.environment
    (answer, { run with environment })

/-- Answer with a result, or fail with its error. -/
def ofExcept (result : Except ε α) : Attempt ε σ α :=
  ExceptT.mk (pure result)

end Run

end RecordMapper
