import RecordMapper.Execution.Fault
import RecordMapper.Execution.Hooks
import RecordMapper.Model.Columns
import RecordMapper.Query.CompileError
import RecordMapper.Query.Iteratee
import RecordMapper.Query.Method
import RecordMapper.Text.Quoted

/-! # Errors of operations

Every way in which an operation can fail, with a stable code. A caller's own mistake is a usage error;
all others come from the datastore or from functions of the model.
-/

namespace RecordMapper

/-- Why an operation failed. -/
inductive QueryError where
  /-- A part of the query is malformed. -/
  | invalid (part : QueryPart) (method : Method) (details : String)
  | unknownModel (identity : String)
  /-- A write would have violated uniqueness of attributes. -/
  | notUnique (model : String) (attributes : List String) (message : String) (footprint : Json)
      (origin : Method)
  | adapter (model datastore message : String) (footprint : Option Json)
  /-- The adapter answered with something that it may not answer with. -/
  | contract (model datastore : String) (method : Method) (breach : Breach)
  /-- The adapter does not implement the method. -/
  | unsupported (model : String) (method : Method)
  /-- A record of the datastore does not fit its model. -/
  | drift (model : String) (drift : Drift)
  | transform (model : String) (cause : TransformError)
  | hook (model : String) (hook : HookName) (message : String)
  | iteratee (failure : IterateeFailure)
deriving Inhabited

namespace QueryError

/-- The stable code of an error. -/
def code : QueryError → String
  | .invalid part _ details => (CompileError.invalid part details).code
  | .unknownModel _ => "E_UNKNOWN_MODEL"
  | .notUnique .. => "E_UNIQUE"
  | .adapter .. => "E_ADAPTER"
  | .contract .. => "E_ADAPTER_CONTRACT"
  | .unsupported .. => "E_UNSUPPORTED_OPERATION"
  | .drift .. => "E_SCHEMA_DRIFT"
  | .transform .. => "E_TRANSFORM"
  | .hook .. => "E_HOOK"
  | .iteratee _ => "E_ITERATEE"

/-- Whether the caller's request is at fault. -/
def isUsage : QueryError → Bool
  | .invalid .. | .unknownModel _ => true
  | _ => false

/-- What a malformed part of a query is introduced by. -/
def heading (part : QueryPart) (method : Method) : String :=
  match part with
  | .criteria => "Invalid criteria."
  | .values => s!"Cannot perform {method.name} with the provided values."
  | .records => "Invalid new record(s)."
  | .populates => "Invalid populate(s)."
  | .iteratee =>
    "An iteratee function should be passed in to `.stream()` via either `.each_record()` or " ++
      "`.each_batch()` -- but not both."
  | .numericAttribute => "Invalid numeric attribute name."

/-- What went wrong, in words. -/
def message : QueryError → String
  | .invalid part method details => heading part method ++ "\nDetails:\n  " ++ details
  | .unknownModel identity => s!"Unknown model '{identity}'"
  | .notUnique _ attributes message _ _ => s!"{message}\nAttributes: {Text.inspectList attributes}"
  | .adapter model datastore message _ =>
    s!"Adapter error in model '{model}' (datastore '{datastore}'): {message}"
  | .contract model datastore method breach =>
    s!"Unexpected behavior in database adapter for datastore '{datastore}' during `{method.name}` " ++
      s!"on model '{model}': {breach.message}"
  | .unsupported model method =>
    s!"Cannot complete query: the adapter used by model '{model}' doesn't support the " ++
      s!"`{method.name}` method"
  | .drift model cause =>
    s!"Record from model '{model}' does not match its schema (missing migration?): {cause.message}"
  | .transform model cause => s!"Transformation failed for model '{model}': {cause.message}"
  | .hook _ _ message => message
  | .iteratee failure => s!"Stream iteratee failed: {failure.message}"

end QueryError

/-- The error of an operation whose query was not compiled. A noop is to be caught before; reported
all the same, it blames the criteria. -/
def CompileError.toQueryError (method : Method) : CompileError → QueryError
  | .invalid part details => .invalid part method details
  | .noop details => .invalid .criteria method details

end RecordMapper
