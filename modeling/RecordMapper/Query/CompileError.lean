/-! # Why a query was not compiled

Either a part of the query is malformed, or the query is sound but is certain to match nothing. The
second is no failure: its caller answers with an empty result.
-/

namespace RecordMapper

/-- The parts of a query that can be malformed. -/
inductive QueryPart where
  | criteria
  | values
  | records
  | populates
  | iteratee
  | numericAttribute
deriving DecidableEq, Repr, Inhabited

/-- Why a query was not compiled. -/
inductive CompileError where
  | invalid (part : QueryPart) (details : String)
  | noop (details : String)
deriving DecidableEq, Repr, Inhabited

namespace CompileError

/-- The stable code of an error. -/
def code : CompileError → String
  | .invalid .criteria _ => "E_INVALID_CRITERIA"
  | .invalid .values _ => "E_INVALID_VALUES_TO_SET"
  | .invalid .records _ => "E_INVALID_NEW_RECORDS"
  | .invalid .populates _ => "E_INVALID_POPULATES"
  | .invalid .iteratee _ => "E_INVALID_STREAM_ITERATEE"
  | .invalid .numericAttribute _ => "E_INVALID_NUMERIC_ATTR_NAME"
  | .noop _ => "E_NOOP"

/-- What is wrong, in words. -/
def details : CompileError → String
  | .invalid _ details => details
  | .noop details => details

/-- Whether the query can simply be skipped. -/
def isNoop : CompileError → Bool
  | .noop _ => true
  | .invalid _ _ => false

/-- The code and the details. -/
def message (error : CompileError) : String :=
  "[" ++ error.code ++ "] " ++ error.details

end CompileError

end RecordMapper
