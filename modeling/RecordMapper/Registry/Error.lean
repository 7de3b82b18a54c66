/-! # Mistakes of a configuration

An `InitError` says why no registry could be built: the models do not fit together, one of them is not
valid, or an adapter is missing or refuses a table.
-/

namespace RecordMapper

/-- What is wrong with the key attribute of a model. -/
inductive PrimaryKeyFault where
  | undeclared
  | wrongKind
deriving DecidableEq, Repr, Inhabited

def PrimaryKeyFault.message : PrimaryKeyFault → String
  | .undeclared => "attribute is not declared"
  | .wrongKind => "must be a string or number attribute"

/-- What is wrong with an attribute of a model. -/
inductive AttributeFault where
  | notOneKind
  | viaWithoutCollection
  | stampedType
  | unknownModel (target : String)
  | unknownCollection (target : String)
  | noVia
  /-- The attribute named by `via` does not refer back. -/
  | viaMismatch (model target : String)
deriving DecidableEq, Repr, Inhabited

def AttributeFault.message : AttributeFault → String
  | .notOneKind => "exactly one of `type`, `model` or `collection` must be set"
  | .viaWithoutCollection => "`via` is only valid on collections"
  | .stampedType => "timestamps must be string or number attributes"
  | .unknownModel target => s!"unknown model '{target}'"
  | .unknownCollection target => s!"unknown collection '{target}'"
  | .noVia => "collections require `via`"
  | .viaMismatch model target => s!"`via` must name a `model: '{model}'` attribute of '{target}'"

/-- Why a registry was not built. -/
inductive InitError where
  | duplicateModel (identity : String)
  | unknownDatastore (model datastore : String)
  | unknownAdapter (datastore adapter : String)
  /-- An adapter refused the table of a model. -/
  | adapterRejected (adapter table reason : String)
  | hooksForUnknownModel (identity : String)
  | invalidPrimaryKey (model primaryKey : String) (fault : PrimaryKeyFault)
  | invalidAttribute (model name : String) (fault : AttributeFault)
  /-- Two attributes of a model share a column. -/
  | duplicateColumn (model column : String)
deriving DecidableEq, Repr, Inhabited

/-- What is wrong, in words. -/
def InitError.message : InitError → String
  | .duplicateModel identity => s!"Model '{identity}' is registered more than once"
  | .unknownDatastore model datastore => s!"Model '{model}' uses unknown datastore '{datastore}'"
  | .unknownAdapter datastore adapter => s!"Datastore '{datastore}' uses unknown adapter '{adapter}'"
  | .adapterRejected adapter table reason =>
    s!"Adapter '{adapter}' rejected table '{table}': {reason}"
  | .hooksForUnknownModel identity => s!"Lifecycle hooks registered for unknown model '{identity}'"
  | .invalidPrimaryKey model primaryKey fault =>
    s!"Model '{model}' has invalid primary key '{primaryKey}': {fault.message}"
  | .invalidAttribute model name fault =>
    s!"Attribute '{name}' of model '{model}' is invalid: {fault.message}"
  | .duplicateColumn model column =>
    s!"Model '{model}' maps more than one attribute to column '{column}'"

end RecordMapper
