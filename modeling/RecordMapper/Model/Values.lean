import RecordMapper.Instant
import RecordMapper.Json.Printer
import RecordMapper.Model.Basic
import RecordMapper.Query.CompileError

/-! # Values for writing

`Model.readChanges` reads the values that an update sets, `Model.readRecord` a new record. Both check
every given value against its attribute. What is not given is filled in: a new record gets defaults,
the current time and nulls, an update only the current time. The key of a new record may be left out,
and the key of an old one is never set by its caller.
-/

namespace RecordMapper

/-- What is wrong with values for writing. -/
inductive ValueFault where
  | notRecord (got : Json)
  | notRecordList (got : Json)
  | unknownAttribute (name model : String)
  | setsPrimaryKey (name : String)
  | requiredNull (name : String)
  | wrongType (name : String) (expected : ScalarType) (got : Json)
  | notKey (name target : String) (got : Json)
  | pluralAssociation (name : String)
  | missing (name : String)
  /-- A fault of one record of a list, with its place in it. -/
  | inRecord (index : Nat) (fault : ValueFault)
  | noValues
  | noRecords
deriving Inhabited

/-- What is wrong, in words. -/
def ValueFault.message : ValueFault → String
  | .notRecord got => s!"Expected a dictionary, but got: {got.compact}"
  | .notRecordList got => s!"Expected a list of new records, but got: {got.compact}"
  | .unknownAttribute name model => s!"Unknown attribute `{name}` of model `{model}`"
  | .setsPrimaryKey name => s!"The primary key `{name}` cannot be changed"
  | .requiredNull name => s!"`{name}` is required and cannot be null"
  | .wrongType name expected got => s!"`{name}` expects a {expected.name}, but got: {got.compact}"
  | .notKey name target got =>
    s!"`{name}` expects the primary key of a `{target}` record, but got: {got.compact}"
  | .pluralAssociation name => s!"`{name}` is a plural association and cannot be set directly"
  | .missing name => s!"Missing value for required attribute `{name}`"
  | .inRecord index fault => s!"record #{index}: " ++ fault.message
  | .noValues => "Values to set must be provided"
  | .noRecords => "New record(s) must be provided"

/-- The current time in the form that an attribute declares: milliseconds for a number, text
otherwise. -/
def Attribute.stamp (declared : Attribute) (now : Instant) : Json :=
  match declared.type with
  | some .number => .number (.integer now.milliseconds)
  | _ => .text now.text

/-- A given value has to fit its attribute; null fits one that is not required. -/
def Attribute.checkValue (name : String) (declared : Attribute) (value : Json) : Except ValueFault Unit :=
  if value.isNull then
    if declared.required then .error (.requiredNull name) else .ok ()
  else
    match declared.kind with
    | .scalar type => if type.accepts value then .ok () else .error (.wrongType name type value)
    | .model target =>
      if value.isText || value.isNumber then .ok () else .error (.notKey name target value)
    | .collection _ _ => .error (.pluralAssociation name)

namespace Model

/-- The value of an attribute that a new record does not give. -/
def fillIn (now : Instant) (name : String) (declared : Attribute) : Except ValueFault Json :=
  match declared.default with
  | some value => .ok value
  | none =>
    if declared.autoCreatedAt || declared.autoUpdatedAt then .ok (declared.stamp now)
    else if declared.required then .error (.missing name)
    else .ok .null

/-- The attribute that a given value is for. -/
def givenAttribute (model : Model) (name : String) : Except ValueFault Attribute :=
  match model.attribute? name with
  | some declared => .ok declared
  | none => .error (.unknownAttribute name model.identity)

/-- One entry of the values that an update sets. -/
def readChange (model : Model) (entry : String × Json) : Except ValueFault (String × Json) := do
  let (name, value) := entry
  let declared ← model.givenAttribute name
  if name = model.primaryKey then .error (.setsPrimaryKey name)
  declared.checkValue name value
  return (name, value)

/-- The attributes, with values, that an update stamps beside the given ones. -/
def stamps (model : Model) (now : Instant) (given : Record) : Record :=
  (model.attributes.filter fun (name, declared) =>
    declared.autoUpdatedAt && !Dictionary.contains given name).map fun (name, declared) =>
      (name, declared.stamp now)

/-- The values that an update sets. -/
def readChanges (model : Model) (now : Instant) : Json → Except ValueFault Record
  | .record entries => do
    let given ← entries.mapM model.readChange
    return Dictionary.insertAll given (model.stamps now given)
  | got => .error (.notRecord got)

/-- One entry of a new record; a null key is as good as none. -/
def readEntry (model : Model) (entry : String × Json) : Except ValueFault (List (String × Json)) := do
  let (name, value) := entry
  let declared ← model.givenAttribute name
  if name = model.primaryKey ∧ value.isNull then return []
  declared.checkValue name value
  return [(name, value)]

/-- The attributes that a new record leaves to be filled in, in order. The key is not among them. -/
def openAttributes (model : Model) (given : Record) : Dictionary Attribute :=
  model.stored.filter fun (name, _) => name ≠ model.primaryKey && !Dictionary.contains given name

/-- A new record with a value for every attribute that has a column, its key possibly apart. -/
def readRecord (model : Model) (now : Instant) : Json → Except ValueFault Record
  | .record entries => do
    let given := (← entries.mapM model.readEntry).flatten
    let filled ← (model.openAttributes given).mapM fun (name, declared) =>
      (fillIn now name declared).map fun value => (name, value)
    return Dictionary.insertAll given filled
  | got => .error (.notRecord got)

/-- New records in order; the first fault ends the reading, with the place of its record. -/
def readRecordsFrom (model : Model) (now : Instant) (index : Nat) : List Json → Except ValueFault (List Record)
  | [] => .ok []
  | item :: rest => do
    let record ← (model.readRecord now item).mapError (.inRecord index)
    let records ← readRecordsFrom model now (index + 1) rest
    return record :: records

/-- The values that an update sets, as a part of a query. -/
def compileChanges (model : Model) (now : Instant) (raw : Json) : Except CompileError Record :=
  (model.readChanges now raw).mapError fun fault => .invalid .values fault.message

/-- A new record, as a part of a query. -/
def compileRecord (model : Model) (now : Instant) (raw : Json) : Except CompileError Record :=
  (model.readRecord now raw).mapError fun fault => .invalid .records fault.message

/-- A list of new records, as a part of a query; an empty one asks for nothing. -/
def compileRecords (model : Model) (now : Instant) : Json → Except CompileError (List Record)
  | .list [] => .error (.noop "No records to create")
  | .list items =>
    (model.readRecordsFrom now 0 items).mapError fun fault => .invalid .records fault.message
  | got => .error (.invalid .records (ValueFault.notRecordList got).message)

end Model

end RecordMapper
