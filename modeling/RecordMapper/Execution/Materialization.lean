import RecordMapper.Execution.Error
import RecordMapper.Query.Physical
import RecordMapper.Registry.Basic

/-! # From rows to records

`Registry.materialize` takes the rows of an answer to records of a model: columns become attributes,
and what stands under the field of a join becomes records of its model. Unless that is skipped, every
record is verified: it has its key, and every attribute that it has fits its definition. What no
attribute claims is kept.
-/

namespace RecordMapper

/-- Whether a value that was read fits an attribute. Null fits one that is not required. The value of a
reference is a key or an embedded record. -/
def Attribute.fits (declared : Attribute) (value : Json) : Bool :=
  if value.isNull then !declared.required
  else
    match declared.kind with
    | .scalar type => type.accepts value
    | .model _ => value.isText || value.isNumber || value.isRecord
    | .collection _ _ => value.isList

/-- How a record does not fit a model, the key first and then the attributes in order. -/
def Model.drift? (model : Model) (record : Record) : Option Drift :=
  match Json.present? (Dictionary.get? record model.primaryKey) with
  | none => some (.noKey model.primaryKey)
  | some _ =>
    model.attributes.findSome? fun (name, declared) =>
      match Dictionary.get? record name with
      | some value => if declared.fits value then none else some (.misfit name value)
      | none => none

namespace RegisteredModel

variable {σ : Type}

/-- A record has to fit its model. -/
def verify (registered : RegisteredModel σ) (record : Record) : Except QueryError Unit :=
  match registered.model.drift? record with
  | some drift => .error (.drift registered.identity drift)
  | none => .ok ()

/-- A row without embedded rows as a record. -/
def raise (registered : RegisteredModel σ) (row : Record) : Except QueryError Record :=
  (registered.columns.raise row).mapError (.transform registered.identity)

/-- An embedded row as a record of its model. -/
def raiseChild (child : RegisteredModel σ) (verified : Bool) (row : Record) : Except QueryError Record := do
  let record ← child.raise row
  if verified then child.verify record
  return record

/-- An item of an embedded list as a record of its model. -/
def raiseItem (parent child : RegisteredModel σ) (verified : Bool) (field : String) :
    Json → Except QueryError Json
  | .record row => (child.raiseChild verified row).map .record
  | value => .error (.drift parent.identity (.embeddedItem field value))

end RegisteredModel

/-- What stands under the aliases of joins, and the row without it. -/
def Join.detach : List Join → Record → List (Join × Option Json) × Record
  | [], row => ([], row)
  | join :: rest, row =>
    let (embedded, bare) := detach rest (Dictionary.erase row join.field)
    ((join, Dictionary.get? row join.field) :: embedded, bare)

namespace Registry

variable {σ : Type}

/-- The model of an identity, or the error that there is none. -/
def require (registry : Registry σ) (identity : String) : Except QueryError (RegisteredModel σ) :=
  match registry.model? identity with
  | some registered => .ok registered
  | none => .error (.unknownModel identity)

/-- What a join embeds in a record of the parent. Of nothing, a plural join embeds an empty list and a
singular one null. -/
def embedded (registry : Registry σ) (parent : RegisteredModel σ) (verified : Bool) (join : Join)
    (value : Option Json) : Except QueryError Json := do
  let child ← registry.require join.childModel
  match join.collection, value with
  | true, none => return .list []
  | true, some (.list items) =>
    (items.mapM (parent.raiseItem child verified join.field)).map .list
  | false, none | false, some .null => return .null
  | false, some (.record row) => (child.raiseChild verified row).map .record
  | _, some other => .error (.drift parent.identity (.embeddedShape join.field other))

/-- A row of an answer as a record. -/
def materializeRow (registry : Registry σ) (registered : RegisteredModel σ) (joins : List Join)
    (verified : Bool) (row : Record) : Except QueryError Record := do
  let (detached, bare) := Join.detach joins row
  let record ← registered.raise bare
  let record ← detached.foldlM (fun record (join, value) =>
    (registry.embedded registered verified join value).map fun value =>
      Dictionary.insert record join.field value) record
  if verified then registered.verify record
  return record

/-- The rows of an answer as records, in the same order. -/
def materialize (registry : Registry σ) (registered : RegisteredModel σ) (joins : List Join)
    (options : Meta) (rows : List Record) : Except QueryError (List Record) :=
  rows.mapM (registry.materializeRow registered joins (!options.skipVerification))

end Registry

end RecordMapper
