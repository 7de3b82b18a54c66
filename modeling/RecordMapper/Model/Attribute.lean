import RecordMapper.Json.Document

/-! # Attributes

An attribute of a model is a plain value, a reference to one record of another model, or the records
of another model that refer back here. Only the last kind has no column. `Attribute.kind` says which
of them a definition stands for.
-/

namespace RecordMapper

/-- The type of a plain value. -/
inductive ScalarType where
  | string
  | number
  | boolean
  /-- Any JSON value. -/
  | json
  /-- Any value, passed on untouched. -/
  | reference
deriving DecidableEq, Repr, Inhabited

namespace ScalarType

def name : ScalarType → String
  | .string => "string"
  | .number => "number"
  | .boolean => "boolean"
  | .json => "json"
  | .reference => "ref"

def ofName? (name : String) : Option ScalarType :=
  [string, number, boolean, json, reference].find? fun type => type.name == name

/-- Whether a value that is not null has the type. Nothing is converted. -/
def accepts : ScalarType → Json → Bool
  | .string, value => value.isText
  | .number, value => value.isNumber
  | .boolean, value => value.isBool
  | .json, _ => true
  | .reference, _ => true

end ScalarType

/-- What an attribute stands for. -/
inductive AttributeKind where
  | scalar (type : ScalarType)
  /-- The key of one record of another model. -/
  | model (target : String)
  /-- The records of another model whose attribute `via` refers back. -/
  | collection (target : String) (via : Option String)
deriving DecidableEq, Repr, Inhabited

/-- The definition of an attribute. -/
structure Attribute where
  type : Option ScalarType := none
  /-- There is always a value, and it is not null. -/
  required : Bool := false
  /-- The column; without one the column has the attribute's name. -/
  column : Option String := none
  /-- The value of a new record that gives none. -/
  default : Option Json := none
  /-- Set to the current time on creation. -/
  autoCreatedAt : Bool := false
  /-- Set to the current time on creation and update. -/
  autoUpdatedAt : Bool := false
  /-- The datastore keeps the values of the column distinct. -/
  unique : Bool := false
  /-- The model of the one record referred to. -/
  model : Option String := none
  /-- The model of the records that refer back. -/
  collection : Option String := none
  /-- The attribute of those records that refers back. -/
  via : Option String := none
deriving Inhabited

namespace Attribute

/-- An attribute for plain values of a type. -/
def ofType (type : ScalarType) : Attribute := { type := some type }

/-- An attribute for one record of another model. -/
def belongsTo (target : String) : Attribute := { model := some target }

/-- An attribute for the records of another model that refer back through `via`. -/
def hasMany (target via : String) : Attribute := { collection := some target, via := some via }

/-- What a definition stands for. A reference to a model goes before a collection, and a definition
that names nothing holds any JSON value. -/
def kind (declared : Attribute) : AttributeKind :=
  match declared.model, declared.collection with
  | some target, _ => .model target
  | none, some target => .collection target declared.via
  | none, none => .scalar (declared.type.getD .json)

/-- Whether the attribute has a column of its own model. -/
def hasColumn (declared : Attribute) : Bool :=
  match declared.kind with
  | .collection _ _ => false
  | _ => true

/-- The column of an attribute of the given name. -/
def columnOf (declared : Attribute) (name : String) : String :=
  declared.column.getD name

/-- The names under which the parts of a definition are written, in the order of their list form. -/
def fieldNames : List String :=
  ["type", "required", "columnName", "defaultsTo", "autoCreatedAt", "autoUpdatedAt", "unique", "model",
    "collection", "via"]

/-- The definition as a JSON record; parts that are not set are left out, except the flags. -/
def toJson (declared : Attribute) : Json :=
  let entry (name : String) (value : Option Json) : List (String × Json) :=
    match value with
    | some value => [(name, value)]
    | none => []
  .record (Dictionary.ofList (
    entry "type" (declared.type.map fun type => .text type.name) ++
    [("required", .bool declared.required)] ++
    entry "columnName" (declared.column.map .text) ++
    entry "defaultsTo" declared.default ++
    [("autoCreatedAt", .bool declared.autoCreatedAt), ("autoUpdatedAt", .bool declared.autoUpdatedAt),
      ("unique", .bool declared.unique)] ++
    entry "model" (declared.model.map .text) ++
    entry "collection" (declared.collection.map .text) ++
    entry "via" (declared.via.map .text)))

/-- The type that a document names. -/
def typeOf? (document : Document) : Option ScalarType :=
  document.nameOf?.bind ScalarType.ofName?

/-- The definition that a document writes; its default may nest `depth` levels deep. -/
def ofDocument? (depth : Nat) (document : Document) : Option Attribute := do
  match ← document.fields? fieldNames with
  | [type, required, column, default, createdAt, updatedAt, unique, model, collection, via] =>
    return {
      type := ← Document.optional? typeOf? type
      required := ← Document.defaulted? Document.bool? false required
      column := ← Document.optional? Document.text? column
      default := ← Document.optional? (Document.toJson? depth) default
      autoCreatedAt := ← Document.defaulted? Document.bool? false createdAt
      autoUpdatedAt := ← Document.defaulted? Document.bool? false updatedAt
      unique := ← Document.defaulted? Document.bool? false unique
      model := ← Document.optional? Document.text? model
      collection := ← Document.optional? Document.text? collection
      via := ← Document.optional? Document.text? via }
  | _ => none

end Attribute

end RecordMapper
