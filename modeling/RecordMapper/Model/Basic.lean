import RecordMapper.Json.Reader
import RecordMapper.Model.Attribute

/-! # Models

A model describes the records of one table: where it is kept, which attribute is the key, and what
each attribute holds. A `Configuration` lists datastores and models.
-/

namespace RecordMapper

/-- The definition of a model. No two of its attributes have one name. -/
structure Model where
  identity : String
  datastore : String
  /-- The table; without one the table has the model's identity. -/
  tableName : Option String := none
  /-- The attribute that is the key. -/
  primaryKey : String := "id"
  attributes : Dictionary Attribute := []
  /-- The attributes are in order, which is computed where they are written out. -/
  inOrder : decide (Dictionary.Sorted attributes) = true := by
    first | exact Eq.refl true | exact decide_eq_true (Dictionary.sorted_ofList _)

instance : Inhabited Model :=
  ⟨{ identity := default, datastore := default }⟩

namespace Model

theorem sorted (model : Model) : Dictionary.Sorted model.attributes :=
  of_decide_eq_true model.inOrder

/-- The table of a model. -/
def table (model : Model) : String :=
  model.tableName.getD model.identity

/-- The attribute of a name. -/
def attribute? (model : Model) (name : String) : Option Attribute :=
  Dictionary.get? model.attributes name

/-- What the attribute of a name stands for. -/
def kind? (model : Model) (name : String) : Option AttributeKind :=
  (model.attribute? name).map Attribute.kind

/-- The attributes that have a column, with their names, in order. -/
def stored (model : Model) : Dictionary Attribute :=
  model.attributes.filter fun entry => entry.2.hasColumn

/-- The names under which the parts of a model are written, in the order of their list form. -/
def fieldNames : List String :=
  ["identity", "datastore", "tableName", "primaryKey", "attributes"]

/-- The model as a JSON record. -/
def toJson (model : Model) : Json :=
  let tableName := match model.tableName with
    | some table => [("tableName", Json.text table)]
    | none => []
  .record (Dictionary.ofList ([
    ("identity", .text model.identity),
    ("datastore", .text model.datastore),
    ("primaryKey", .text model.primaryKey),
    ("attributes", .record (model.attributes.map fun entry => (entry.1, entry.2.toJson)))] ++ tableName))

/-- The model that a document writes; the defaults of its attributes may nest `depth` levels deep. -/
def ofDocument? (depth : Nat) (document : Document) : Option Model := do
  match ← document.fields? fieldNames with
  | [identity, datastore, tableName, primaryKey, attributes] =>
    let ⟨attributes, sorted⟩ ←
      Document.defaulted? (Document.dictionaryOf? (Attribute.ofDocument? depth)) ⟨[], Dictionary.sorted_nil⟩ attributes
    return {
      identity := ← (← identity).text?
      datastore := ← (← datastore).text?
      tableName := ← Document.optional? Document.text? tableName
      primaryKey := ← Document.defaulted? Document.text? "id" primaryKey
      attributes
      inOrder := decide_eq_true sorted }
  | _ => none

end Model

/-- A datastore, served by the adapter of the given name. -/
structure Datastore where
  adapter : String
deriving DecidableEq, Repr, Inhabited

namespace Datastore

def toJson (datastore : Datastore) : Json :=
  .record [("adapter", .text datastore.adapter)]

def ofDocument? (document : Document) : Option Datastore := do
  match ← document.fields? ["adapter"] with
  | [adapter] => return { adapter := ← (← adapter).text? }
  | _ => none

end Datastore

/-- Everything that a registry is built from, the adapters and hooks apart. No two datastores have one name. -/
structure Configuration where
  datastores : Dictionary Datastore := []
  models : List Model := []
  /-- The datastores are in order, which is computed where they are written out. -/
  inOrder : decide (Dictionary.Sorted datastores) = true := by
    first | exact Eq.refl true | exact decide_eq_true (Dictionary.sorted_ofList _)

instance : Inhabited Configuration :=
  ⟨{}⟩

namespace Configuration

theorem sorted (configuration : Configuration) : Dictionary.Sorted configuration.datastores :=
  of_decide_eq_true configuration.inOrder

/-- The configuration as a JSON record. -/
def toJson (configuration : Configuration) : Json :=
  .record [
    ("datastores", .record (configuration.datastores.map fun entry => (entry.1, entry.2.toJson))),
    ("models", .list (configuration.models.map Model.toJson))]

/-- How deep a default may nest: five levels of the configuration are around it. -/
def defaultDepth : Nat := Document.depthLimit - 5

/-- The configuration that a document writes; datastores and models may be absent. -/
def ofDocument? (document : Document) : Option Configuration := do
  match ← document.fields? ["datastores", "models"] with
  | [datastores, models] =>
    let ⟨datastores, sorted⟩ ←
      Document.defaulted? (Document.dictionaryOf? Datastore.ofDocument?) ⟨[], Dictionary.sorted_nil⟩ datastores
    return {
      datastores
      models := ← Document.defaulted? (Document.listOf? (Model.ofDocument? defaultDepth)) [] models
      inOrder := decide_eq_true sorted }
  | _ => none

/-- The configuration that a JSON text writes. -/
def parse? (text : String) : Option Configuration :=
  (Document.parse? text).bind ofDocument?

end Configuration

end RecordMapper
