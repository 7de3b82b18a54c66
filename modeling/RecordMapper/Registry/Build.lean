import RecordMapper.Execution.Run
import RecordMapper.Model.Validity
import RecordMapper.Registry.Basic

/-! # Building a registry

All models are checked first. Then, one model after another, the adapter of its datastore is looked up
and gets the table of the model, so that a datastore or an adapter that does not exist is found only
when the tables of earlier models have been handed over.
-/

namespace RecordMapper

/-- The table of a model, for the adapter. -/
def TableDefinition.ofModel (model : Model) (columns : Columns) : TableDefinition :=
  let column (name : String) : String := (columns.column? name).getD name
  { table := model.table
    primaryKey := column model.primaryKey
    autoIncrement := model.kind? model.primaryKey == some (.scalar .number)
    uniqueColumns := (model.attributes.filter fun entry => entry.2.unique).map fun entry => column entry.1 }

namespace Registry

variable {σ : Type}

/-- The first identity that an earlier model has already. -/
def duplicate? (seen : List String) : List Model → Option String
  | [] => none
  | model :: rest =>
    if seen.contains model.identity then some model.identity
    else duplicate? (model.identity :: seen) rest

/-- Models have to be distinct, hooks have to be of models, and models have to be valid. -/
def check (models : List Model) (hooks : Dictionary (Hooks σ)) : Except InitError Unit := do
  match duplicate? [] models with
  | some identity => .error (.duplicateModel identity)
  | none => pure ()
  match (Dictionary.names hooks).find? fun identity => (Model.find? models identity).isNone with
  | some identity => .error (.hooksForUnknownModel identity)
  | none => pure ()
  models.forM fun model => model.check models

/-- The adapter of the datastore of a model. -/
def adapterOf (datastores : Dictionary Datastore) (adapters : Dictionary (Adapter σ)) (model : Model) :
    Except InitError (Adapter σ) :=
  match Dictionary.get? datastores model.datastore with
  | none => .error (.unknownDatastore model.identity model.datastore)
  | some datastore =>
    match Dictionary.get? adapters datastore.adapter with
    | none => .error (.unknownAdapter model.datastore datastore.adapter)
    | some adapter => .ok adapter

/-- Hand the table of a model to its adapter. -/
def register (configuration : Configuration) (adapters : Dictionary (Adapter σ))
    (hooks : Dictionary (Hooks σ)) (model : Model) : Attempt InitError σ (RegisteredModel σ) := do
  let adapter ← Run.ofExcept (adapterOf configuration.datastores adapters model)
  let columns := Columns.ofModel model
  let table := TableDefinition.ofModel model columns
  match ← Run.call (.defined adapter.identity model.datastore table) (adapter.define model.datastore table) with
  | .ok () => return { model, columns, adapter, hooks := (Dictionary.get? hooks model.identity).getD {} }
  | .error error => throw (.adapterRejected adapter.identity model.table error.message)

/-- The registry of a configuration, with adapters by the names that datastores use and hooks by the
identities of models. -/
def build (configuration : Configuration) (adapters : Dictionary (Adapter σ))
    (hooks : Dictionary (Hooks σ)) : Attempt InitError σ (Registry σ) := do
  Run.ofExcept (check configuration.models hooks)
  let registered ← configuration.models.mapM (register configuration adapters hooks)
  return { models := Dictionary.ofList (registered.map fun model => (model.identity, model)) }

end Registry

end RecordMapper
