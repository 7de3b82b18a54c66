import RecordMapper.Adapter.Basic
import RecordMapper.Execution.Hooks
import RecordMapper.Model.Columns

/-! # Registries

A registry holds the models that operations work on, each with its columns, its hooks and the adapter
of its datastore. It does not change once it is built.
-/

namespace RecordMapper

/-- A model with everything that an operation on it needs. -/
structure RegisteredModel (σ : Type) where
  model : Model
  columns : Columns
  hooks : Hooks σ
  adapter : Adapter σ

/-- The models that operations work on, by identity. -/
structure Registry (σ : Type) where
  models : Dictionary (RegisteredModel σ) := []

namespace RegisteredModel

variable {σ : Type}

def identity (registered : RegisteredModel σ) : String :=
  registered.model.identity

def datastore (registered : RegisteredModel σ) : String :=
  registered.model.datastore

end RegisteredModel

namespace Registry

variable {σ : Type}

/-- The model of an identity. -/
def model? (registry : Registry σ) (identity : String) : Option (RegisteredModel σ) :=
  Dictionary.get? registry.models identity

/-- The identities of all models, in order. -/
def identities (registry : Registry σ) : List String :=
  Dictionary.names registry.models

end Registry

end RecordMapper
