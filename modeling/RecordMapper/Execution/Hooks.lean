import RecordMapper.Criteria.Basic

/-! # Hooks

A model may have a function of its own before and after each kind of mutation. A hook gets a payload
and answers with another one, or fails with a message; it may read and change the environment.
-/

namespace RecordMapper

/-- The places where a hook can stand. -/
inductive HookName where
  | beforeCreate
  | afterCreate
  | beforeUpdate
  | afterUpdate
  | beforeDestroy
  | afterDestroy
deriving DecidableEq, Repr, Inhabited

namespace HookName

/-- Every place, in the order of their declaration. -/
def all : List HookName :=
  [.beforeCreate, .afterCreate, .beforeUpdate, .afterUpdate, .beforeDestroy, .afterDestroy]

def name : HookName → String
  | .beforeCreate => "beforeCreate"
  | .afterCreate => "afterCreate"
  | .beforeUpdate => "beforeUpdate"
  | .afterUpdate => "afterUpdate"
  | .beforeDestroy => "beforeDestroy"
  | .afterDestroy => "afterDestroy"

end HookName

/-- A function that may change its payload or fail with a message. -/
abbrev Hook (σ α : Type) := α → σ → Except String α × σ

/-- The hooks of a model. The one before a destroy gets criteria; the others get one record: a new
one, the values to set, or one that was affected. -/
structure Hooks (σ : Type) where
  beforeCreate : Option (Hook σ Record) := none
  afterCreate : Option (Hook σ Record) := none
  beforeUpdate : Option (Hook σ Record) := none
  afterUpdate : Option (Hook σ Record) := none
  beforeDestroy : Option (Hook σ Criteria) := none
  afterDestroy : Option (Hook σ Record) := none

namespace Hooks

variable {σ : Type}

/-- The hook for records at a place. -/
def recordHook? (hooks : Hooks σ) : HookName → Option (Hook σ Record)
  | .beforeCreate => hooks.beforeCreate
  | .afterCreate => hooks.afterCreate
  | .beforeUpdate => hooks.beforeUpdate
  | .afterUpdate => hooks.afterUpdate
  | .afterDestroy => hooks.afterDestroy
  | .beforeDestroy => none

/-- Whether there is a hook at a place. -/
def has (hooks : Hooks σ) (name : HookName) : Bool :=
  match name with
  | .beforeDestroy => hooks.beforeDestroy.isSome
  | other => (hooks.recordHook? other).isSome

/-- The places that have a hook, in order. -/
def registered (hooks : Hooks σ) : List HookName :=
  HookName.all.filter hooks.has

end Hooks

end RecordMapper
