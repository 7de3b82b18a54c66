import RecordMapper.Model.Basic
import RecordMapper.Registry.Error

/-! # Valid models

A model is checked among all models of its configuration: its key is a declared text or number, every
attribute is of exactly one kind and fits it, associations lead to models that exist and refer back,
and no column has two attributes.
-/

namespace RecordMapper

namespace Model

/-- The model of an identity among others. -/
def find? (models : List Model) (identity : String) : Option Model :=
  models.find? fun model => model.identity == identity

/-- The key has to be a declared text or number. -/
def checkPrimaryKey (model : Model) : Except InitError Unit :=
  match model.kind? model.primaryKey with
  | none => .error (.invalidPrimaryKey model.identity model.primaryKey .undeclared)
  | some (.scalar .string) | some (.scalar .number) => .ok ()
  | some _ => .error (.invalidPrimaryKey model.identity model.primaryKey .wrongKind)

/-- How many of the three kinds a definition declares. -/
def declaredKinds (declared : Attribute) : Nat :=
  declared.type.isSome.toNat + declared.model.isSome.toNat + declared.collection.isSome.toNat

/-- What is wrong with an attribute, its column apart. -/
def attributeFault? (model : Model) (models : List Model) (declared : Attribute) : Option AttributeFault :=
  if declaredKinds declared ≠ 1 then some .notOneKind
  else
    match declared.kind with
    | .scalar type =>
      if declared.via.isSome then some .viaWithoutCollection
      else if (declared.autoCreatedAt || declared.autoUpdatedAt) && type ≠ .string && type ≠ .number then
        some .stampedType
      else none
    | .model target => if (find? models target).isSome then none else some (.unknownModel target)
    | .collection target via =>
      match find? models target, via with
      | none, _ => some (.unknownCollection target)
      | some _, none => some .noVia
      | some child, some via =>
        if child.kind? via = some (.model model.identity) then none
        else some (.viaMismatch model.identity target)

/-- Attributes have to be sound, and those with a column must not use one that is taken. -/
def checkAttributes (model : Model) (models : List Model) (taken : List String) :
    List (String × Attribute) → Except InitError Unit
  | [] => .ok ()
  | (name, declared) :: rest =>
    match model.attributeFault? models declared with
    | some fault => .error (.invalidAttribute model.identity name fault)
    | none =>
      if declared.hasColumn then
        let column := declared.columnOf name
        if taken.contains column then .error (.duplicateColumn model.identity column)
        else checkAttributes model models (column :: taken) rest
      else checkAttributes model models taken rest

/-- A model has to be valid among the given ones. -/
def check (model : Model) (models : List Model) : Except InitError Unit := do
  model.checkPrimaryKey
  model.checkAttributes models [] model.attributes

end Model

end RecordMapper
