import RecordMapper.Query.Logical
import RecordMapper.Query.Physical

/-! # From logical to physical queries

`LogicalQuery.lower` replaces attributes by columns throughout. An omission becomes the selection of
everything else, and the associations to embed become joins. The foreign keys that joins need are
shown even when they were not selected: the key column of a singular association on the row itself,
and the column that refers back on the rows of a plural one.
-/

namespace RecordMapper

namespace LogicalQuery

variable {σ : Type}

/-- Criteria whose omission, if any, is written as a selection. -/
def resolveOmission (model : Model) (criteria : Criteria) : Criteria :=
  if criteria.omission.isEmpty then criteria
  else
    let kept := (Dictionary.names model.stored).filter fun name => !criteria.omission.contains name
    { criteria with selection := some kept, omission := [] }

/-- A name added at the end of a selection, unless it is there or everything is selected. -/
def showing (name : String) (criteria : Criteria) : Criteria :=
  match criteria.selection with
  | some names => if names.contains name then criteria else { criteria with selection := some (names ++ [name]) }
  | none => criteria

/-- The model of an association. -/
def target (registry : Registry σ) (identity : String) : Except TransformError (RegisteredModel σ) :=
  match registry.model? identity with
  | some registered => .ok registered
  | none => .error (.unknownModel identity)

/-- The join that embeds an association of a model. -/
def join (registry : Registry σ) (parent : RegisteredModel σ) (populate : String × Option Criteria) :
    Except TransformError Join := do
  let (name, criteria) := populate
  let unknown : TransformError := .unknownAttribute parent.identity name
  let declared ←
    match parent.model.attribute? name with
    | some declared => .ok declared
    | none => .error unknown
  let parentKey ← parent.columns.column parent.model.primaryKey
  match declared.kind with
  | .model identity =>
    let child ← target registry identity
    return {
      field := name
      parentKey := ← parent.columns.column name
      childTable := child.model.table
      childKey := ← child.columns.column child.model.primaryKey
      childModel := child.identity
      collection := false
      criteria := some {} }
  | .collection identity via =>
    let child ← target registry identity
    let via ←
      match via with
      | some via => .ok via
      | none => .error unknown
    let childKey ← child.columns.column via
    let criteria ←
      match criteria with
      | some criteria => ((showing via criteria).rename child.columns.column).map some
      | none => .ok none
    return {
      field := name
      parentKey
      childTable := child.model.table
      childKey
      childModel := child.identity
      collection := true
      criteria }
  | .scalar _ => .error unknown

/-- Criteria that show the foreign keys of the singular associations among joins. -/
def showKeys (criteria : Criteria) (joins : List Join) : Criteria :=
  joins.foldl (fun criteria join => if join.collection then criteria else showing join.field criteria) criteria

/-- The query in terms of the columns of a model. -/
def lower (query : LogicalQuery σ) (registered : RegisteredModel σ) (registry : Registry σ) :
    Except TransformError PhysicalQuery := do
  let columns := registered.columns
  let joins ← query.populates.mapM (join registry registered)
  let shown := showKeys (resolveOmission registered.model query.criteria) joins
  let criteria ← shown.rename columns.column
  let values ←
    match query.values with
    | some values => (columns.lower values).map some
    | none => .ok none
  let records ← query.records.mapM columns.lower
  let numericColumn ←
    match query.numericAttribute with
    | some name => (columns.column name).map some
    | none => .ok none
  return {
    method := query.method
    table := registered.model.table
    criteria, values, records, numericColumn, joins
    options := query.options }

end LogicalQuery

end RecordMapper
