import RecordMapper.Model.Basic

/-! # Attributes and columns

`Columns` is the two-way correspondence between the attribute names of a model and the columns of its
table. `Columns.lower` takes a record to a row and refuses a name without a column; `Columns.raise`
takes a row to a record, keeps columns that no attribute claims, and refuses a row in which two
columns would get one name.
-/

namespace RecordMapper

/-- Why a name could not be taken to the other side. -/
inductive TransformError where
  /-- An attribute without a column. -/
  | unknownAttribute (model name : String)
  /-- A column whose attribute is the name of another field of the row already. -/
  | collision (model column name : String)
  /-- The model of an association does not exist. -/
  | unknownModel (identity : String)
deriving DecidableEq, Repr, Inhabited

/-- The text of the error. -/
def TransformError.message : TransformError → String
  | .unknownAttribute model name =>
    s!"Attribute '{name}' of model '{model}' has no physical column"
  | .collision model column name =>
    s!"Column '{column}' and another field both map to attribute '{name}' of model '{model}'"
  | .unknownModel identity => s!"Model '{identity}' is not registered"

/-- The columns of a model's attributes and the attributes of its table's columns. -/
structure Columns where
  model : String
  ofAttribute : Dictionary String
  ofColumn : Dictionary String
deriving Inhabited

namespace Columns

/-- The correspondence that a model declares. Should two attributes share a column, the later one in
name order owns it. -/
def ofModel (model : Model) : Columns where
  model := model.identity
  ofAttribute := Dictionary.ofList (model.stored.map fun entry => (entry.1, entry.2.columnOf entry.1))
  ofColumn := Dictionary.ofList (model.stored.map fun entry => (entry.2.columnOf entry.1, entry.1))

/-- The column of an attribute. -/
def column? (columns : Columns) (name : String) : Option String :=
  Dictionary.get? columns.ofAttribute name

/-- The attribute of a column. -/
def attribute? (columns : Columns) (column : String) : Option String :=
  Dictionary.get? columns.ofColumn column

/-- The column of an attribute, or the error that it has none. -/
def column (columns : Columns) (name : String) : Except TransformError String :=
  match columns.column? name with
  | some column => .ok column
  | none => .error (.unknownAttribute columns.model name)

/-- A record as a row of the table. Every field has to be an attribute with a column. -/
def lower (columns : Columns) (record : Record) : Except TransformError Record := do
  let entries ← record.mapM fun entry => (columns.column entry.1).map fun column => (column, entry.2)
  return Dictionary.ofList entries

/-- The name that the value of a column has in a record. -/
def nameOf (columns : Columns) (column : String) : String :=
  (columns.attribute? column).getD column

/-- The fields of a row added to a record under their attribute names, in order. -/
def raiseInto (columns : Columns) (record : Record) : List (String × Json) → Except TransformError Record
  | [] => .ok record
  | (column, value) :: rest =>
    let name := columns.nameOf column
    if Dictionary.contains record name then .error (.collision columns.model column name)
    else raiseInto columns (Dictionary.insert record name value) rest

/-- A row of the table as a record. -/
def raise (columns : Columns) (row : Record) : Except TransformError Record :=
  raiseInto columns [] row

end Columns

end RecordMapper
