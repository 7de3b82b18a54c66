import RecordMapper.Criteria.Basic
import RecordMapper.Query.Meta
import RecordMapper.Query.Method

/-! # Physical queries

What an adapter is asked: tables and columns only, the shown columns spelled out, and associations as
joins.
-/

namespace RecordMapper

/-- One association to embed in every row. -/
structure Join where
  /-- The field that the associated rows are embedded under. -/
  field : String
  /-- The column of the row whose value the associated rows hold. -/
  parentKey : String
  childTable : String
  /-- The column of the associated rows that holds it. -/
  childKey : String
  /-- The identity of the associated model. -/
  childModel : String
  /-- A list of rows is embedded, not at most one. -/
  collection : Bool := false
  /-- Which associated rows are meant; without criteria none. -/
  criteria : Option Criteria := none
deriving Inhabited

/-- A query in terms of tables and columns. -/
structure PhysicalQuery where
  method : Method
  table : String
  criteria : Criteria := {}
  /-- The values that an update writes over rows. -/
  values : Option Record := none
  /-- The rows that a create adds. -/
  records : List Record := []
  /-- The column to aggregate over. -/
  numericColumn : Option String := none
  joins : List Join := []
  options : Meta := {}
deriving Inhabited

end RecordMapper
