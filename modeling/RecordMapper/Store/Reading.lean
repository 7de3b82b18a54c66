import RecordMapper.Criteria.Selection
import RecordMapper.Query.Physical
import RecordMapper.Store.Basic

/-! # Reading from the store

`Store.find` answers with the rows that criteria select, each with its joins embedded, one join after
the other. `Store.count`, `Store.sum` and `Store.average` aggregate over the same rows.
-/

namespace RecordMapper

namespace Join

/-- What a join embeds in a row that holds no value in the parent's column, or that matches nothing. -/
def empty (join : Join) : Json :=
  if join.collection then .list [] else .null

/-- The criteria of the rows that a plural join embeds for a value of the parent's column. -/
def restricted (join : Join) (criteria : Criteria) (value : Json) : Criteria :=
  { criteria with clause := .and [.leaf ⟨join.childKey, .equals value⟩, criteria.clause] }

/-- What a join embeds in a row: out of the child's rows those that hold the value of the parent's
column, or the first of them. -/
def embed (join : Join) (children : List Record) (row : Record) : Json :=
  match Json.present? (Dictionary.get? row join.parentKey) with
  | none => join.empty
  | some value =>
    if join.collection then
      match join.criteria with
      | none => join.empty
      | some criteria =>
        .list (((join.restricted criteria value).select children).map fun child =>
          .record (child.project criteria.selection []))
    else
      let found := children.find? fun child =>
        match Dictionary.get? child join.childKey with
        | some key => key.same value
        | none => false
      (found.map Json.record).getD join.empty

/-- A row with the embedded value of a join under its field. -/
def attach (row : Record) (joined : Join × List Record) : Record :=
  Dictionary.insert row joined.1.field (joined.1.embed joined.2 row)

end Join

namespace Store

/-- The joins of a query with the rows of their child tables. -/
def children (store : Store) (datastore : String) (joins : List Join) :
    Except AdapterError (List (Join × List Record)) :=
  joins.mapM fun join => (store.rows datastore join.childTable).map fun rows => (join, rows)

/-- The rows that a query selects, with its joins embedded, cut down to what it shows. -/
def find (store : Store) (datastore : String) (query : PhysicalQuery) :
    Except AdapterError (List Record) := do
  let rows ← store.rows datastore query.table
  let children ← store.children datastore query.joins
  let joined := (query.criteria.select rows).map fun row => children.foldl Join.attach row
  return joined.map (Record.project query.criteria.selection (query.joins.map Join.field))

/-- How many rows a query selects. -/
def count (store : Store) (datastore : String) (query : PhysicalQuery) : Except AdapterError Nat := do
  let rows ← store.rows datastore query.table
  return (query.criteria.select rows).length

/-- The numbers that the rows of a query hold in its numeric column, as doubles. -/
def numbers (store : Store) (datastore : String) (query : PhysicalQuery) :
    Except AdapterError (List Double) := do
  match query.numericColumn with
  | none => throw (.ofMessage "No numeric column to aggregate")
  | some column =>
    let rows ← store.rows datastore query.table
    return (query.criteria.select rows).filterMap fun row =>
      (Dictionary.get? row column).bind Json.double?

/-- The sum over a query; `none` when it leaves the range of doubles. -/
def sum (store : Store) (datastore : String) (query : PhysicalQuery) :
    Except AdapterError (Option Double) :=
  (store.numbers datastore query).map Double.sum?

/-- The mean over a query, zero over no numbers; `none` when the sum leaves the range of doubles. -/
def average (store : Store) (datastore : String) (query : PhysicalQuery) :
    Except AdapterError (Option Double) :=
  (store.numbers datastore query).map fun numbers =>
    if numbers.isEmpty then some (.zero false)
    else (Double.sum? numbers).bind fun total => total.divideBy numbers.length

end Store

end RecordMapper
