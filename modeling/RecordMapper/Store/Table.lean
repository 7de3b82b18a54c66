import RecordMapper.Adapter.Basic
import RecordMapper.Criteria.Matching

/-! # Tables

A table holds rows in the order in which they were added. A row that comes without a key gets one: the
next number, or a fresh text. Numbers are counted in 64 bits, so the one after the largest is zero. A write
that would give two rows one value in the key or in a unique column, null apart, is refused and changes
nothing.
-/

namespace RecordMapper

/-- A source of fresh keys for tables that do not number their rows. -/
structure KeySupply where
  /-- The keys, in the order in which they are given out. -/
  draw : Nat → String
  /-- How many of them have been given out. -/
  used : Nat := 0

/-- The next key, and what is left. -/
def KeySupply.next (supply : KeySupply) : String × KeySupply :=
  (supply.draw supply.used, { supply with used := supply.used + 1 })

/-- The columns that hold distinct values: the key, then the others. -/
def TableDefinition.distinctColumns (definition : TableDefinition) : List String :=
  definition.primaryKey :: definition.uniqueColumns.filter fun column => column ≠ definition.primaryKey

namespace Record

/-- Whether two rows hold the same value in a column. Null is the same as nothing. -/
def clashes (row other : Record) (column : String) : Bool :=
  match Json.present? (Dictionary.get? row column), Dictionary.get? other column with
  | some value, some found => found.same value
  | _, _ => false

/-- The first of some columns in which a row holds the same value as one of other rows. -/
def collision? (columns : List String) (row : Record) (others : List Record) : Option String :=
  columns.find? fun column => others.any fun other => row.clashes other column

end Record

/-- A table: its definition, its rows, and the number for the next row without a key. -/
structure Table where
  definition : TableDefinition
  rows : List Record := []
  nextNumber : UInt64 := 1
deriving Inhabited

namespace Table

/-- A row with its key. A key that is given stays, and if it is a number, the count goes past it, as far as 64
bits go. -/
def keyed (table : Table) (supply : KeySupply) (row : Record) : Record × Table × KeySupply :=
  let key := table.definition.primaryKey
  match Json.present? (Dictionary.get? row key) with
  | some value =>
    match value.nat? with
    | some number =>
      (row, { table with nextNumber := max table.nextNumber (.ofNatClamp (number + 1)) }, supply)
    | none => (row, table, supply)
  | none =>
    if table.definition.autoIncrement then
      (Dictionary.insert row key (.ofNat table.nextNumber.toNat),
        { table with nextNumber := table.nextNumber + 1 }, supply)
    else
      let (fresh, supply) := supply.next
      (Dictionary.insert row key (.text fresh), table, supply)

/-- Add one row, or answer with the column that it clashes in. -/
def add (table : Table) (supply : KeySupply) (row : Record) :
    Except String (Record × Table) × KeySupply :=
  let (row, table, supply) := table.keyed supply row
  match row.collision? table.definition.distinctColumns table.rows with
  | some column => (.error column, supply)
  | none => (.ok (row, { table with rows := table.rows ++ [row] }), supply)

/-- Add rows in order, or answer with the column that the first one to clash does so in. -/
def addAll (table : Table) (supply : KeySupply) :
    List Record → Except String (List Record × Table) × KeySupply
  | [] => (.ok ([], table), supply)
  | row :: rest =>
    match table.add supply row with
    | (.error column, supply) => (.error column, supply)
    | (.ok (row, table), supply) =>
      match table.addAll supply rest with
      | (.error column, supply) => (.error column, supply)
      | (.ok (rows, table), supply) => (.ok (row :: rows, table), supply)

/-- The column in which the first one of updated rows to clash does so. A row can clash with an earlier
one of them in a column that is being set, or with one of the other rows in any distinct column. -/
def updateCollision? (distinct changed : List String) (others : List Record) :
    List Record → List Record → Option String
  | _, [] => none
  | earlier, row :: rest =>
    ((row.collision? (distinct.filter fun column => changed.contains column) earlier).or
      (row.collision? distinct others)).or
      (updateCollision? distinct changed others (earlier ++ [row]) rest)

/-- Write values over the rows that match, or answer with the column that one of them would clash in. -/
def update (table : Table) (clause : Clause) (values : Record) :
    Except String (List Record × Table) :=
  let (matched, others) := table.rows.partition fun row => clause.accepts row
  let updated := matched.map fun row => Dictionary.insertAll row values
  match updateCollision? table.definition.distinctColumns (Dictionary.names values) others [] updated with
  | some column => .error column
  | none =>
    let rows := table.rows.map fun row =>
      if clause.accepts row then Dictionary.insertAll row values else row
    .ok (updated, { table with rows })

/-- Take out the rows that match. -/
def destroy (table : Table) (clause : Clause) : List Record × Table :=
  let (matched, others) := table.rows.partition fun row => clause.accepts row
  (matched, { table with rows := others })

end Table

end RecordMapper
