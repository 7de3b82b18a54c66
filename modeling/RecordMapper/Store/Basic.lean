import RecordMapper.Store.Table

/-! # The store

A store keeps tables by datastore and name. Describing a table that is there already keeps its rows.
-/

namespace RecordMapper

/-- Tables in memory, and the keys for their rows. -/
structure Store where
  /-- The tables of each datastore. -/
  datastores : Dictionary (Dictionary Table) := []
  keys : KeySupply

namespace Store

/-- The tables of a datastore. -/
def tablesOf (store : Store) (datastore : String) : Dictionary Table :=
  (Dictionary.get? store.datastores datastore).getD []

/-- The table of a name, or the error that there is none. -/
def table (store : Store) (datastore name : String) : Except AdapterError Table :=
  match Dictionary.get? (store.tablesOf datastore) name with
  | some table => .ok table
  | none => .error (.ofMessage s!"Unknown table `{name}` in datastore `{datastore}`")

/-- The store with a table under a name. -/
def put (store : Store) (datastore name : String) (table : Table) : Store :=
  let tables := Dictionary.insert (store.tablesOf datastore) name table
  { store with datastores := Dictionary.insert store.datastores datastore tables }

/-- The rows of a table, in the order in which they were added. -/
def rows (store : Store) (datastore name : String) : Except AdapterError (List Record) :=
  (store.table datastore name).map Table.rows

/-- The store with a table of the given definition. -/
def define (store : Store) (datastore : String) (definition : TableDefinition) : Store :=
  let table :=
    match Dictionary.get? (store.tablesOf datastore) definition.table with
    | some table => { table with definition }
    | none => { definition }
  store.put datastore definition.table table

end Store

end RecordMapper
