import RecordMapper.Store.Reading

/-! # The store as an adapter

`Store.answer?` answers every method but streams, which are read as a series of finds. A mutation
answers with the rows it affected if they are to be fetched, and with nothing otherwise. A sum that is
no number is answered with null.
-/

namespace RecordMapper

namespace Store

/-- The rows that a mutation affected, if they are to be fetched. -/
def fetched (query : PhysicalQuery) (rows : List Record) : Option Json :=
  if query.options.fetch then some (.list (rows.map .record)) else none

/-- Put the outcome of a mutation of a table into the store: the new table and the affected rows, or
the error of the column that clashes. -/
def settle (store : Store) (datastore : String) (query : PhysicalQuery) :
    Except String (List Record × Table) → AdapterReply × Store
  | .ok (rows, table) => (.ok (fetched query rows), store.put datastore query.table table)
  | .error column => (.error (.notUnique [column]), store)

/-- Add the records of a query, all or none. -/
def create (store : Store) (datastore : String) (query : PhysicalQuery) : AdapterReply × Store :=
  match store.table datastore query.table with
  | .error error => (.error error, store)
  | .ok table =>
    let (result, keys) := table.addAll store.keys query.records
    settle { store with keys } datastore query result

/-- Write the values of a query over the rows it selects, over all or none. -/
def update (store : Store) (datastore : String) (query : PhysicalQuery) : AdapterReply × Store :=
  match store.table datastore query.table with
  | .error error => (.error error, store)
  | .ok table => settle store datastore query (table.update query.criteria.clause (query.values.getD []))

/-- Take out the rows that a query selects. -/
def destroy (store : Store) (datastore : String) (query : PhysicalQuery) : AdapterReply × Store :=
  match store.table datastore query.table with
  | .error error => (.error error, store)
  | .ok table => settle store datastore query (.ok (table.destroy query.criteria.clause))

/-- A double as a value; what is no number is null. -/
def numberOrNull (value : Option Double) : Json :=
  (value.map fun value => Json.number (.double value)).getD .null

/-- What the store answers to a query, and the store after it. -/
def answer? (store : Store) (datastore : String) (query : PhysicalQuery) : Option (AdapterReply × Store) :=
  match query.method with
  | .create | .createEach => some (store.create datastore query)
  | .update => some (store.update datastore query)
  | .destroy => some (store.destroy datastore query)
  | .find => some ((store.find datastore query).map fun rows => some (.list (rows.map .record)), store)
  | .count => some ((store.count datastore query).map fun count => some (.ofNat count), store)
  | .sum => some ((store.sum datastore query).map fun sum => some (numberOrNull sum), store)
  | .avg => some ((store.average datastore query).map fun mean => some (numberOrNull mean), store)
  | .stream => none

/-- The adapter that keeps its rows in a store. -/
def adapter : Adapter Store where
  identity := "memory"
  define datastore definition store := (.ok (), store.define datastore definition)
  answer? datastore query store := store.answer? datastore query

end Store

end RecordMapper
