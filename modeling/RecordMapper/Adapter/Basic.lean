import RecordMapper.Adapter.Error
import RecordMapper.Query.Physical

/-! # Adapters

An adapter keeps the rows of tables. It works on an environment of any type `σ`, and nothing is
assumed of what it answers: every reply is checked before it is used.
-/

namespace RecordMapper

/-- The description of a table that an adapter gets before any query. -/
structure TableDefinition where
  table : String
  /-- The column of the key. -/
  primaryKey : String
  /-- The adapter numbers rows that come without a key. -/
  autoIncrement : Bool := false
  /-- The columns whose values are distinct. -/
  uniqueColumns : List String := []
deriving DecidableEq, Repr, Inhabited

/-- What an adapter completes a query with: a value, or nothing, or an error. -/
abbrev AdapterReply := Except AdapterError (Option Json)

/-- Something that keeps tables and answers physical queries. -/
structure Adapter (σ : Type) where
  identity : String
  /-- Takes the description of a table of a datastore. -/
  define : String → TableDefinition → σ → Except AdapterError Unit × σ
  /-- Answers a query to a datastore; without an answer the method is not implemented. -/
  answer? : String → PhysicalQuery → σ → Option (AdapterReply × σ)

/-- An adapter that works on a part of a larger environment. -/
def Adapter.within {σ τ : Type} (part : σ → τ) (put : σ → τ → σ) (adapter : Adapter τ) : Adapter σ where
  identity := adapter.identity
  define datastore table environment :=
    let (result, rest) := adapter.define datastore table (part environment)
    (result, put environment rest)
  answer? datastore query environment :=
    (adapter.answer? datastore query (part environment)).map fun (reply, rest) =>
      (reply, put environment rest)

end RecordMapper
