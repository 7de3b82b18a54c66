import RecordMapper.Json.Basic
import RecordMapper.Query.Iteratee
import RecordMapper.Query.Meta
import RecordMapper.Query.Method

/-! # Descriptions of queries

What a caller asks for, unchecked. A part that is absent and a part that is null are different.
-/

namespace RecordMapper

/-- A query as its caller describes it. -/
structure Description (σ : Type) where
  method : Method
  /-- The identity of the model. -/
  model : String
  criteria : Option Json := none
  /-- The values that an update sets. -/
  values : Option Json := none
  /-- A new record, or a list of them. -/
  records : Option Json := none
  /-- The attribute to aggregate over. -/
  numericAttribute : Option String := none
  /-- Associations to embed, each with criteria or a mark that it has none. -/
  populates : Option (Dictionary Json) := none
  eachRecord : Option (Continuation σ Record) := none
  eachBatch : Option (Continuation σ (List Record)) := none
  options : Meta := {}

end RecordMapper
