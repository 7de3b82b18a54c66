import RecordMapper.Json.Printer

/-! # Faults of replies and records

An adapter is not trusted. A reply that may not stand for the answer to a query is a `Breach`, and a
record that does not fit its model is a `Drift`.
-/

namespace RecordMapper

/-- What an adapter may not answer with. -/
inductive Breach where
  /-- A failure with a value that is no error. -/
  | notError (value : Json)
  | notRows (reply : Option Json)
  /-- A row, with its place in the reply, that is no dictionary. -/
  | notRow (index : Nat) (value : Json)
  /-- A create answered with the given number of rows. -/
  | notOneRow (count : Nat)
  | notCount (reply : Option Json)
  | notNumber (reply : Option Json)
deriving Inhabited

namespace Breach

/-- The text of a reply. -/
def textOf : Option Json → String
  | none => "nothing"
  | some value => value.compact

/-- What is wrong, in words. -/
def message : Breach → String
  | .notError value => s!"expected an error value, but got: {value.compact}"
  | .notRows reply => s!"expected a list of records, but got: {textOf reply}"
  | .notRow index value => s!"expected record #{index} to be a dictionary, but got: {value.compact}"
  | .notOneRow count => s!"expected exactly one created record, but got {count}"
  | .notCount reply => s!"expected a non-negative integer, but got: {textOf reply}"
  | .notNumber reply => s!"expected a number, but got: {textOf reply}"

end Breach

/-- How a record does not fit its model. -/
inductive Drift where
  | noKey (primaryKey : String)
  | misfit (name : String) (value : Json)
  /-- What stands under the field of a join is not of its kind. -/
  | embeddedShape (field : String) (value : Json)
  /-- An item of an embedded list is no record. -/
  | embeddedItem (field : String) (value : Json)
deriving Inhabited

/-- What is wrong, in words. -/
def Drift.message : Drift → String
  | .noKey primaryKey => s!"record is missing its primary key `{primaryKey}`"
  | .misfit name value => s!"attribute `{name}` holds an unexpected value: {value.compact}"
  | .embeddedShape field value => s!"populated `{field}` has an unexpected shape: {value.compact}"
  | .embeddedItem field value => s!"populated `{field}` contains a non-record: {value.compact}"

end RecordMapper
