import RecordMapper.Dictionary
import RecordMapper.Json.Number

/-! # JSON values

Values of records, criteria and replies. The fields of a record form a `Dictionary`, so they have one
order whatever order they were written in. `Json.same` is the equality that filters, uniqueness and
joins use: it follows `Number.same`, so it tells `1` from `1.0` and not `0.0` from `-0.0`.
-/

namespace RecordMapper

/-- A JSON value. -/
inductive Json where
  | null
  | bool (value : Bool)
  | number (value : Number)
  | text (content : String)
  | list (items : List Json)
  | record (fields : List (String × Json))
deriving Inhabited

/-- A record: a JSON value under each of its field names. -/
abbrev Record := Dictionary Json

namespace Json

mutual

/-- Equality of values. Records are equal when they hold equal values under the same names. -/
def same : Json → Json → Bool
  | .null, .null => true
  | .bool first, .bool second => first == second
  | .number first, .number second => first.same second
  | .text first, .text second => first == second
  | .list first, .list second => sameItems first second
  | .record first, .record second => sameFields first second
  | _, _ => false

/-- Equality of lists, item by item. -/
def sameItems : List Json → List Json → Bool
  | [], [] => true
  | first :: rest, second :: others => same first second && sameItems rest others
  | _, _ => false

/-- Equality of fields, one by one in order. -/
def sameFields : List (String × Json) → List (String × Json) → Bool
  | [], [] => true
  | (name, first) :: rest, (other, second) :: others =>
    name == other && same first second && sameFields rest others
  | _, _ => false

end

mutual

/-- Every record within the value has its names in strictly increasing order. -/
def Sorted : Json → Prop
  | .list items => SortedItems items
  | .record fields => Dictionary.Sorted fields ∧ SortedFields fields
  | _ => True

/-- Every item of a list is sorted throughout. -/
def SortedItems : List Json → Prop
  | [] => True
  | item :: rest => Sorted item ∧ SortedItems rest

/-- Every field of a record is sorted throughout. -/
def SortedFields : List (String × Json) → Prop
  | [] => True
  | (_, value) :: rest => Sorted value ∧ SortedFields rest

end

/-- A whole number as a value. -/
def ofNat (value : Nat) : Json := .number (.integer value)

def isNull : Json → Bool
  | .null => true
  | _ => false

def isText : Json → Bool
  | .text _ => true
  | _ => false

def isNumber : Json → Bool
  | .number _ => true
  | _ => false

def isBool : Json → Bool
  | .bool _ => true
  | _ => false

def isList : Json → Bool
  | .list _ => true
  | _ => false

def isRecord : Json → Bool
  | .record _ => true
  | _ => false

/-- The content of a text. -/
def text? : Json → Option String
  | .text content => some content
  | _ => none

/-- The value as a count: an integer that is not negative. -/
def nat? : Json → Option Nat
  | .number value => value.toNat?
  | _ => none

/-- The double nearest to a number. -/
def double? : Json → Option Double
  | .number value => some value.toDouble
  | _ => none

/-- The value under a name, of a record that has it. -/
def field? : Json → String → Option Json
  | .record fields, name => Dictionary.get? fields name
  | _, _ => none

/-- Whether a value of a record can be told apart from an absent one: it is there and not null. -/
def present? (value : Option Json) : Option Json :=
  value.filter fun value => !value.isNull

end Json

end RecordMapper
