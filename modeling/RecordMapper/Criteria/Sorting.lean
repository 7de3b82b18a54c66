import RecordMapper.Criteria.Basic

/-! # The order of records

Any two values can be compared, also values of different kinds: a missing value comes first, then null,
booleans, numbers, texts, lists and records. Two lists are as good as equal, and so are two records. The
terms of a sort are applied one after the other, and records that are equal by all of them stay in the
order they had.
-/

namespace RecordMapper

namespace Json

/-- The place of a value's kind among the kinds. -/
def kindRank : Json → Nat
  | .null => 0
  | .bool _ => 1
  | .number _ => 2
  | .text _ => 3
  | .list _ => 4
  | .record _ => 5

/-- The order of two values: that of their kinds, then that of their content. -/
def sortOrder (first second : Json) : Ordering :=
  (compare first.kindRank second.kindRank).then <|
    match first, second with
    | .bool first, .bool second => compare first second
    | .number first, .number second => first.order second
    | .text first, .text second => compare first second
    | _, _ => .eq

/-- The order of two values that may be missing. -/
def sortOrder? : Option Json → Option Json → Ordering
  | none, none => .eq
  | none, some _ => .lt
  | some _, none => .gt
  | some first, some second => first.sortOrder second

end Json

/-- The order that a direction makes of an ascending one. -/
def Direction.apply : Direction → Ordering → Ordering
  | .ascending, order => order
  | .descending, order => order.swap

namespace SortTerm

/-- The order of two records by the field of a term. -/
def order (term : SortTerm) (first second : Record) : Ordering :=
  term.direction.apply (Json.sortOrder? (Dictionary.get? first term.field) (Dictionary.get? second term.field))

/-- The order of two records by a list of terms: that of the first term that tells them apart. -/
def orderBy : List SortTerm → Record → Record → Ordering
  | [], _, _ => .eq
  | term :: rest, first, second => (term.order first second).then (orderBy rest first second)

/-- The records in the order of a list of terms. -/
def arrange (terms : List SortTerm) (records : List Record) : List Record :=
  records.mergeSort fun first second => (orderBy terms first second).isLE

end SortTerm

end RecordMapper
