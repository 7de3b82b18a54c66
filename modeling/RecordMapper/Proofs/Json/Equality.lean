import RecordMapper.Json.Basic

/-! # Equality of values is symmetric

Filters, uniqueness and joins compare values by `Json.same`. Which of two values stands first makes
no difference, at any depth of lists and records, and null equals nothing but null.
-/

namespace RecordMapper

theorem Double.same_comm (first second : Double) : first.same second = second.same first := by
  simp only [Double.same, Bool.beq_comm]

theorem Number.same_comm (first second : Number) : first.same second = second.same first := by
  cases first <;> cases second <;> simp only [Number.same, Double.same_comm, Bool.beq_comm]

namespace Json

mutual

theorem same_comm (first second : Json) : first.same second = second.same first := by
  cases first <;> cases second <;> simp only [same, Number.same_comm, Bool.beq_comm]
  case list.list items others => exact sameItems_comm items others
  case record.record fields others => exact sameFields_comm fields others

theorem sameItems_comm (items others : List Json) :
    sameItems items others = sameItems others items := by
  match items, others with
  | [], [] => rfl
  | [], _ :: _ => rfl
  | _ :: _, [] => rfl
  | first :: rest, second :: others =>
    simp only [sameItems, same_comm first second, sameItems_comm rest others]

theorem sameFields_comm (fields others : List (String × Json)) :
    sameFields fields others = sameFields others fields := by
  match fields, others with
  | [], [] => rfl
  | [], _ :: _ => rfl
  | _ :: _, [] => rfl
  | (name, first) :: rest, (other, second) :: others =>
    simp only [sameFields, same_comm first second, sameFields_comm rest others, Bool.beq_comm]

end

/-- A value that equals one that is not null is not null. -/
theorem isNull_of_same {first second : Json} (same : first.same second = true) :
    first.isNull = second.isNull := by
  cases first <;> cases second <;> first | rfl | exact absurd same Bool.false_ne_true

end Json

end RecordMapper
