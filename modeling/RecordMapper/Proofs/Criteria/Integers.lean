import Mathlib
import RecordMapper.Criteria.Matching
import RecordMapper.Proofs.Criteria.Sorting
import RecordMapper.Proofs.Double.Rounding

/-! # Integers in order

Range tests and sorts compare integers through the doubles nearest to them, and equality tests compare the integers
themselves. So two different integers with one nearest double are equal for the first and different for the second.
All that the order of integers promises holds of every other two, and so of all integers of up to 53 binary digits.
-/

namespace RecordMapper

/-- The integers that a JSON number can be. -/
def Number.InRange (value : Int) : Prop :=
  -2 ^ 63 ≤ value ∧ value < 2 ^ 64

instance (value : Int) : Decidable (Number.InRange value) :=
  inferInstanceAs (Decidable (_ ∧ _))

/-- A JSON integer. -/
def Json.integer (value : Int) : Json :=
  .number (.integer value)

/-- Two integers are one, or their nearest doubles are two. -/
def Double.Separates (value other : Int) : Prop :=
  value = other ∨ nearest value ≠ nearest other

instance (value other : Int) : Decidable (Double.Separates value other) :=
  inferInstanceAs (Decidable (_ ∨ _))

open Double

section Order

variable {value other : Int}

theorem nearest_lt_iff (apart : Separates value other) : nearest value < nearest other ↔ value < other := by
  rcases apart with rfl | apart
  · omega
  · constructor
    · intro less
      by_contra not_less
      have := nearest_mono (Int.not_lt.mp not_less)
      omega
    · intro less
      have := nearest_mono less.le
      omega

theorem Double.Separates.symm (apart : Separates value other) : Separates other value :=
  apart.imp Eq.symm Ne.symm

/-- Integers are compared as their nearest doubles. -/
theorem Number.order_integer (value_range : InRange value) (other_range : InRange other) :
    Number.order (.integer value) (.integer other) = compare (nearest value) (nearest other) := by
  obtain ⟨value_low, value_high⟩ := value_range
  obtain ⟨other_low, other_high⟩ := other_range
  change compare (ofInt value).units (ofInt other).units = _
  rw [units_ofInt (by omega), units_ofInt (by omega)]
  have positive : (0 : Int) < 2 ^ 1074 := Int.pow_pos (by decide)
  generalize (2 : Int) ^ 1074 = unit at positive
  simp only [compare, compareOfLessAndEq, Int.mul_lt_mul_right positive,
    Int.mul_eq_mul_right_iff positive.ne']

end Order

/-! ## Range tests -/

namespace Test

/-- The range tests of an integer against a bound tell how the two are ordered. -/
structure Ordered (value bound : Int) : Prop where
  above : (Test.above (Json.integer bound)).passes (Json.integer value) = true ↔ bound < value
  atLeast : (Test.atLeast (Json.integer bound)).passes (Json.integer value) = true ↔ bound ≤ value
  below : (Test.below (Json.integer bound)).passes (Json.integer value) = true ↔ value < bound
  atMost : (Test.atMost (Json.integer bound)).passes (Json.integer value) = true ↔ value ≤ bound

/-- The inclusive range tests of an integer against a bound pass what the strict one or the equality test passes. -/
structure Inclusive (value bound : Int) : Prop where
  atLeast : (Test.atLeast (Json.integer bound)).passes (Json.integer value) = true ↔
    (Test.above (Json.integer bound)).passes (Json.integer value) = true ∨
      (Test.equals (Json.integer bound)).passes (Json.integer value) = true
  atMost : (Test.atMost (Json.integer bound)).passes (Json.integer value) = true ↔
    (Test.below (Json.integer bound)).passes (Json.integer value) = true ∨
      (Test.equals (Json.integer bound)).passes (Json.integer value) = true

section Range

variable {value bound : Int}

theorem order?_integer (value_range : Number.InRange value) (bound_range : Number.InRange bound) :
    (Json.integer value).order? (Json.integer bound) = some (compare (nearest value) (nearest bound)) :=
  congrArg some (Number.order_integer value_range bound_range)

theorem above_integer (value_range : Number.InRange value) (bound_range : Number.InRange bound) :
    (Test.above (Json.integer bound)).passes (Json.integer value) = true ↔ nearest bound < nearest value := by
  simp only [passes, order?_integer value_range bound_range, beq_iff_eq, Option.some.injEq, compare_gt_iff_gt]

theorem below_integer (value_range : Number.InRange value) (bound_range : Number.InRange bound) :
    (Test.below (Json.integer bound)).passes (Json.integer value) = true ↔ nearest value < nearest bound := by
  simp only [passes, order?_integer value_range bound_range, beq_iff_eq, Option.some.injEq, compare_lt_iff_lt]

theorem atLeast_integer (value_range : Number.InRange value) (bound_range : Number.InRange bound) :
    (Test.atLeast (Json.integer bound)).passes (Json.integer value) = true ↔ nearest bound ≤ nearest value := by
  simp only [passes, order?_integer value_range bound_range, Bool.or_eq_true, beq_iff_eq, Option.some.injEq,
    compare_gt_iff_gt, compare_eq_iff_eq]
  omega

theorem atMost_integer (value_range : Number.InRange value) (bound_range : Number.InRange bound) :
    (Test.atMost (Json.integer bound)).passes (Json.integer value) = true ↔ nearest value ≤ nearest bound := by
  simp only [passes, order?_integer value_range bound_range, Bool.or_eq_true, beq_iff_eq, Option.some.injEq,
    compare_lt_iff_lt, compare_eq_iff_eq]
  omega

theorem equals_integer : (Test.equals (Json.integer bound)).passes (Json.integer value) = true ↔ value = bound := by
  simp [passes, Json.integer, Json.same, Number.same]

theorem ordered_iff (value_range : Number.InRange value) (bound_range : Number.InRange bound) :
    Ordered value bound ↔ Separates value bound := by
  constructor
  · intro ordered
    by_contra together
    obtain ⟨different, same⟩ := not_or.mp together
    have least := ordered.atLeast.mp ((atLeast_integer value_range bound_range).mpr (not_not.mp same).ge)
    have most := ordered.atMost.mp ((atMost_integer value_range bound_range).mpr (not_not.mp same).le)
    exact different (most.antisymm least)
  · intro apart
    have less := nearest_lt_iff apart
    have greater := nearest_lt_iff apart.symm
    constructor
    · rw [above_integer value_range bound_range, greater]
    · rw [atLeast_integer value_range bound_range]
      omega
    · rw [below_integer value_range bound_range, less]
    · rw [atMost_integer value_range bound_range]
      omega

theorem inclusive_iff (value_range : Number.InRange value) (bound_range : Number.InRange bound) :
    Inclusive value bound ↔ Separates value bound := by
  constructor
  · intro inclusive
    by_contra together
    obtain ⟨different, same⟩ := not_or.mp together
    have least := inclusive.atLeast.mp ((atLeast_integer value_range bound_range).mpr (not_not.mp same).ge)
    rw [above_integer value_range bound_range, equals_integer] at least
    have := not_not.mp same
    omega
  · intro apart
    have less := nearest_lt_iff apart
    have greater := nearest_lt_iff apart.symm
    constructor
    · rw [atLeast_integer value_range bound_range, above_integer value_range bound_range, equals_integer]
      omega
    · rw [atMost_integer value_range bound_range, below_integer value_range bound_range, equals_integer]
      omega

end Range

end Test

/-! ## Sorts -/

namespace SortTerm

/-- The integers that two records hold under a field ascend. -/
def Ascends (field : String) (first second : Record) : Prop :=
  ∀ value other, Dictionary.get? first field = some (Json.integer value) →
    Dictionary.get? second field = some (Json.integer other) → value ≤ other

/-- The integers that two records hold under a field ascend if they have one nearest double. -/
def TiesAscend (field : String) (first second : Record) : Prop :=
  ∀ value other, Dictionary.get? first field = some (Json.integer value) →
    Dictionary.get? second field = some (Json.integer other) → nearest value = nearest other → value ≤ other

/-- The integers that records hold under a field are in the range of JSON integers. -/
def InRange (field : String) (records : List Record) : Prop :=
  ∀ record ∈ records, ∀ value, Dictionary.get? record field = some (Json.integer value) → Number.InRange value

section Ascending

variable {field : String} {records : List Record} {first second : Record} {value other : Int}

theorem fieldOrder_integer (direction : Direction) (value_range : Number.InRange value)
    (other_range : Number.InRange other) (first_holds : Dictionary.get? first field = some (Json.integer value))
    (second_holds : Dictionary.get? second field = some (Json.integer other)) :
    (SortTerm.mk field direction).fieldOrder first second = compare (nearest value) (nearest other) := by
  rw [fieldOrder, first_holds, second_holds]
  exact Number.order_integer value_range other_range

/-- Records that an ascending sort puts in order have their integers in order. -/
theorem ascends_of_leads (range : InRange field records) (first_in : first ∈ records) (second_in : second ∈ records)
    (leads : Leads [⟨field, .ascending⟩] first second) : Ascends field first second := by
  intro value other first_holds second_holds
  have puts : (SortTerm.mk field .ascending).fieldOrder first second = .lt := leads_singleton.mp leads
  rw [fieldOrder_integer .ascending (range _ first_in _ first_holds) (range _ second_in _ second_holds) first_holds
    second_holds, compare_lt_iff_lt] at puts
  by_contra greater
  have := nearest_mono (Int.not_le.mp greater).le
  omega

/-- Records that an ascending sort leaves as they stand are those whose integers have one nearest double. -/
theorem ascends_of_tie_iff (range : InRange field records) (first_in : first ∈ records) (second_in : second ∈ records) :
    (TieBy [⟨field, .ascending⟩] first second → Ascends field first second) ↔ TiesAscend field first second := by
  have tie_iff {value other : Int} (first_holds : Dictionary.get? first field = some (Json.integer value))
      (second_holds : Dictionary.get? second field = some (Json.integer other)) :
      TieBy [⟨field, .ascending⟩] first second ↔ nearest value = nearest other := by
    rw [tieBy_singleton, Ties, fieldOrder_integer .ascending (range _ first_in _ first_holds)
      (range _ second_in _ second_holds) first_holds second_holds, compare_eq_iff_eq]
  constructor
  · intro ascends value other first_holds second_holds same
    exact ascends ((tie_iff first_holds second_holds).mpr same) value other first_holds second_holds
  · intro ascends tie value other first_holds second_holds
    exact ascends value other first_holds second_holds ((tie_iff first_holds second_holds).mp tie)

/-- An ascending sort by a field lists the integers under it in their order just when those with one nearest double
stood in their order before. -/
theorem pairwise_ascends_iff (range : InRange field records) :
    (arrange [⟨field, .ascending⟩] records).Pairwise (Ascends field) ↔ records.Pairwise (TiesAscend field) := by
  have perm : (arrange [⟨field, .ascending⟩] records).Perm records := List.mergeSort_perm records _
  calc
    _ ↔ (arrange [⟨field, .ascending⟩] records).Pairwise
          fun first second => TieBy [⟨field, .ascending⟩] first second → Ascends field first second := by
        constructor
        · intro all
          refine all.imp ?_
          intro first second ascends _
          exact ascends
        · intro tied
          refine ((pairwise_arrange [⟨field, .ascending⟩] records).and tied).imp_of_mem ?_
          rintro first second first_in second_in ⟨tie | leads, ascends⟩
          · exact ascends tie
          · exact ascends_of_leads range (perm.mem_iff.mp first_in) (perm.mem_iff.mp second_in) leads
    _ ↔ records.Pairwise
          fun first second => TieBy [⟨field, .ascending⟩] first second → Ascends field first second :=
        pairwise_arrange_iff ..
    _ ↔ records.Pairwise (TiesAscend field) :=
        List.Pairwise.iff_of_mem fun {_ _} first_in second_in => ascends_of_tie_iff range first_in second_in

/-- Range tests tell the order of a stored integer and a bound, and the inclusive ones pass what the strict ones or an
equality test passes, just when the two are one or their nearest doubles are two. An ascending sort lists integers in
their order just when those with one nearest double stood in their order before. Integers of up to 53 binary digits
are their own nearest doubles. -/
theorem integers_ordered_iff {bound : Int} (value_range : Number.InRange value) (bound_range : Number.InRange bound)
    (range : InRange field records) :
    (Test.Ordered value bound ↔ Separates value bound) ∧
    (Test.Inclusive value bound ↔ Separates value bound) ∧
    ((arrange [⟨field, .ascending⟩] records).Pairwise (Ascends field) ↔ records.Pairwise (TiesAscend field)) ∧
    (value.natAbs ≤ 2 ^ 53 → nearest value = value) :=
  ⟨Test.ordered_iff value_range bound_range, Test.inclusive_iff value_range bound_range, pairwise_ascends_iff range,
    nearest_eq⟩

/-- Two records in the wrong order, whose integers have one nearest double. -/
def neighbours : List Record :=
  [[("age", Json.integer 9007199254740993)], [("age", Json.integer 9007199254740992)]]

/-- The integer `2 ^ 53 + 1` is not compared with `2 ^ 53` as an integer, and a sort leaves the two as they stand. -/
theorem neighbours_not_ordered :
    ¬Test.Ordered 9007199254740993 9007199254740992 ∧
    ¬Test.Inclusive 9007199254740993 9007199254740992 ∧
    ¬(arrange [⟨"age", .ascending⟩] neighbours).Pairwise (Ascends "age") ∧
    nearest 9007199254740992 = 9007199254740992 := by
  have range : InRange "age" neighbours := by
    intro record record_in value holds
    simp only [neighbours, List.mem_cons, List.not_mem_nil, or_false] at record_in
    rcases record_in with rfl | rfl <;> cases holds <;> decide
  obtain ⟨ordered_iff, inclusive_iff, ascends_iff, -⟩ :=
    @integers_ordered_iff _ _ 9007199254740993 9007199254740992 (by decide) (by decide) range
  obtain ⟨-, -, -, own⟩ :=
    @integers_ordered_iff _ _ 9007199254740992 9007199254740992 (by decide) (by decide) range
  have together : ¬Separates 9007199254740993 9007199254740992 := by decide
  refine ⟨mt ordered_iff.mp together, mt inclusive_iff.mp together, fun sorted => ?_, own (by decide)⟩
  have ascend := List.rel_of_pairwise_cons (ascends_iff.mp sorted) (List.mem_singleton_self _)
  exact absurd (ascend _ _ rfl rfl (by decide)) (by decide)

end Ascending

end SortTerm

end RecordMapper
