/-! # Finite binary64 numbers

A `Double` is a sign, a mantissa and a power of two, in the one form that binary64 stores. The value
of a double is a whole number of units of `2 ^ -1074`, so order, equality and exact sums are those of
integers, and every inexact result is one rounding of an exact fraction (`Double.ofRatio`).
Infinities and values that are no numbers are not doubles: an operation whose result leaves the
finite range answers `none`.
-/

namespace RecordMapper

/-- The mantissas and exponents that binary64 stores: 53 bits, the leading one set unless the
exponent is the least one. -/
abbrev Double.Canonical (mantissa : Nat) (exponent : Int) : Prop :=
  mantissa < Nat.pow 2 53 ∧ -1074 ≤ exponent ∧ exponent ≤ 971 ∧
    (Nat.pow 2 52 ≤ mantissa ∨ exponent = -1074)

/-- A finite binary64 number, `mantissa * 2 ^ exponent` with a sign; zero has two signs. -/
structure Double where
  negative : Bool
  mantissa : Nat
  exponent : Int
  canonical : Double.Canonical mantissa exponent
deriving DecidableEq

namespace Double

/-- Zero with the given sign. -/
def zero (negative : Bool) : Double :=
  ⟨negative, 0, -1074, by decide⟩

/-- The largest finite number with the given sign. -/
def largest (negative : Bool) : Double :=
  ⟨negative, Nat.pow 2 53 - 1, 971, by decide⟩

instance : Inhabited Double := ⟨zero false⟩

/-- The value counted in units of `2 ^ -1074`. -/
def units (number : Double) : Int :=
  let size := number.mantissa * Nat.pow 2 (number.exponent + 1074).toNat
  if number.negative then -size else size

/-- The order of the values; the two zeros are equal. -/
def order (first second : Double) : Ordering :=
  compare first.units second.units

/-- Equality of the values; the two zeros are equal. -/
def same (first second : Double) : Bool :=
  first.units == second.units

/-- The whole number nearest to a fraction, of two equally near ones the even one. -/
def roundHalfEven (numerator denominator : Nat) : Nat :=
  let quotient := numerator / denominator
  let twice := 2 * (numerator % denominator)
  if twice < denominator then quotient
  else if denominator < twice then quotient + 1
  else quotient + quotient % 2

/-- A mantissa of at most `2 ^ 53` brought to canonical form; `none` when it is out of range. -/
def pack (negative : Bool) (mantissa : Nat) (exponent : Int) : Option Double :=
  if carried : mantissa = Nat.pow 2 53 ∧ Canonical (Nat.pow 2 52) (exponent + 1) then
    some ⟨negative, Nat.pow 2 52, exponent + 1, carried.2⟩
  else if canonical : Canonical mantissa exponent then
    some ⟨negative, mantissa, exponent, canonical⟩
  else
    none

/-- The double nearest to a fraction with positive denominator, of two equally near ones the one
with the even mantissa; `none` when the fraction rounds past the largest double. -/
def ofRatio (negative : Bool) (numerator denominator : Nat) : Option Double :=
  if numerator = 0 then
    some (zero negative)
  else
    let high : Int := numerator.log2 - denominator.log2 - 52
    let exceeds :=
      numerator * Nat.pow 2 (-high).toNat < Nat.pow 2 52 * (denominator * Nat.pow 2 high.toNat)
    let exponent := max (if exceeds then high - 1 else high) (-1074)
    let mantissa :=
      roundHalfEven (numerator * Nat.pow 2 (-exponent).toNat) (denominator * Nat.pow 2 exponent.toNat)
    pack negative mantissa exponent

/-- The double nearest to an integer; past the range it is the largest double. -/
def ofInt (value : Int) : Double :=
  (ofRatio (value < 0) value.natAbs 1).getD (largest (value < 0))

/-- The double nearest to the sum. An exact sum of zero is negative only when both addends are. -/
def add (first second : Double) : Option Double :=
  let total := first.units + second.units
  if total = 0 then
    some (zero (first.negative && second.negative))
  else
    ofRatio (total < 0) total.natAbs (Nat.pow 2 1074)

/-- The double nearest to the product. -/
def multiply (first second : Double) : Option Double :=
  ofRatio (first.negative != second.negative) (first.units.natAbs * second.units.natAbs)
    (Nat.pow 2 2148)

/-- The double nearest to the quotient by a double that is not zero. -/
def divide (number divisor : Double) : Option Double :=
  ofRatio (number.negative != divisor.negative) number.units.natAbs divisor.units.natAbs

/-- The double nearest to the quotient by a positive count. -/
def divideBy (number : Double) (count : Nat) : Option Double :=
  ofRatio number.negative number.units.natAbs (count * Nat.pow 2 1074)

/-- The sum of a list from left to right, starting at zero; `none` once it leaves the finite range. -/
def sum? (numbers : List Double) : Option Double :=
  numbers.foldl (fun sofar number => sofar.bind fun total => total.add number) (some (zero false))

/-- The number itself, except that zero loses its sign. -/
def unsignedZero (number : Double) : Double :=
  if number.mantissa = 0 then zero false else number

theorem order_eq_eq_iff (first second : Double) :
    first.order second = .eq ↔ first.units = second.units := by
  simp only [order, Std.LawfulEqOrd.compare_eq_iff_eq]

theorem order_swap (first second : Double) : (first.order second).swap = second.order first := by
  simp only [order, Std.OrientedCmp.eq_swap (a := second.units)]

end Double

end RecordMapper
