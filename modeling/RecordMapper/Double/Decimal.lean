import RecordMapper.Double.Basic

/-! # The shortest decimal of a double

`Decimal.shortest` gives the fewest digits that round to a double, and of those the ones nearest to
it. The numbers that round to a double form an interval around it. A grid of `n` digits has a point
in that interval only if one of the two grid points next to the double lies in it, so the first `n`
for which one does is the least number of digits.
-/

namespace RecordMapper

/-- A positive decimal fraction: the digits of a whole number, read as `0.digits * 10 ^ point`. -/
structure Decimal where
  digits : Nat
  point : Int
deriving DecidableEq, Repr

namespace Decimal

/-- How many decimal digits a whole number has. -/
def digitCount (number : Nat) : Nat :=
  (Nat.toDigits 10 number).length

/-- The power of ten next above a positive fraction: the least `point` with
`numerator / denominator < 10 ^ point`. -/
def pointOf (numerator denominator : Nat) : Int :=
  if denominator ≤ numerator then
    digitCount (numerator / denominator)
  else
    1 - digitCount (denominator / numerator)

/-- The grid point of `numerator / denominator` next to a value that lies within an interval, if
there is one; of two the nearer, of two equally near ones the even one. The value and the ends of the
interval are given as whole numbers of grid steps times `denominator`. -/
def gridPoint? (value low high : Nat) (closed : Bool) (denominator : Nat) : Option Nat :=
  let below := value / denominator
  let above := below + 1
  let inside (least most : Nat) : Bool := if closed then least ≤ most else least < most
  match inside low (below * denominator), inside (above * denominator) high with
  | true, true =>
    let down := value - below * denominator
    let up := above * denominator - value
    if down < up then some below
    else if up < down then some above
    else some (below + below % 2)
  | true, false => some below
  | false, true => some above
  | false, false => none

/-- The first number of digits, counting up from `count`, whose grid has a point within the interval
of a double; `fuel` bounds the search. -/
def search (quarters low high : Nat) (closed : Bool) (exponent point : Int) : Nat → Nat → Decimal
  | 0, _ => ⟨quarters, point⟩
  | fuel + 1, count =>
    let step := point - count
    let scale := Nat.pow 2 exponent.toNat * Nat.pow 10 (-step).toNat
    let denominator := Nat.pow 2 (-exponent).toNat * Nat.pow 10 step.toNat
    match gridPoint? (quarters * scale) (low * scale) (high * scale) closed denominator with
    | some digits => if digits = Nat.pow 10 count then ⟨1, point + 1⟩ else ⟨digits, point⟩
    | none => search quarters low high closed exponent point fuel (count + 1)

/-- The shortest decimal that rounds to a nonzero double; seventeen digits always do. The interval
is counted in quarters of the double's last place: half a place to each side, but a quarter below a
power of two. -/
def shortest (number : Double) : Decimal :=
  let quarters := 4 * number.mantissa
  let exponent := number.exponent - 2
  let low :=
    if number.mantissa = Nat.pow 2 52 ∧ -1074 < number.exponent then quarters - 1 else quarters - 2
  let point := pointOf (quarters * Nat.pow 2 exponent.toNat) (Nat.pow 2 (-exponent).toNat)
  search quarters low (quarters + 2) (number.mantissa % 2 == 0) exponent point 17 1

/-- The digits as text, with a point after as many of them as `point` says, and an exponent of ten
when that number is not from `least` to `most`. A fraction of zero is written `.0` before an absent
exponent only. -/
def text (least most : Int) (decimal : Decimal) : String :=
  let digits := Nat.toDigits 10 decimal.digits
  let count := digits.length
  if least ≤ decimal.point ∧ decimal.point ≤ 0 then
    String.ofList ("0.".toList ++ List.replicate (-decimal.point).toNat '0' ++ digits)
  else if 0 < decimal.point ∧ decimal.point ≤ most then
    let whole := decimal.point.toNat
    if count ≤ whole then
      String.ofList (digits ++ List.replicate (whole - count) '0' ++ ".0".toList)
    else
      String.ofList (digits.take whole ++ '.' :: digits.drop whole)
  else
    let fraction := if count = 1 then [] else '.' :: digits.drop 1
    let exponent := decimal.point - 1
    let sign := if exponent < 0 then '-' else '+'
    String.ofList (digits.take 1 ++ fraction ++ 'e' :: sign :: Nat.toDigits 10 exponent.natAbs)

end Decimal

end RecordMapper
