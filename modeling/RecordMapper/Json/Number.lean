import RecordMapper.Double.Decimal

/-! # Numbers of JSON

A number is an integer or a double, as it was written: `1` and `1.0` are different numbers. They are
different for equality (`Number.same`) and equal for order, which compares doubles (`Number.order`).
-/

namespace RecordMapper

/-- A JSON number. Reading gives integers from `-2 ^ 63` up to `2 ^ 64 - 1` only. -/
inductive Number where
  | integer (value : Int)
  | double (value : Double)
deriving DecidableEq, Inhabited

namespace Number

/-- The double nearest to the number. -/
def toDouble : Number → Double
  | .integer value => Double.ofInt value
  | .double value => value

/-- The number as a count: an integer that is not negative. -/
def toNat? : Number → Option Nat
  | .integer value => if 0 ≤ value then some value.toNat else none
  | .double _ => none

/-- Equality: integers with integers exactly, doubles with doubles by value, and no other pair. -/
def same : Number → Number → Bool
  | .integer first, .integer second => first == second
  | .double first, .double second => first.same second
  | _, _ => false

/-- Order of the nearest doubles. -/
def order (first second : Number) : Ordering :=
  first.toDouble.order second.toDouble

/-- The integer that a JSON literal without fraction or exponent denotes, if it is in range. Minus
zero is not an integer. -/
def ofInteger? (negative : Bool) (digits : Nat) : Option Number :=
  if negative then
    if digits ≠ 0 ∧ digits ≤ Nat.pow 2 63 then some (.integer (-(digits : Int))) else none
  else if digits < Nat.pow 2 64 then some (.integer digits) else none

/-- The text of a double: positional from `0.00001` up to sixteen digits before the point, with an
exponent elsewhere. -/
def doubleText (value : Double) : String :=
  let sign := if value.negative then "-" else ""
  if value.mantissa = 0 then sign ++ "0.0" else sign ++ (Decimal.shortest value).text (-4) 16

/-- The text of a number. -/
def text : Number → String
  | .integer value => toString value
  | .double value => doubleText value

end Number

end RecordMapper
