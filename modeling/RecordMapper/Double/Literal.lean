import RecordMapper.Double.Basic

/-! # Reading decimal literals

A literal is read with the arithmetic of doubles. Its digits are gathered to a significand of at most
64 bits, the significand is rounded to a double, and that is multiplied or divided by a power of ten
that is rounded too. Up to `2 ^ 53` the significand is exact and so are the powers up to `10 ^ 22`:
there the one rounding of the scaling makes the reading nearest. Longer literals, and larger powers,
may miss the nearest double by a few last places.
-/

namespace RecordMapper

/-- The part of a decimal literal that is kept: `significand * 10 ^ exponent`. -/
structure Literal where
  significand : Nat
  exponent : Int
deriving DecidableEq, Repr

namespace Literal

/-- A significand with digits appended for as long as it stays below `2 ^ 64`, and the digits that
are left. -/
def gather (significand : Nat) : List Nat → Nat × List Nat
  | [] => (significand, [])
  | digit :: rest =>
    let longer := 10 * significand + digit
    if longer < Nat.pow 2 64 then gather longer rest else (significand, digit :: rest)

/-- The literal with these digits before and after the point and this written exponent. The digits of
the fraction are gathered after the others. Digits left over before the point raise the exponent by
their number; those left over after the point are dropped. -/
def ofDigits (whole fraction : List Nat) (exponent : Int) : Literal :=
  let (start, passed) := gather 0 whole
  let (significand, dropped) := gather start fraction
  ⟨significand, exponent + passed.length - (fraction.length - dropped.length : Nat)⟩

/-- The double nearest to a power of ten; it is finite up to `10 ^ 308`. -/
def powerOfTen (exponent : Nat) : Double :=
  Double.ofInt (Nat.pow 10 exponent : Nat)

/-- A double up to `2 ^ 64` times a power of ten, `none` past the finite range. A power below
`10 ^ -308` is divided out in two steps, and one below `10 ^ -616` leaves nothing. -/
def scale (number : Double) (exponent : Int) : Option Double :=
  if number.mantissa = 0 ∨ exponent < -616 then some (Double.zero number.negative)
  else if exponent < -308 then
    (number.divide (powerOfTen 308)).bind (Double.divide · (powerOfTen (-exponent - 308).toNat))
  else if exponent < 0 then number.divide (powerOfTen (-exponent).toNat)
  else if exponent ≤ 308 then number.multiply (powerOfTen exponent.toNat)
  else none

/-- The double that a literal with this sign denotes. -/
def toDouble? (literal : Literal) (negative : Bool) : Option Double :=
  (Double.ofRatio negative literal.significand 1).bind (scale · literal.exponent)

end Literal

end RecordMapper
