import Mathlib
import RecordMapper.Json.Number

/-! # Integers as doubles

The double nearest to an integer has the value of an integer again, `Double.nearest`: the last binary digits are rounded
off until 53 are left. Rounding keeps the order of integers but not their differences, and it changes none of up to 53
digits.
-/

namespace RecordMapper

namespace Double

/-! ## Rounding fractions -/

section Fractions

variable {numerator other denominator count : Nat}

theorem quotient_le_roundHalfEven (numerator denominator : Nat) :
    numerator / denominator ≤ roundHalfEven numerator denominator := by
  unfold roundHalfEven
  dsimp only
  split
  · exact Nat.le_refl _
  · split <;> omega

theorem roundHalfEven_le_succ (numerator denominator : Nat) :
    roundHalfEven numerator denominator ≤ numerator / denominator + 1 := by
  unfold roundHalfEven
  dsimp only
  split
  · omega
  · split <;> omega

/-- What does not exceed a fraction does not exceed it rounded. -/
theorem le_roundHalfEven (positive : 0 < denominator) (within : count * denominator ≤ numerator) :
    count ≤ roundHalfEven numerator denominator :=
  ((Nat.le_div_iff_mul_le positive).mpr within).trans (quotient_le_roundHalfEven ..)

/-- A whole number is not rounded. -/
theorem roundHalfEven_mul (positive : 0 < denominator) (count : Nat) :
    roundHalfEven (count * denominator) denominator = count := by
  simp [roundHalfEven, positive]

/-- What a fraction does not exceed, it does not exceed rounded. -/
theorem roundHalfEven_le (positive : 0 < denominator) (within : numerator ≤ count * denominator) :
    roundHalfEven numerator denominator ≤ count := by
  rcases Nat.eq_or_lt_of_le within with rfl | less
  · exact Nat.le_of_eq (roundHalfEven_mul positive count)
  · have quotient : numerator / denominator < count := Nat.div_lt_of_lt_mul (by rwa [Nat.mul_comm])
    exact (roundHalfEven_le_succ ..).trans quotient

/-- Rounding keeps the order of fractions. -/
theorem roundHalfEven_mono (le : numerator ≤ other) :
    roundHalfEven numerator denominator ≤ roundHalfEven other denominator := by
  rcases Nat.eq_or_lt_of_le (Nat.div_le_div_right (c := denominator) le) with same | less
  · -- within one unit, the larger fraction leaves the larger remainder
    have remainders : numerator % denominator ≤ other % denominator := by
      have first := Nat.div_add_mod numerator denominator
      have second := Nat.div_add_mod other denominator
      rw [← same] at second
      omega
    unfold roundHalfEven
    dsimp only
    rw [same]
    repeat' split
    all_goals omega
  · exact ((roundHalfEven_le_succ ..).trans less).trans (quotient_le_roundHalfEven ..)

end Fractions

/-! ## Rounding whole numbers -/

/-- How many of the last binary digits of a whole number are rounded off. -/
def droppedDigits (size : Nat) : Nat :=
  size.log2 - 52

/-- The whole number that a whole number is rounded to. -/
def nearestSize (size : Nat) : Nat :=
  roundHalfEven size (2 ^ droppedDigits size) * 2 ^ droppedDigits size

/-- The integer that the double nearest to an integer stands for. -/
def nearest (value : Int) : Int :=
  if value < 0 then -nearestSize value.natAbs else nearestSize value.natAbs

section Whole

variable {size other : Nat}

theorem droppedDigits_le_log2 (size : Nat) : droppedDigits size ≤ size.log2 :=
  Nat.sub_le ..

theorem pow_eq_mul (size : Nat) :
    2 ^ size.log2 = 2 ^ (size.log2 - droppedDigits size) * 2 ^ droppedDigits size := by
  rw [← Nat.pow_add, Nat.sub_add_cancel (droppedDigits_le_log2 size)]

/-- The digits that are left of a whole number, rounded, are as many as before, or they carry over. -/
theorem digits_bounds (notZero : size ≠ 0) :
    2 ^ (size.log2 - droppedDigits size) ≤ roundHalfEven size (2 ^ droppedDigits size) ∧
      roundHalfEven size (2 ^ droppedDigits size) ≤ 2 ^ (size.log2 - droppedDigits size + 1) := by
  have low : 2 ^ size.log2 ≤ size := Nat.log2_self_le notZero
  have high : size < 2 ^ (size.log2 + 1) := Nat.lt_log2_self
  have positive : 0 < 2 ^ droppedDigits size := Nat.two_pow_pos _
  constructor
  · refine le_roundHalfEven positive ?_
    rw [← pow_eq_mul size]
    exact low
  · refine roundHalfEven_le positive ?_
    rw [Nat.pow_succ', Nat.mul_assoc, ← pow_eq_mul size, ← Nat.pow_succ']
    exact high.le

theorem nearestSize_bounds (notZero : size ≠ 0) :
    2 ^ size.log2 ≤ nearestSize size ∧ nearestSize size ≤ 2 ^ (size.log2 + 1) := by
  obtain ⟨low, high⟩ := digits_bounds notZero
  constructor
  · rw [pow_eq_mul size]
    exact Nat.mul_le_mul_right _ low
  · rw [Nat.pow_succ', pow_eq_mul size, ← Nat.mul_assoc, ← Nat.pow_succ']
    exact Nat.mul_le_mul_right _ high

theorem nearestSize_mono (le : size ≤ other) : nearestSize size ≤ nearestSize other := by
  by_cases zero : size = 0
  · subst zero
    simp [nearestSize, roundHalfEven]
  have otherNotZero : other ≠ 0 := by omega
  rcases Nat.lt_or_ge size.log2 other.log2 with fewer | more
  · calc
      nearestSize size ≤ 2 ^ (size.log2 + 1) := (nearestSize_bounds zero).2
      _ ≤ 2 ^ other.log2 := Nat.pow_le_pow_right (by decide) fewer
      _ ≤ nearestSize other := (nearestSize_bounds otherNotZero).1
  · have same : size.log2 = other.log2 := by
      have reaches : 2 ^ size.log2 ≤ other := (Nat.log2_self_le zero).trans le
      have := (Nat.le_log2 otherNotZero).mpr reaches
      omega
    rw [nearestSize, nearestSize, droppedDigits, droppedDigits, same]
    exact Nat.mul_le_mul_right _ (roundHalfEven_mono le)

/-- A whole number of at most 53 digits is not rounded. -/
theorem nearestSize_eq (small : size ≤ 2 ^ 53) : nearestSize size = size := by
  rcases Nat.eq_or_lt_of_le small with rfl | less
  · decide
  · have none : droppedDigits size = 0 := by
      by_cases zero : size = 0
      · subst zero
        decide
      · have := (Nat.log2_lt zero).mpr less
        unfold droppedDigits
        omega
    rw [nearestSize, none]
    simpa using roundHalfEven_mul Nat.one_pos size

end Whole

theorem nearest_mono {value other : Int} (le : value ≤ other) : nearest value ≤ nearest other := by
  unfold nearest
  split
  · split
    · have := nearestSize_mono (show other.natAbs ≤ value.natAbs by omega)
      omega
    · omega
  · split
    · omega
    · have := nearestSize_mono (show value.natAbs ≤ other.natAbs by omega)
      omega

theorem nearest_eq {value : Int} (small : value.natAbs ≤ 2 ^ 53) : nearest value = value := by
  rw [nearest, nearestSize_eq small]
  split <;> omega

/-! ## The double nearest to an integer -/

/-- A mantissa of 53 binary digits, or the next power of two, is packed as it is. -/
theorem units_of_pack {negative : Bool} {mantissa : Nat} {exponent : Int} (low : 2 ^ 52 ≤ mantissa)
    (high : mantissa ≤ 2 ^ 53) (least : -1074 ≤ exponent) (greatest : exponent ≤ 970) :
    ∃ number, pack negative mantissa exponent = some number ∧
      number.units = (if negative then -1 else 1) * (mantissa * 2 ^ (exponent + 1074).toNat : Nat) := by
  by_cases carried : mantissa = 2 ^ 53
  · subst carried
    have canonical : Canonical (Nat.pow 2 52) (exponent + 1) := ⟨by decide, by omega, by omega, .inl (by decide)⟩
    refine ⟨⟨negative, Nat.pow 2 52, exponent + 1, canonical⟩, dif_pos ⟨rfl, canonical⟩, ?_⟩
    have shift : (exponent + 1 + 1074).toNat = (exponent + 1074).toNat + 1 := by omega
    have same : Nat.pow 2 52 * Nat.pow 2 (exponent + 1 + 1074).toNat = 2 ^ 53 * 2 ^ (exponent + 1074).toNat := by
      rw [shift]
      change 2 ^ 52 * 2 ^ ((exponent + 1074).toNat + 1) = _
      rw [Nat.pow_succ']
      ring
    unfold units
    dsimp only
    rw [same]
    cases negative <;> simp
  · have canonical : Canonical mantissa exponent := ⟨Nat.lt_of_le_of_ne high carried, least, by omega, .inl low⟩
    refine ⟨⟨negative, mantissa, exponent, canonical⟩,
      (dif_neg fun both => carried both.1).trans (dif_pos canonical), ?_⟩
    change (if negative then -((mantissa * 2 ^ (exponent + 1074).toNat : Nat) : Int) else _) = _
    cases negative <;> simp

/-- How many binary digits a whole number lacks of 53. -/
def missingDigits (size : Nat) : Nat :=
  52 - size.log2

/-- The mantissa of the double nearest to a whole number. -/
def fittedDigits (size : Nat) : Nat :=
  roundHalfEven (size * 2 ^ missingDigits size) (2 ^ droppedDigits size)

section Nearest

variable {size : Nat}

/-- A whole number has 53 digits once the missing ones are filled up or the others dropped. -/
theorem pow_mul_pow (size : Nat) :
    2 ^ 52 * 2 ^ droppedDigits size = 2 ^ size.log2 * 2 ^ missingDigits size := by
  rw [← Nat.pow_add, ← Nat.pow_add]
  congr 1
  unfold droppedDigits missingDigits
  omega

theorem fittedDigits_bounds (notZero : size ≠ 0) : 2 ^ 52 ≤ fittedDigits size ∧ fittedDigits size ≤ 2 ^ 53 := by
  have positive : 0 < 2 ^ droppedDigits size := Nat.two_pow_pos _
  constructor
  · refine le_roundHalfEven positive ?_
    rw [pow_mul_pow]
    exact Nat.mul_le_mul_right _ (Nat.log2_self_le notZero)
  · refine roundHalfEven_le positive ?_
    rw [Nat.pow_succ', Nat.mul_assoc, pow_mul_pow, ← Nat.mul_assoc, ← Nat.pow_succ']
    exact Nat.mul_le_mul_right _ Nat.lt_log2_self.le

/-- The mantissa stands for the rounded number, in units of any number of binary places from 52 on. -/
theorem fittedDigits_mul {places : Nat} (size : Nat) (enough : 52 ≤ places) :
    fittedDigits size * 2 ^ ((size.log2 : Int) - 52 + places).toNat = nearestSize size * 2 ^ places := by
  rcases Nat.le_total size.log2 52 with short | long
  · have dropped : droppedDigits size = 0 := Nat.sub_eq_zero_of_le short
    have shift : missingDigits size + ((size.log2 : Int) - 52 + places).toNat = places := by
      unfold missingDigits
      omega
    have whole (count : Nat) : roundHalfEven count 1 = count := by
      simpa using roundHalfEven_mul Nat.one_pos count
    rw [fittedDigits, nearestSize, dropped, Nat.pow_zero, whole, whole, Nat.mul_one, Nat.mul_assoc, ← Nat.pow_add,
      shift]
  · have missing : missingDigits size = 0 := Nat.sub_eq_zero_of_le long
    have shift : ((size.log2 : Int) - 52 + places).toNat = droppedDigits size + places := by
      unfold droppedDigits
      omega
    rw [fittedDigits, nearestSize, missing, Nat.pow_zero, Nat.mul_one, shift, Nat.pow_add, Nat.mul_assoc]

/-- A whole number is brought to 53 digits and rounded. -/
theorem ofRatio_one {negative : Bool} (notZero : size ≠ 0) :
    ofRatio negative size 1 = pack negative (fittedDigits size) (size.log2 - 52) := by
  have one : Nat.log2 1 = 0 := by decide
  have missing : (-((size.log2 : Int) - 52)).toNat = missingDigits size := by
    unfold missingDigits
    omega
  have dropped : ((size.log2 : Int) - 52).toNat = droppedDigits size := by
    unfold droppedDigits
    omega
  have reached : 2 ^ 52 * 2 ^ droppedDigits size ≤ size * 2 ^ missingDigits size := by
    rw [pow_mul_pow]
    exact Nat.mul_le_mul_right _ (Nat.log2_self_le notZero)
  have least : max ((size.log2 : Int) - 52) (-1074) = size.log2 - 52 := by omega
  unfold ofRatio
  simp only [notZero, one, if_false, Nat.cast_zero, Int.sub_zero, missing, dropped, Nat.one_mul]
  rw [if_neg (by exact Nat.not_lt.mpr reached), least, missing, dropped]
  rfl

end Nearest

/-- The double nearest to an integer of at most 64 digits has the value `nearest`. -/
theorem units_ofInt {value : Int} (range : value.natAbs < 2 ^ 64) :
    (ofInt value).units = nearest value * 2 ^ 1074 := by
  by_cases zero : value = 0
  · have nearest_zero : nearest 0 = 0 := by decide
    rw [zero, nearest_zero, Int.zero_mul]
    rfl
  have notZero : value.natAbs ≠ 0 := by omega
  have few : value.natAbs.log2 < 64 := (Nat.log2_lt notZero).mpr range
  obtain ⟨low, high⟩ := fittedDigits_bounds notZero
  obtain ⟨number, packed, number_units⟩ :=
    @units_of_pack (decide (value < 0)) _ (value.natAbs.log2 - 52) low high (by omega) (by omega)
  have is_number : ofInt value = number := by
    rw [ofInt, ofRatio_one notZero, packed]
    rfl
  have size_units := @fittedDigits_mul 1074 value.natAbs (by decide)
  rw [Nat.cast_ofNat] at size_units
  rw [is_number, number_units, size_units, nearest, Nat.cast_mul, Nat.cast_pow, Nat.cast_ofNat,
    ← Int.mul_assoc]
  congr 1
  by_cases below : value < 0 <;> simp [below]

end Double

end RecordMapper
