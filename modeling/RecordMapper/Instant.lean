/-! # Instants and their text

An instant is a whole number of nanoseconds from the start of 1970, in universal time. Its text is a
date, a time of day with a fraction of three, six or nine digits unless it is zero, and the offset `+00:00`.
The calendar is the Gregorian one, without end in either direction.
-/

namespace RecordMapper

/-- A length of time. A plain number stands for that many milliseconds. -/
structure Duration where
  nanoseconds : Int
deriving DecidableEq, Repr

/-- So many milliseconds. -/
def Duration.ofMilliseconds (count : Int) : Duration :=
  ⟨count * 1000000⟩

instance : Coe Int Duration :=
  ⟨Duration.ofMilliseconds⟩

instance (count : Nat) : OfNat Duration count :=
  ⟨Duration.ofMilliseconds count⟩

/-- A point in time, by the time that has passed since the start of 1970. -/
structure Instant where
  passed : Duration
deriving DecidableEq, Repr

namespace Instant

/-- The whole milliseconds from the start of 1970. -/
def milliseconds (instant : Instant) : Int :=
  instant.passed.nanoseconds / 1000000

theorem milliseconds_ofMilliseconds (count : Int) : milliseconds ⟨.ofMilliseconds count⟩ = count :=
  Int.mul_ediv_cancel count (by decide)

/-- A day of the Gregorian calendar. -/
structure Date where
  year : Int
  month : Nat
  day : Nat
deriving DecidableEq, Repr

/-- The date of a day counted from the start of 1970. Years are taken to begin in March, so that the
leap day ends them, and 400 of them have the same number of days always. -/
def dateOfDay (days : Int) : Date :=
  let shifted := days + 719468
  let era := shifted / 146097
  let dayOfEra := (shifted % 146097).toNat
  let yearOfEra := (dayOfEra - dayOfEra / 1460 + dayOfEra / 36524 - dayOfEra / 146096) / 365
  let dayOfYear := dayOfEra - (365 * yearOfEra + yearOfEra / 4 - yearOfEra / 100)
  let shiftedMonth := (5 * dayOfYear + 2) / 153
  let month := if shiftedMonth < 10 then shiftedMonth + 3 else shiftedMonth - 9
  let year := (yearOfEra : Int) + era * 400
  { year := if month ≤ 2 then year + 1 else year
    month := month
    day := dayOfYear - (153 * shiftedMonth + 2) / 5 + 1 }

/-- A number with zeros before it up to a width. -/
def padded (width number : Nat) : String :=
  let digits := Nat.toDigits 10 number
  String.ofList (List.replicate (width - digits.length) '0' ++ digits)

/-- Four digits; outside the years 0 to 9999 a sign and at least four digits. -/
def yearText (year : Int) : String :=
  if 0 ≤ year ∧ year ≤ 9999 then padded 4 year.natAbs
  else (if year < 0 then "-" else "+") ++ padded 4 year.natAbs

/-- The fraction of a second: three, six or nine digits, as few as show all of it, and nothing for none. -/
def fractionText (nanoseconds : Nat) : String :=
  if nanoseconds = 0 then ""
  else if nanoseconds % 1000000 = 0 then "." ++ padded 3 (nanoseconds / 1000000)
  else if nanoseconds % 1000 = 0 then "." ++ padded 6 (nanoseconds / 1000)
  else "." ++ padded 9 nanoseconds

/-- The text of an instant. -/
def text (instant : Instant) : String :=
  let seconds := instant.passed.nanoseconds / 1000000000
  let nanoseconds := (instant.passed.nanoseconds % 1000000000).toNat
  let date := dateOfDay (seconds / 86400)
  let ofDay := (seconds % 86400).toNat
  yearText date.year ++ "-" ++ padded 2 date.month ++ "-" ++ padded 2 date.day ++ "T" ++
    padded 2 (ofDay / 3600) ++ ":" ++ padded 2 (ofDay / 60 % 60) ++ ":" ++ padded 2 (ofDay % 60) ++
    fractionText nanoseconds ++ "+00:00"

end Instant

end RecordMapper
