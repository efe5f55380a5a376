/-
# Dates and times of day

A date of the Gregorian calendar, which is carried back to all years; the year
before the year one is the year zero. Days are numbered from the first of
January 1970, so that the days between two dates are a difference.

Key definitions: `Calendar.Date`, `Calendar.Date.dayNumber`,
`Calendar.Date.ofDayNumber`, `Calendar.Time`.
-/
import ControllerSynthesis.Number.Digits

namespace ControllerSynthesis.Calendar

/-- A year, a month of it and a day of that. -/
structure Date where
  year : Int
  month : Nat
  day : Nat
  deriving Repr, DecidableEq

/-- A time of day. -/
structure Time where
  hour : Nat
  minute : Nat
  second : Nat
  nanosecond : Nat
  deriving Repr, DecidableEq

/-- A number with leading zeros up to `width` digits. -/
def padded (width n : Nat) : List Char :=
  Digits.padded 10 width n

/-- The fraction of a second behind its point without zeros at the end; nothing
if there is none. -/
def fractionText (nanosecond : Nat) : List Char :=
  if nanosecond = 0 then []
  else '.' :: ((padded 9 nanosecond).reverse.dropWhile (· == '0')).reverse

namespace Date

/-- Whether a year has a 29th of February. -/
def isLeap (year : Int) : Bool :=
  year % 4 == 0 && (year % 100 != 0 || year % 400 == 0)

/-- The number of days of a month. -/
def monthLength (year : Int) (month : Nat) : Nat :=
  if month = 2 then (if isLeap year then 29 else 28)
  else if month = 4 ∨ month = 6 ∨ month = 9 ∨ month = 11 then 30
  else 31

/-- The number of days in the months before month `m`, counted from March. -/
def daysBefore (m : Int) : Int :=
  (153 * m + 2) / 5

/-- The number of days from the first of March of the year zero to the first of
January 1970. -/
def epoch : Int := 719468

/-- The number of the day. -/
def dayNumber (d : Date) : Int :=
  let y : Int := if d.month ≤ 2 then d.year - 1 else d.year
  let m : Int := if d.month ≤ 2 then (d.month : Int) + 9 else (d.month : Int) - 3
  365 * y + y / 4 - y / 100 + y / 400 + daysBefore m + (d.day : Int) - 1 - epoch

/-- The date of the day with a number. -/
def ofDayNumber (n : Int) : Date :=
  let day := n + epoch
  let era := day / 146097
  let d := day % 146097
  let y := (d - d / 1460 + d / 36524 - d / 146096) / 365
  let r := d - (365 * y + y / 4 - y / 100)
  let m := (5 * r + 2) / 153
  let month := if m < 10 then m + 3 else m - 9
  ⟨y + era * 400 + (if month ≤ 2 then 1 else 0), month.toNat, (r - daysBefore m + 1).toNat⟩

/-- The year behind its sign, if it has one, with four digits; with six if it is
negative and `wide`. -/
def yearText (wide : Bool) (year : Int) : List Char :=
  if year < 0 then '-' :: padded (if wide then 6 else 4) year.natAbs else padded 4 year.natAbs

/-- The date with hyphens between its parts. -/
def text (wide : Bool) (d : Date) : List Char :=
  yearText wide d.year ++ '-' :: padded 2 d.month ++ '-' :: padded 2 d.day

end Date

namespace Time

/-- The whole seconds since midnight. -/
def seconds (t : Time) : Nat :=
  t.hour * 3600 + t.minute * 60 + t.second

/-- The time at a number of whole seconds since midnight. -/
def ofSeconds (n : Nat) : Time :=
  ⟨n / 3600, n / 60 % 60, n % 60, 0⟩

/-- The time with colons between its parts and the fraction that it has. -/
def text (t : Time) : List Char :=
  padded 2 t.hour ++ ':' :: padded 2 t.minute ++ ':' :: padded 2 t.second ++
    fractionText t.nanosecond

end Time

end ControllerSynthesis.Calendar
