/-
# The calendar

Days of the proleptic Gregorian calendar, counted from the first day of the year 1, which
has the number 1. A date given by its week is turned into a day number first and into year,
month and day afterwards.
-/

namespace Tenancy

/-- A day given by year, month and day of the month. -/
structure Date where
  year : Nat
  month : Nat
  day : Nat
deriving DecidableEq, Repr

namespace Calendar

/-- The last year that can be written with four digits. -/
def maxYear : Nat := 9999

/-- Leap years have a 29th of February. -/
def isLeap (year : Nat) : Bool :=
  year % 4 == 0 && (year % 100 != 0 || year % 400 == 0)

/-- The lengths of the months of a year. -/
def monthLengths (year : Nat) : List Nat :=
  [31, if isLeap year then 29 else 28, 31, 30, 31, 30, 31, 31, 30, 31, 30, 31]

/-- The length of a month, zero for a month that does not exist. -/
def monthLength (year month : Nat) : Nat :=
  if month = 0 then 0 else (monthLengths year).getD (month - 1) 0

/-- The number of days before a year. -/
def daysBeforeYear (year : Nat) : Nat :=
  let y := year - 1
  y * 365 + y / 4 - y / 100 + y / 400

/-- Split a day of the year, counted from zero, into month and day of the month. The month
lengths are those still ahead, the first of them belonging to `month`. -/
def splitDay (month : Nat) : List Nat → Nat → Nat × Nat
  | [], n => (month, n + 1)
  | len :: rest, n => if n < len then (month, n + 1) else splitDay (month + 1) rest (n - len)

end Calendar

namespace Date

open Calendar

/-- Whether year, month and day exist. -/
def isValid (d : Date) : Bool :=
  1 ≤ d.year && d.year ≤ maxYear && 1 ≤ d.month && d.month ≤ 12 && 1 ≤ d.day &&
    d.day ≤ monthLength d.year d.month

/-- The number of a day, the first day of the year 1 being 1. -/
def ordinal (d : Date) : Nat :=
  daysBeforeYear d.year + ((monthLengths d.year).take (d.month - 1)).foldr (· + ·) 0 + d.day

/-- The day of a given number. Whole cycles of 400, 100, 4 and 1 years are taken off in
turn; the last day of a cycle does not start another one. -/
def ofOrdinal (n : Nat) : Date :=
  let n := n - 1
  let n400 := n / 146097
  let n := n % 146097
  let n100 := min (n / 36524) 3
  let n := n - n100 * 36524
  let n4 := n / 1461
  let n := n % 1461
  let n1 := min (n / 365) 3
  let n := n - n1 * 365
  let year := n400 * 400 + n100 * 100 + n4 * 4 + n1 + 1
  let (month, day) := splitDay 1 (monthLengths year) n
  ⟨year, month, day⟩

/-- The day of the week, Monday being 0. -/
def weekday (d : Date) : Nat :=
  (d.ordinal + 6) % 7

/-- The number of the Monday that starts the first week of a year, the week that holds the
first Thursday. -/
def firstMonday (year : Nat) : Int :=
  let first : Date := ⟨year, 1, 1⟩
  let monday : Int := (first.ordinal : Int) - first.weekday
  if 3 < first.weekday then monday + 7 else monday

/-- Whether a year has a 53rd week: it starts on a Thursday, or on a Wednesday if it is a
leap year. -/
def hasWeek53 (year : Nat) : Bool :=
  let first := weekday ⟨year, 1, 1⟩
  first == 3 || (first == 2 && isLeap year)

/-- The day given by year, week and day of the week, Monday being 1. -/
def ofWeek? (year week day : Nat) : Option Date :=
  if year = 0 ∨ week = 0 ∨ 53 < week ∨ (week = 53 ∧ hasWeek53 year = false) ∨ day = 0 ∨ 7 < day then none
  else
    let n := firstMonday year + (week - 1) * 7 + (day - 1)
    if n < 1 then none else some (ofOrdinal n.toNat)

/-- A number with leading zeros up to a width. -/
def padded (width n : Nat) : String :=
  let digits := Nat.toDigits 10 n
  String.ofList (List.replicate (width - digits.length) '0' ++ digits)

/-- Year, month and day joined by hyphens. -/
def print (d : Date) : String :=
  padded 4 d.year ++ "-" ++ padded 2 d.month ++ "-" ++ padded 2 d.day

end Date

end Tenancy
