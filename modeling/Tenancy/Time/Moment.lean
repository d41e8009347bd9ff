/-
# Moments

A moment is a day and a time of day, with or without the distance of its clock from
universal time. An instant is a point on the universal clock, counted in microseconds from
the start of the year 1; stamps and generated times are printed from instants.
-/

import Tenancy.Time.Calendar
import Tenancy.Number.Binary64

namespace Tenancy

/-- A day and a time of day. -/
structure Moment where
  date : Date
  hour : Nat
  minute : Nat
  second : Nat
  microsecond : Nat
  offset : Option Int
deriving DecidableEq, Repr

/-- A point in time: microseconds since the start of the year 1. -/
structure Instant where
  /-- The number of microseconds. -/
  microseconds : Int
deriving DecidableEq, Repr

namespace Moment

/-- The number of microseconds of a day. -/
def dayLength : Nat := 86400000000

/-- Whether all parts exist and the clock is less than a day away from universal time. -/
def isValid (m : Moment) : Bool :=
  m.date.isValid && m.hour < 24 && m.minute < 60 && m.second < 60 && m.microsecond < 1000000 &&
    (match m.offset with
      | some o => o.natAbs < dayLength
      | none => true)

/-- Hour, minute and second joined by colons. -/
def printClock (hour minute second : Nat) : String :=
  Date.padded 2 hour ++ ":" ++ Date.padded 2 minute ++ ":" ++ Date.padded 2 second

/-- A fraction of a second: six digits, or nothing at a full second. -/
def printFraction (microsecond : Nat) : String :=
  if microsecond = 0 then "" else "." ++ Date.padded 6 microsecond

/-- Day and time of day without the offset. -/
def printLocal (m : Moment) : String :=
  m.date.print ++ "T" ++ printClock m.hour m.minute m.second ++ printFraction m.microsecond

/-- An offset in full: hours and minutes, and seconds with their fraction when there are
any. -/
def printOffset (o : Int) : String :=
  let total := o.natAbs
  let seconds := total / 1000000
  let rest := total % 1000000
  let sign := if o < 0 then "-" else "+"
  let hm := Date.padded 2 (seconds / 3600) ++ ":" ++ Date.padded 2 (seconds / 60 % 60)
  sign ++ hm ++
    (if seconds % 60 = 0 ∧ rest = 0 then "" else ":" ++ Date.padded 2 (seconds % 60) ++ printFraction rest)

/-- A moment in full. -/
def print (m : Moment) : String :=
  m.printLocal ++ (match m.offset with
    | some o => printOffset o
    | none => "")

/-- The offset as results carry it: `Z` for universal time, otherwise hours and minutes
only. -/
def printShortOffset (o : Int) : String :=
  let seconds := (o.natAbs + 500000) / 1000000
  if seconds = 0 then "Z"
  else
    (if o < 0 then "-" else "+") ++ Date.padded 2 (seconds / 3600) ++ ":" ++
      Date.padded 2 (seconds / 60 % 60)

/-- A moment as results carry it. -/
def printResult (m : Moment) : String :=
  m.printLocal ++ (match m.offset with
    | some o => printShortOffset o
    | none => "")

/-- The instant a moment denotes; without an offset it is taken to be universal time. -/
def toInstant (m : Moment) : Instant :=
  let clock := ((m.hour * 60 + m.minute) * 60 + m.second) * 1000000 + m.microsecond
  let days : Int := m.date.ordinal
  ⟨(days - 1) * dayLength + clock - m.offset.getD 0⟩

end Moment

namespace Instant

/-- The first instant after the last year. -/
def limit : Int := Calendar.daysBeforeYear (Calendar.maxYear + 1) * Moment.dayLength

/-- The moment of universal time at an instant. -/
def toMoment (t : Instant) : Moment :=
  let n := t.microseconds.toNat
  let clock := n % Moment.dayLength
  let seconds := clock / 1000000
  { date := .ofOrdinal (n / Moment.dayLength + 1)
    hour := seconds / 3600
    minute := seconds / 60 % 60
    second := seconds % 60
    microsecond := clock % 1000000
    offset := some 0 }

/-- The stamp of an instant: universal time cut to milliseconds, with a `Z`. -/
def stamp (t : Instant) : String :=
  let m := t.toMoment
  m.date.print ++ "T" ++ Moment.printClock m.hour m.minute m.second ++ "." ++
    Date.padded 3 (m.microsecond / 1000) ++ "Z"

/-- The instant in full, with its offset of zero. -/
def print (t : Instant) : String :=
  t.toMoment.print

/-- The integer nearest to `num / den`, an exact half going to the even neighbour. -/
def roundSigned (num : Int) (den : Nat) : Int :=
  let n := Binary64.roundDiv num.natAbs den
  if num < 0 then -(n : Int) else n

/-- A number of minutes in microseconds. The whole minutes are exact; the fraction of a
minute is multiplied in binary arithmetic, and the sum goes to the nearest microsecond. -/
def minutesToMicroseconds : Binary64 → Int
  | .finite negative m q =>
      let signed (n : Nat) : Int := if negative then -(n : Int) else n
      if 0 ≤ q then signed (m * twoTo q.toNat) * 60000000
      else
        let den := twoTo (-q).toNat
        let whole := signed (m / den) * 60000000
        match Binary64.ofRatio negative (m % den * 60000000) den with
        | .finite _ p e =>
            if 0 ≤ e then whole + signed (p * twoTo e.toNat)
            else roundSigned (whole * twoTo (-e).toNat + signed p) (twoTo (-e).toNat)
        | _ => whole
  | _ => 0

/-- Move an instant by a number of minutes. A move that would leave the calendar is not
made. -/
def addMinutes (t : Instant) (minutes : Binary64) : Instant :=
  let moved := t.microseconds + minutesToMicroseconds minutes
  if 0 ≤ moved ∧ moved < limit then ⟨moved⟩ else t

/-- Move an instant by a number of milliseconds. -/
def addMilliseconds (t : Instant) (n : Int) : Instant :=
  ⟨t.microseconds + n * 1000⟩

end Instant

end Tenancy
