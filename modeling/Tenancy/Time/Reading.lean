/-
# Reading dates and moments

The interchange formats for dates and times are read from the bytes of a text: calendar
dates and week dates with or without hyphens, any single character between date and time,
times cut off after any unit, a fraction of any length, and a final offset. Positions are
counted in bytes, and past the end of the text every byte reads as zero.
-/

import Tenancy.Time.Moment

namespace Tenancy

namespace Timestamp

/-- The byte at a position. -/
def byteAt (bs : Array Nat) (i : Nat) : Nat :=
  bs.getD i 0

/-- Whether a byte is an ASCII digit. -/
def isDigit (b : Nat) : Bool :=
  0x30 ≤ b && b ≤ 0x39

/-- The number written by exactly `count` digits from a position on. -/
def digitsAt? (bs : Array Nat) (start : Nat) : Nat → Option Nat
  | 0 => some 0
  | count + 1 => do
      let front ← digitsAt? bs start count
      let b := byteAt bs (start + count)
      if isDigit b then some (front * 10 + (b - 0x30)) else none

/-- The date that starts the text and is said to end at `stop`. Only a week date consults the
end: without a day of the week it means the Monday. -/
def dateAt? (bs : Array Nat) (stop : Nat) : Option Date := do
  let year ← digitsAt? bs 0 4
  let hyphens := byteAt bs 4 == 0x2d
  let p := if hyphens then 5 else 4
  if byteAt bs p == 0x57 then
    let week ← digitsAt? bs (p + 1) 2
    let p := p + 3
    if p < stop then
      if hyphens && byteAt bs p != 0x2d then none
      else
        let day ← digitsAt? bs (if hyphens then p + 1 else p) 1
        Date.ofWeek? year week day
    else Date.ofWeek? year week 1
  else
    let month ← digitsAt? bs p 2
    let p := p + 2
    if hyphens && byteAt bs p != 0x2d then none
    else
      let day ← digitsAt? bs (if hyphens then p + 1 else p) 2
      some ⟨year, month, day⟩

/-- The first position from `i` on that holds no digit, within `fuel` steps. -/
def skipDigits (bs : Array Nat) : Nat → Nat → Nat
  | 0, i => i
  | fuel + 1, i => if isDigit (byteAt bs i) then skipDigits bs fuel (i + 1) else i

/-- Where the date ends. A hyphen after the year and a week letter tell the forms apart; a
compact week date is followed by pairs of digits, so the parity of the run of digits says
whether a day of the week is part of it. -/
def dateEnd? (bs : Array Nat) : Option Nat :=
  let len := bs.size
  if len = 7 then some 7
  else if byteAt bs 4 == 0x2d then
    if byteAt bs 5 == 0x57 then
      if len < 8 then none
      else if byteAt bs 8 == 0x2d then
        if len = 9 then none
        else if 10 < len ∧ isDigit (byteAt bs 10) then some 8
        else some 10
      else some 8
    else some 10
  else if byteAt bs 4 == 0x57 then
    let pos := skipDigits bs (len - 7) 7
    if pos < 9 then some pos else if pos % 2 = 0 then some 7 else some 8
  else some 8

/-- A time of day or an offset, and whether something was left unread. -/
structure Clock where
  hour : Nat
  minute : Nat
  second : Nat
  microsecond : Nat
  leftover : Bool

/-- The fraction of a second that starts at `p`: up to six digits before `stop`, and then any
number of further digits. -/
def fractionAt? (bs : Array Nat) (p stop : Nat) : Option (Nat × Bool) := do
  let count := min (stop - p) 6
  let n ← digitsAt? bs p count
  let next := skipDigits bs bs.size (p + count)
  some (n * tenTo (6 - count), byteAt bs next != 0)

/-- The units of a clock from `p` up to `stop`, given those already read. A colon after the
first unit must come back after the second; without one the units follow each other. A
point or comma starts the fraction early. -/
def unitsAt? (bs : Array Nat) (stop : Nat) (colons : Bool) : Nat → Nat → List Nat → Option Clock
  | 0, p, units => do
      let (micro, leftover) ← fractionAt? bs p stop
      some ⟨units.getD 0 0, units.getD 1 0, units.getD 2 0, micro, leftover⟩
  | left + 1, p, units => do
      let n ← digitsAt? bs p 2
      let units := units ++ [n]
      let c := byteAt bs (p + 2)
      let colons := if units.length = 1 then c == 0x3a else colons
      if stop ≤ p + 3 then
        some ⟨units.getD 0 0, units.getD 1 0, units.getD 2 0, 0, c != 0⟩
      else if colons && c == 0x3a then unitsAt? bs stop colons left (p + 3) units
      else if c == 0x2e || c == 0x2c then unitsAt? bs stop colons 0 (p + 3) units
      else if colons then none
      else unitsAt? bs stop colons left (p + 2) units

/-- The clock written from `p` up to `stop`. -/
def clockAt? (bs : Array Nat) (p stop : Nat) : Option Clock :=
  unitsAt? bs stop true 3 p []

/-- The first position from `p` on that holds a sign or a `Z`; the end of the text if there is
none. At least one character is passed over before the end counts. -/
def offsetStart (bs : Array Nat) : Nat → Nat → Nat
  | 0, p => p
  | fuel + 1, p =>
      let b := byteAt bs p
      if b == 0x2b || b == 0x2d || b == 0x5a then p else offsetStart bs fuel (p + 1)

/-- The time of day from `p` to the end of the text, with its offset. -/
def timeAt? (bs : Array Nat) (p : Nat) : Option (Clock × Option Int) := do
  let stop := bs.size
  let z := offsetStart bs (stop - p) p
  let clock ← clockAt? bs p z
  if z = stop then
    if clock.leftover then none else some (clock, none)
  else if byteAt bs z == 0x5a then
    if byteAt bs (z + 1) != 0 then none else some (clock, some 0)
  else
    let o ← clockAt? bs (z + 1) stop
    if o.leftover then none
    else
      let seconds : Int := (o.hour * 60 + o.minute) * 60 + o.second
      let total := seconds * 1000000 + o.microsecond
      let signed := if byteAt bs z == 0x2d then -total else total
      some (clock, some (if seconds = 0 then 0 else signed))

/-- The length in bytes of the character that starts with the given byte. -/
def charLength (b : Nat) : Nat :=
  if b < 0x80 then 1 else if b / 16 = 0xe then 3 else if b / 16 = 0xf then 4 else 2

/-- The bytes of a text. -/
def bytes (s : String) : Array Nat :=
  s.toUTF8.data.map UInt8.toNat

end Timestamp

open Timestamp

/-- Read a date. The length of the text decides whether it can be one. -/
def Date.ofText? (s : String) : Option Date := do
  let bs := bytes s
  if bs.size = 7 ∨ bs.size = 8 ∨ bs.size = 10 then
    let d ← dateAt? bs bs.size
    if d.isValid then some d else none
  else none

/-- Read a moment: a date, and after one separating character a time of day. -/
def Moment.ofIso? (s : String) : Option Moment := do
  let bs := bytes s
  let stop ← dateEnd? bs
  let date ← dateAt? bs stop
  let moment ←
    if stop < bs.size then do
      let (clock, offset) ← timeAt? bs (stop + charLength (byteAt bs stop))
      some { date, hour := clock.hour, minute := clock.minute, second := clock.second,
             microsecond := clock.microsecond, offset : Moment }
    else some { date, hour := 0, minute := 0, second := 0, microsecond := 0, offset := none : Moment }
  if moment.isValid then some moment else none

/-- Read a moment, one final `Z` standing for an offset of zero. -/
def Moment.ofText? (s : String) : Option Moment :=
  if s.toList.getLast? = some 'Z' then
    Moment.ofIso? (String.ofList s.toList.dropLast ++ "+00:00")
  else Moment.ofIso? s

end Tenancy
