import Reconcile.Text.Digit

/-!
# Instants

Points in time and their RFC 3339 text. `Instant.parse?` reads a date and time with an offset
from Greenwich, `Instant.render` writes an instant as Greenwich time, and the order of instants is
the order of time.

A leap second is kept as it was read: it is the second before it with a fraction of one second or
more, so that it sorts after every fraction of that second and is written with the seconds `60`.
-/

namespace Reconcile

/-- A point in time. -/
structure Instant where
  /-- Whole seconds since the start of 1970 at Greenwich, leap seconds not counted. -/
  seconds : Int
  /-- Nanoseconds into that second; 10⁹ and more inside a leap second. -/
  nanos : Nat
  deriving DecidableEq, Repr, Inhabited

namespace Instant

instance : LE Instant where
  le a b := a.seconds < b.seconds ∨ (a.seconds = b.seconds ∧ a.nanos ≤ b.nanos)

instance (a b : Instant) : Decidable (a ≤ b) :=
  inferInstanceAs (Decidable (a.seconds < b.seconds ∨ (a.seconds = b.seconds ∧ a.nanos ≤ b.nanos)))

/-- Instants are ordered by their seconds, and within a second by their nanoseconds. -/
theorem le_def {a b : Instant} :
    a ≤ b ↔ a.seconds < b.seconds ∨ (a.seconds = b.seconds ∧ a.nanos ≤ b.nanos) :=
  Iff.rfl

/-- The order of instants is transitive. -/
theorem le_trans {a b c : Instant} (hab : a ≤ b) (hbc : b ≤ c) : a ≤ c := by
  rw [le_def] at *; omega

/-! ### Days and dates -/

/-- Whether a year of the Gregorian calendar has a 29 February. -/
def isLeapYear (year : Int) : Bool :=
  (year % 4 == 0 && year % 100 != 0) || year % 400 == 0

/-- The number of days of a month, which is counted from 1. -/
def daysInMonth (year : Int) (month : Nat) : Nat :=
  match month with
  | 2 => if isLeapYear year then 29 else 28
  | 4 | 6 | 9 | 11 => 30
  | _ => 31

/-- A day of the Gregorian calendar, which is extended to the years before its start. -/
structure Date where
  /-- The year; 0 is the year before the year 1. -/
  year : Int
  /-- The month, from 1. -/
  month : Nat
  /-- The day of the month, from 1. -/
  day : Nat
  deriving DecidableEq, Repr

/-- The days from 1 January 1970 to a date. The count runs in cycles of 400 years of 146097 days
and in years that start in March, so that a leap day ends its year. -/
def Date.toDays (date : Date) : Int :=
  let year := if date.month ≤ 2 then date.year - 1 else date.year
  let month : Int := (date.month + 9) % 12
  let cycle := year / 400
  let yearOfCycle := year % 400
  let dayOfYear := (153 * month + 2) / 5 + date.day - 1
  let dayOfCycle := yearOfCycle * 365 + yearOfCycle / 4 - yearOfCycle / 100 + dayOfYear
  cycle * 146097 + dayOfCycle - 719468

/-- The date that lies a number of days after 1 January 1970. -/
def Date.ofDays (days : Int) : Date :=
  let days := days + 719468
  let cycle := days / 146097
  let dayOfCycle := days % 146097
  let yearOfCycle :=
    (dayOfCycle - dayOfCycle / 1460 + dayOfCycle / 36524 - dayOfCycle / 146096) / 365
  let dayOfYear := dayOfCycle - (365 * yearOfCycle + yearOfCycle / 4 - yearOfCycle / 100)
  let month := (5 * dayOfYear + 2) / 153
  let day := dayOfYear - (153 * month + 2) / 5 + 1
  let month := if month < 10 then month + 3 else month - 9
  let year := yearOfCycle + cycle * 400
  ⟨if month ≤ 2 then year + 1 else year, month.toNat, day.toNat⟩

/-! ### Reading -/

/-- Reads `count` decimal digits, to which `value` is the number read so far. -/
def digits? (count value : Nat) (text : List Char) : Option (Nat × List Char) :=
  match count, text with
  | 0, text => some (value, text)
  | count + 1, c :: text =>
    if c.isDigit then digits? count (value * 10 + Digit.value c) text else none
  | _ + 1, [] => none

/-- Reads one given character. -/
def char? (c : Char) : List Char → Option (List Char)
  | [] => none
  | d :: text => if d = c then some text else none

/-- Reads a fraction of a second, point included, as nanoseconds; digits after the ninth do not
count. Without a point there is no fraction. -/
def fraction? : List Char → Option (Nat × List Char)
  | '.' :: text =>
    let digits := text.takeWhile Char.isDigit
    if digits.isEmpty then none
    else
      let nine := (digits ++ List.replicate 9 '0').take 9
      (digits? 9 0 nine).map fun read => (read.1, text.dropWhile Char.isDigit)
  | text => some (0, text)

/-- Reads the offset from Greenwich in seconds: `Z`, or a sign, hours to 23 and minutes to 59. The
mathematical minus sign counts as a minus. -/
def offset? : List Char → Option (Int × List Char)
  | [] => none
  | sign :: text =>
    if sign = 'Z' ∨ sign = 'z' then some (0, text)
    else if sign = '+' ∨ sign = '-' ∨ sign = '\u2212' then do
      let (hours, text) ← digits? 2 0 text
      let text ← char? ':' text
      let (minutes, text) ← digits? 2 0 text
      if hours ≤ 23 ∧ minutes ≤ 59 then
        let offset : Int := hours * 3600 + minutes * 60
        some (if sign = '+' then offset else -offset, text)
      else none
    else none

/-- The instant of a date and a time of day at an offset from Greenwich. The second 60 is a leap
second. -/
def ofParts (date : Date) (hour minute second nanos : Nat) (offset : Int) : Instant :=
  let wholeSecond := min second 59
  { seconds := date.toDays * 86400 + hour * 3600 + minute * 60 + wholeSecond - offset
    nanos := nanos + (second - wholeSecond) * 1000000000 }

/-- Reads an RFC 3339 date and time. A `T` in either case or a space stands between the two, the
second may be 60, and nothing may follow. -/
def parse? (text : String) : Option Instant := do
  let (year, text) ← digits? 4 0 text.toList
  let text ← char? '-' text
  let (month, text) ← digits? 2 0 text
  let text ← char? '-' text
  let (day, text) ← digits? 2 0 text
  let text ←
    match text with
    | 'T' :: text | 't' :: text | ' ' :: text => some text
    | _ => none
  let (hour, text) ← digits? 2 0 text
  let text ← char? ':' text
  let (minute, text) ← digits? 2 0 text
  let text ← char? ':' text
  let (second, text) ← digits? 2 0 text
  let (nanos, text) ← fraction? text
  let (offset, text) ← offset? text
  if text.isEmpty ∧ 1 ≤ month ∧ month ≤ 12 ∧ 1 ≤ day ∧ day ≤ daysInMonth year month ∧
      hour ≤ 23 ∧ minute ≤ 59 ∧ second ≤ 60 then
    some (ofParts ⟨year, month, day⟩ hour minute second nanos offset)
  else none

/-! ### Writing -/

/-- A number with zeros in front up to `width` digits. -/
def padded (width n : Nat) : String :=
  let digits := Nat.toDigits 10 n
  String.ofList (List.replicate (width - digits.length) '0' ++ digits)

/-- A year in four digits; a year that does not fit has a sign and at least four digits. -/
def renderYear (year : Int) : String :=
  if 0 ≤ year ∧ year ≤ 9999 then padded 4 year.toNat
  else (if year < 0 then "-" else "+") ++ padded 4 year.natAbs

/-- A fraction of a second with the fewest of 0, 3, 6 or 9 digits that are exact. -/
def renderFraction (nanos : Nat) : String :=
  if nanos = 0 then ""
  else if nanos % 1000000 = 0 then "." ++ padded 3 (nanos / 1000000)
  else if nanos % 1000 = 0 then "." ++ padded 6 (nanos / 1000)
  else "." ++ padded 9 nanos

/-- An instant as Greenwich date and time. -/
def render (instant : Instant) : String :=
  let date := Date.ofDays (instant.seconds / 86400)
  let ofDay := (instant.seconds % 86400).toNat
  let second := ofDay % 60 + instant.nanos / 1000000000
  renderYear date.year ++ "-" ++ padded 2 date.month ++ "-" ++ padded 2 date.day ++ "T" ++
    padded 2 (ofDay / 3600) ++ ":" ++ padded 2 (ofDay / 60 % 60) ++ ":" ++ padded 2 second ++
    renderFraction (instant.nanos % 1000000000) ++ "+00:00"

/-! ### Going back in time -/

/-- The instant a number of days earlier. A leap second has no counterpart on another day, so
there it counts as the second after the one it extends. -/
def daysBefore (days : Nat) (instant : Instant) : Instant :=
  { seconds := instant.seconds + instant.nanos / 1000000000 - 86400 * days
    nanos := instant.nanos % 1000000000 }

end Instant

end Reconcile
