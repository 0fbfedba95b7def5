import Reconcile.Decimal.Binary64
import Reconcile.Instant
import Reconcile.Toml.Basic
import Reconcile.Word

/-!
# TOML values without quotes

Numbers, truth values, dates and times are words: what they are follows from their characters
alone, up to the next blank, line end or mark of punctuation. A word that is none of them is no
value.
-/

namespace Reconcile.Toml.Bare

/-! ### Numbers -/

/-- The digits of a number in which single underscores may stand between two digits. -/
def digits? (isDigit : Char → Bool) : List Char → Option (List Char)
  | [] => none
  | [c] => if isDigit c then some [c] else none
  | c :: '_' :: rest => if isDigit c then (digits? isDigit rest).map (c :: ·) else none
  | c :: d :: rest => if isDigit c then (digits? isDigit (d :: rest)).map (c :: ·) else none

/-- The digits of a decimal number, which has no zero in front. -/
def decimal? (text : List Char) : Option (List Char) :=
  match text with
  | '0' :: _ :: _ => none
  | text => digits? Char.isDigit text

/-- A text without its sign, and whether that is a minus. -/
def splitSign : List Char → Bool × List Char
  | '-' :: rest => (true, rest)
  | '+' :: rest => (false, rest)
  | text => (false, text)

/-- Whether a whole number fits 64 bits with a sign. -/
def fits (n : Int) : Bool :=
  -(wordSize 63 : Int) ≤ n && n < wordSize 63

/-- Whether a character is a digit of a base. -/
def isDigitOf (base : Nat) (c : Char) : Bool :=
  (Digit.hexValue? c).any (· < base)

/-- A whole number without a sign in base sixteen, eight or two, which its first two characters
tell. -/
def based? : List Char → Option Nat
  | '0' :: 'x' :: text => number 16 text
  | '0' :: 'o' :: text => number 8 text
  | '0' :: 'b' :: text => number 2 text
  | _ => none
where
  /-- The number that digits of a base stand for. -/
  number (base : Nat) (text : List Char) : Option Nat :=
    (digits? (isDigitOf base) text).bind (Digit.number? base)

/-- A whole number. -/
def integer? (text : List Char) : Option Int :=
  let number : Option Int :=
    match based? text with
    | some n => some n
    | none => do
      let (negative, digits) := splitSign text
      let n ← (decimal? digits).bind (Digit.number? 10)
      some (if negative then -n else n)
  number.filter fits

/-- Whether the number of some digits times a power of ten is too large for a floating-point
number. -/
def overflows (digits : List Char) (exponent : Int) : Bool :=
  let n := (Digit.number? 10 digits).getD 0
  let places := exponent + (Nat.toDigits 10 n).length
  if n = 0 ∨ places < 300 then false
  else if 400 < places then true
  else
    (if 0 ≤ exponent then Binary64.ofNat? (n * Nat.pow 10 exponent.toNat)
      else Binary64.ofRatio? n (Nat.pow 10 (-exponent).toNat)).isNone

/-- The digits behind the point or none, and what follows them. -/
def fraction? (text : List Char) : Option (List Char × List Char) :=
  match text with
  | '.' :: rest =>
    let (after, rest) := rest.span fun c => c ≠ 'e' && c ≠ 'E'
    (digits? Char.isDigit after).map fun digits => (digits, rest)
  | text => some ([], text)

/-- The exponent that a text is, or zero. -/
def exponent? (text : List Char) : Option Int :=
  match text with
  | [] => some 0
  | _ :: rest => do
    let (negative, digits) := splitSign rest
    let n ← (digits? Char.isDigit digits).bind (Digit.number? 10)
    some (if negative then -n else n)

/-- Whether a text is a floating-point number. One that is too large is none, unless it is
negative. -/
def isFloat (text : List Char) : Bool :=
  let (negative, text) := splitSign text
  if text = "inf".toList ∨ text = "nan".toList then true
  else
    let (before, rest) := text.span fun c => c ≠ '.' && c ≠ 'e' && c ≠ 'E'
    let parts : Option (List Char × List Char × Int) := do
      let whole ← decimal? before
      let (fraction, rest) ← fraction? rest
      return (whole, fraction, ← exponent? rest)
    match parts with
    | some (whole, fraction, exponent) =>
      !rest.isEmpty && (negative || !overflows (whole ++ fraction) (exponent - fraction.length))
    | none => false

/-! ### Dates and times -/

/-- What follows a date. -/
def afterDate? (text : List Char) : Option (List Char) := do
  let (year, text) ← Instant.digits? 4 0 text
  let text ← Instant.char? '-' text
  let (month, text) ← Instant.digits? 2 0 text
  let text ← Instant.char? '-' text
  let (day, text) ← Instant.digits? 2 0 text
  if 1 ≤ month ∧ month ≤ 12 ∧ 1 ≤ day ∧ day ≤ Instant.daysInMonth year month then some text
  else none

/-- What follows a time of day. -/
def afterTime? (text : List Char) : Option (List Char) := do
  let (hour, text) ← Instant.digits? 2 0 text
  let text ← Instant.char? ':' text
  let (minute, text) ← Instant.digits? 2 0 text
  let text ← Instant.char? ':' text
  let (second, text) ← Instant.digits? 2 0 text
  let (_, text) ← Instant.fraction? text
  if hour ≤ 23 ∧ minute ≤ 59 ∧ second ≤ 60 then some text else none

/-- Whether a text is an offset from Greenwich, or nothing. -/
def isOffset (text : List Char) : Bool :=
  text.isEmpty ||
    (text.head? != some '\u2212' && ((Instant.offset? text).any fun read => read.2.isEmpty))

/-- Whether a text is a time of day with an offset or without. -/
def isTimeWithOffset (text : List Char) : Bool :=
  (afterTime? text).any isOffset

/-- Whether a text is a date, a time of day, or a date and a time with a letter between them. -/
def isMoment (text : List Char) : Bool :=
  match afterDate? text with
  | some [] => true
  | some ('T' :: time) | some ('t' :: time) => isTimeWithOffset time
  | some _ => false
  | none => (afterTime? text).any List.isEmpty

/-! ### Words -/

/-- Whether a character may be part of a word. -/
def isWordChar (c : Char) : Bool :=
  c.isAlphanum || c == '+' || c == '-' || c == '_' || c == '.' || c == ':'

/-- The value that a word is. -/
def ofWord? (word : List Char) : Option Value :=
  if word = "true".toList then some (.boolean true)
  else if word = "false".toList then some (.boolean false)
  else if isMoment word then some .moment
  else if isFloat word then some .float
  else (integer? word).map .integer

/-- Reads a value without quotes. A time of day may follow its date behind a space. -/
def value? (text : List Char) : Option (Value × List Char) :=
  let (word, rest) := text.span isWordChar
  match afterDate? word, rest with
  | some [], ' ' :: following =>
    let (time, after) := following.span isWordChar
    some (.moment, if isTimeWithOffset time then after else rest)
  | _, rest => (ofWord? word).map fun value => (value, rest)

end Reconcile.Toml.Bare
