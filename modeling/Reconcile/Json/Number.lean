import Reconcile.Decimal.Shortest
import Reconcile.Text.Digit
import Reconcile.Word

/-!
# JSON numbers

What a number in a document means, and how it is written again. A whole number that fits 64 bits
is kept exactly. Any other is a floating-point number: as many of its leading digits as fit 64 bits
without a sign, times or divided by the power of ten that is due, each of the two steps rounded. A
number too large for that is none.
-/

namespace Reconcile.Json

/-- A number. -/
inductive Number where
  | whole (value : Int)
  /-- A floating-point number with its sign, which zero has too. -/
  | float (negative : Bool) (value : Binary64)
  deriving DecidableEq, Repr, Inhabited

/-- The digits of a number that count, and the power of ten they are taken times. -/
structure Significand where
  digits : Nat
  exponent : Int

/-- The greatest number of 64 bits. -/
def maxWord : Nat :=
  wordSize 64 - 1

/-- Takes the digits before the point. From the first that does not fit on, they only count as
places. -/
def takeWhole (s : Significand) : List Char → Significand
  | [] => s
  | c :: rest =>
    if s.digits * 10 + Digit.value c ≤ maxWord then
      takeWhole { s with digits := s.digits * 10 + Digit.value c } rest
    else { s with exponent := s.exponent + (rest.length + 1) }

/-- Takes the digits after the point. From the first that does not fit on, they do not count. -/
def takeFraction (s : Significand) : List Char → Significand
  | [] => s
  | c :: rest =>
    if s.digits * 10 + Digit.value c ≤ maxWord then
      takeFraction ⟨s.digits * 10 + Digit.value c, s.exponent - 1⟩ rest
    else s

/-- A floating-point number times a power of ten, in steps of at most 308 places. -/
def scaleByTen? (value : Binary64) (exponent : Int) : Option Binary64 :=
  if 0 ≤ exponent then
    if exponent ≤ 308 then (Binary64.ofNat? (Nat.pow 10 exponent.toNat)).bind value.mul?
    else if value.mantissa = 0 then some value
    else none
  else if -308 ≤ exponent then (Binary64.ofNat? (Nat.pow 10 (-exponent).toNat)).bind value.div?
  else if value.mantissa = 0 then some value
  else do
    let step ← Binary64.ofNat? (Nat.pow 10 308)
    let value ← value.div? step
    scaleByTen? value (exponent + 308)
  termination_by (-exponent).toNat
  decreasing_by omega

/-- The exponent that is written behind a number, with its sign. -/
def exponentOf (text : List Char) : Int :=
  let value (digits : List Char) : Int := digits.foldl (fun n c => n * 10 + Digit.value c) 0
  match text with
  | '-' :: digits => -value digits
  | '+' :: digits => value digits
  | digits => value digits

/-- The meaning of a number's spelling. -/
def Number.ofSpelling? (spelling : List Char) : Option Number :=
  let negative := spelling.head? = some '-'
  let unsigned := if negative then spelling.drop 1 else spelling
  let (before, rest) := unsigned.span Char.isDigit
  let (after, rest) : List Char × List Char :=
    match rest with
    | '.' :: rest => rest.span Char.isDigit
    | rest => ([], rest)
  let s := takeFraction (takeWhole ⟨0, 0⟩ before) after
  let isWhole := after.isEmpty ∧ rest.isEmpty ∧ s.exponent = 0
  if isWhole ∧ !negative then some (.whole s.digits)
  else if isWhole ∧ 0 < s.digits ∧ s.digits ≤ wordSize 63 then some (.whole (-s.digits))
  else
    let exponent := exponentOf (rest.drop 1)
    if exponent.natAbs > wordSize 31 - 1 ∧ (s.digits = 0 ∨ exponent < 0) then
      some (.float negative .zero)
    else do
      let digits ← Binary64.ofNat? s.digits
      return .float negative (← scaleByTen? digits (s.exponent + exponent))

/-- Decimal digits. -/
def decimal (n : Nat) : List Char :=
  Nat.toDigits 10 n

/-- A floating-point number other than zero with the fewest digits that tell it from others:
positional from 10⁻⁵ up to 10¹⁶, with an exponent and its sign outside. -/
def printShortest (d : Decimal.Shortest) : List Char :=
  let digits := decimal d.digits
  let point : Int := d.exponent + digits.length
  let exponent (n : Int) : List Char :=
    'e' :: (if n < 0 then '-' else '+') :: decimal n.natAbs
  if 0 ≤ d.exponent ∧ point ≤ 16 then digits ++ List.replicate d.exponent.toNat '0' ++ ['.', '0']
  else if 0 < point ∧ point ≤ 16 then
    digits.take point.toNat ++ '.' :: digits.drop point.toNat
  else if -5 < point ∧ point ≤ 0 then
    '0' :: '.' :: (List.replicate (-point).toNat '0' ++ digits)
  else
    match digits with
    | [digit] => digit :: exponent (point - 1)
    | digit :: more => digit :: '.' :: (more ++ exponent (point - 1))
    | [] => []

/-- A number as it is written. -/
def Number.print : Number → List Char
  | .whole value => (if value < 0 then ['-'] else []) ++ decimal value.natAbs
  | .float negative value =>
    (if negative then ['-'] else []) ++
      if value.mantissa = 0 then ['0', '.', '0'] else printShortest (Decimal.shortest value)

end Reconcile.Json
