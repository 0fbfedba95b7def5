/-!
# Digits

The digits of numbers in bases up to sixteen.
-/

namespace Reconcile.Digit

/-- The value of a decimal digit. -/
def value (c : Char) : Nat :=
  c.toNat - '0'.toNat

/-- The value of a digit in base sixteen, of either case. -/
def hexValue? (c : Char) : Option Nat :=
  if c.isDigit then some (value c)
  else if 'a' ≤ c ∧ c ≤ 'f' then some (c.toNat - 'a'.toNat + 10)
  else if 'A' ≤ c ∧ c ≤ 'F' then some (c.toNat - 'A'.toNat + 10)
  else none

/-- A digit in base sixteen, in lower case. -/
def lower (n : Nat) : Char :=
  if n < 10 then Char.ofNat ('0'.toNat + n) else Char.ofNat ('a'.toNat + (n - 10))

/-- A digit in base sixteen, in upper case. -/
def upper (n : Nat) : Char :=
  if n < 10 then Char.ofNat ('0'.toNat + n) else Char.ofNat ('A'.toNat + (n - 10))

/-- The number that digits of a base stand for. -/
def number? (base : Nat) (digits : List Char) : Option Nat :=
  digits.foldlM
    (fun n c => do
      let d ← hexValue? c
      if d < base then some (n * base + d) else none)
    0

/-- The number that decimal digits stand for, with one plus sign in front or none. -/
def natural? (text : String) : Option Nat :=
  let digits :=
    match text.toList with
    | '+' :: digits => digits
    | digits => digits
  if digits.isEmpty then none else number? 10 digits

end Reconcile.Digit
