/-!
# Floating-point numbers of 64 bits

The finite numbers of the format without their sign: a mantissa of at most 53 bits times a power of
two. Products and quotients are the exact ones, rounded to the nearest number of the format; of
two equally near ones the one with the even mantissa counts.
-/

namespace Reconcile

/-- The number `mantissa * 2 ^ exponent`. -/
structure Binary64 where
  mantissa : Nat
  exponent : Int
  deriving DecidableEq, Repr, Inhabited

namespace Binary64

/-- The least exponent. -/
def minExponent : Int :=
  -1074

/-- The greatest exponent. -/
def maxExponent : Int :=
  971

/-- Zero. -/
def zero : Binary64 :=
  ⟨0, minExponent⟩

/-- A quotient rounded to the nearest natural number, a half to the even one. -/
def roundDiv (num den : Nat) : Nat :=
  let low := num / den
  let rest := num % den
  if 2 * rest < den then low
  else if den < 2 * rest then low + 1
  else if low % 2 = 0 then low else low + 1

/-- A fraction divided by a power of two. -/
def scale (num den : Nat) (exponent : Int) : Nat × Nat :=
  if 0 ≤ exponent then (num, den * Nat.pow 2 exponent.toNat)
  else (num * Nat.pow 2 (-exponent).toNat, den)

/-- The number nearest to a fraction, unless it is too large. -/
def ofRatio? (num den : Nat) : Option Binary64 :=
  if num = 0 then some zero
  else
    let guess := max ((num.log2 : Int) - den.log2 - 53) minExponent
    let (n, d) := scale num den guess
    let exponent := if Nat.pow 2 53 ≤ n / d then guess + 1 else guess
    let (n, d) := scale num den exponent
    let mantissa := roundDiv n d
    let rounded : Binary64 :=
      if mantissa = Nat.pow 2 53 then ⟨Nat.pow 2 52, exponent + 1⟩ else ⟨mantissa, exponent⟩
    if rounded.exponent ≤ maxExponent then some rounded else none

/-- The number nearest to a natural number, unless it is too large. -/
def ofNat? (n : Nat) : Option Binary64 :=
  ofRatio? n 1

/-- A number as a fraction. -/
def toRatio (x : Binary64) : Nat × Nat :=
  if 0 ≤ x.exponent then (x.mantissa * Nat.pow 2 x.exponent.toNat, 1)
  else (x.mantissa, Nat.pow 2 (-x.exponent).toNat)

/-- The product, unless it is too large. -/
def mul? (x y : Binary64) : Option Binary64 :=
  let (a, b) := x.toRatio
  let (c, d) := y.toRatio
  ofRatio? (a * c) (b * d)

/-- The quotient, unless it is too large. -/
def div? (x y : Binary64) : Option Binary64 :=
  let (a, b) := x.toRatio
  let (c, d) := y.toRatio
  ofRatio? (a * d) (b * c)

end Binary64

end Reconcile
