import Reconcile.Decimal.Binary64

/-!
# Shortest decimals

The decimal with the fewest digits that is nearest to one floating-point number and to no other;
of several such decimals the one nearest to the number itself.

The decimals that belong to a number lie between the middles to its two neighbours, which belong
to it if its mantissa is even. On the grid of the decimals with a last place of a given weight,
only the two around the number have to be tried: if any point of the grid lies between the middles,
one of them does.
-/

namespace Reconcile.Decimal

/-- The decimal `digits * 10 ^ exponent`. -/
structure Shortest where
  digits : Nat
  exponent : Int
  deriving DecidableEq, Repr

/-- A number with the middles to its neighbours, as numerators over a common denominator. -/
structure Interval where
  low : Nat
  value : Nat
  high : Nat
  den : Nat
  /-- Whether the two ends belong to it. -/
  closed : Bool

/-- The decimals that belong to a number other than zero. Below a power of two the neighbour is
only half as far away. -/
def interval (x : Binary64) : Interval :=
  let (num, den) := x.toRatio
  let unit := if 0 ≤ x.exponent then Nat.pow 2 x.exponent.toNat else 1
  let narrow := x.mantissa = Nat.pow 2 52 ∧ Binary64.minExponent < x.exponent
  { low := 4 * num - (if narrow then unit else 2 * unit)
    value := 4 * num
    high := 4 * num + 2 * unit
    den := 4 * den
    closed := x.mantissa % 2 = 0 }

/-- Whether a fraction belongs to an interval. -/
def Interval.contains (i : Interval) (num den : Nat) : Bool :=
  let below := i.low * den
  let at_ := num * i.den
  let above := i.high * den
  if i.closed then below ≤ at_ && at_ ≤ above else below < at_ && at_ < above

/-- Ten to a power, as a fraction. -/
def powerOfTen (exponent : Int) : Nat × Nat :=
  if 0 ≤ exponent then (Nat.pow 10 exponent.toNat, 1) else (1, Nat.pow 10 (-exponent).toNat)

/-- The decimal of a last place that belongs to a number and is nearest to it, if there is one. -/
def onGrid? (i : Interval) (exponent : Int) : Option Shortest :=
  let (p, q) := powerOfTen exponent
  let low := i.value * q / (i.den * p)
  let fits (digits : Nat) : Bool := i.contains (digits * p) q
  let restBelow := i.value * q - low * (i.den * p)
  let restAbove := (low + 1) * (i.den * p) - i.value * q
  let belowFirst : Bool :=
    restBelow < restAbove || (restBelow == restAbove && low % 2 == 0)
  let candidates := if belowFirst then [low, low + 1] else [low + 1, low]
  (candidates.find? fits).map fun digits => ⟨digits, exponent⟩

/-- The weight of the first digit of a fraction as a power of ten, from a guess that is not too
large. -/
def leadingPlace (num den : Nat) (fuel : Nat) (guess : Int) : Int :=
  match fuel with
  | 0 => guess
  | fuel + 1 =>
    let (p, q) := powerOfTen (guess + 1)
    if den * p ≤ num * q then leadingPlace num den fuel (guess + 1) else guess

/-- A decimal without zeros at its end. -/
def dropZeros (fuel : Nat) (d : Shortest) : Shortest :=
  match fuel with
  | 0 => d
  | fuel + 1 =>
    if d.digits ≠ 0 ∧ d.digits % 10 = 0 then dropZeros fuel ⟨d.digits / 10, d.exponent + 1⟩
    else d

/-- The shortest decimal of a number other than zero: the first of the grids of 1, 2, … 17 digits
that has one. -/
def shortest (x : Binary64) : Shortest :=
  let i := interval x
  let bits : Int := (i.value.log2 : Int) - i.den.log2 - 1
  let place := leadingPlace i.value i.den 4 (bits * 30103 / 100000 - 1)
  let grids := (List.range 17).map fun (n : Nat) => place - n
  match grids.findSome? (onGrid? i) with
  | some d => dropZeros 20 d
  | none => ⟨x.mantissa, x.exponent⟩

end Reconcile.Decimal
