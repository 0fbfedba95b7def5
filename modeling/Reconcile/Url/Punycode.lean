import Reconcile.Word

/-!
# Punycode

Labels of a host name outside ASCII, written in ASCII (RFC 3492). The characters outside ASCII are
given after the others, in the order of their numbers and then of their places, each by the
distance from the one before it as a number of variable length in base 36.
-/

namespace Reconcile.Punycode

/-- A digit in base 36: the letters, then the decimal digits. -/
def digit (n : Nat) : Char :=
  if n < 26 then Char.ofNat ('a'.toNat + n) else Char.ofNat ('0'.toNat + (n - 26))

/-- The value of a digit in base 36. -/
def digitValue? (c : Char) : Option Nat :=
  if c.isLower then some (c.toNat - 'a'.toNat)
  else if c.isUpper then some (c.toNat - 'A'.toNat)
  else if c.isDigit then some (c.toNat - '0'.toNat + 26)
  else none

/-- The threshold of a digit: digits from it on say that the number goes on. -/
def threshold (position bias : Nat) : Nat :=
  max 1 (min 26 (position - bias))

/-- Divides a distance down to where a bias can be taken from it. -/
def shrink (distance bias : Nat) : Nat :=
  if 455 < distance then shrink (distance / 35) (bias + 36)
  else bias + 36 * distance / (distance + 38)
  termination_by distance
  decreasing_by omega

/-- The bias for the next distance, after a distance and a number of characters. -/
def adapt (distance count : Nat) (first : Bool) : Nat :=
  let distance := if first then distance / 700 else distance / 2
  shrink (distance + distance / count) 0

/-- A distance as digits; `position` is that of the next digit. -/
def encodeNumber (bias position n : Nat) : List Char :=
  let t := threshold position bias
  if n < t then [digit n]
  else digit (t + (n - t) % (36 - t)) :: encodeNumber bias (position + 36) ((n - t) / (36 - t))
  termination_by n
  decreasing_by
    have ht : 1 ≤ threshold position bias := by unfold threshold; omega
    have ht' : threshold position bias ≤ 26 := by unfold threshold; omega
    exact Nat.lt_of_le_of_lt (Nat.div_le_self _ _) (by omega)

/-- The state of encoding: what has been written, and what the next distance depends on. -/
structure Encoder where
  written : List Char
  /-- The distance since the last character that was given. -/
  distance : Nat
  /-- The number of characters that have been given. -/
  count : Nat
  bias : Nat
  first : Bool

/-- Gives all places of one character number among the characters of a label. -/
def Encoder.giveAll (number : Nat) (encoder : Encoder) (label : List Char) : Encoder :=
  label.foldl
    (fun encoder c =>
      if c.toNat < number then { encoder with distance := encoder.distance + 1 }
      else if c.toNat = number then
        { written := encoder.written ++ encodeNumber encoder.bias 36 encoder.distance
          distance := 0
          count := encoder.count + 1
          bias := adapt encoder.distance (encoder.count + 1) encoder.first
          first := false }
      else encoder)
    encoder

/-- Gives the characters of some numbers in turn; `reached` is the number that comes next. -/
def Encoder.giveNumbers (label : List Char) (encoder : Encoder) (reached : Nat) :
    List Nat → Encoder
  | [] => encoder
  | number :: numbers =>
    let moved :=
      { encoder with distance := encoder.distance + (number - reached) * (encoder.count + 1) }
    let given := moved.giveAll number label
    giveNumbers label { given with distance := given.distance + 1 } (number + 1) numbers

/-- A label in ASCII, without the mark that says so. -/
def encode (label : List Char) : List Char :=
  let plain := label.filter fun c => c.toNat < 0x80
  let numbers :=
    ((label.map Char.toNat).filter (0x80 ≤ ·)).eraseDups.mergeSort
  let start : Encoder :=
    ⟨if plain.isEmpty then [] else plain ++ ['-'], 0, plain.length, 72, true⟩
  (start.giveNumbers label 0x80 numbers).written

/-- Reads a distance. The number and the weight of each of its digits have to fit into 32 bits. -/
def decodeNumber? (bias position weight value : Nat) : List Char → Option (Nat × List Char)
  | [] => none
  | c :: rest => do
    let d ← digitValue? c
    let value := value + d * weight
    let t := threshold position bias
    if value ≥ wordSize 32 then none
    else if d < t then some (value, rest)
    else if weight * (36 - t) ≥ wordSize 32 then none
    else decodeNumber? bias (position + 36) (weight * (36 - t)) value rest

/-- Whether a number is that of a character outside ASCII. -/
def isCharNumber (n : Nat) : Bool :=
  0x80 ≤ n && n < 0x110000 && !(0xD800 ≤ n && n < 0xE000)

/-- Reads distances and puts the characters that they give into a label. -/
def decodeFrom? (fuel bias number place : Nat) (first : Bool) (label text : List Char) :
    Option (List Char) :=
  match fuel, text with
  | _, [] => some label
  | 0, _ :: _ => none
  | fuel + 1, text => do
    let (distance, rest) ← decodeNumber? bias 36 1 0 text
    let size := label.length + 1
    let number := number + (place + distance) / size
    let place := (place + distance) % size
    if isCharNumber number then
      decodeFrom? fuel (adapt distance size first) number (place + 1) false
        (label.take place ++ Char.ofNat number :: label.drop place) rest
    else none

/-- The label that a text in ASCII stands for, given without the mark. -/
def decode? (text : List Char) : Option (List Char) :=
  let tail := (text.reverse.takeWhile (· ≠ '-')).reverse
  let plain := text.take (text.length - tail.length - 1)
  decodeFrom? tail.length 72 0x80 0 true plain tail

end Reconcile.Punycode
