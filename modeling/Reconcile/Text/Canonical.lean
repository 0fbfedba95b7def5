import Reconcile.Text.Canonical.CombiningClass
import Reconcile.Text.Canonical.Decomposition

/-!
# Canonical composition

Texts that differ only in whether a character with marks is written as one character or as several,
and in the order of marks that do not touch each other, are equivalent. `Canonical.compose` gives
the one text among the equivalent ones in which characters are put together as far as they can be
(normal form C of Unicode).

A text is taken apart, marks are put into the order of their classes, and each character is joined
to the last one that starts something new, unless something of its own class or a higher one
stands between the two.
-/

namespace Reconcile.Canonical

/-! ### Hangul syllables -/

/-- The number of the first Hangul syllable. A syllable is put together from a leading consonant, a
vowel, and a trailing consonant or none; its number follows from those of its parts. -/
def firstSyllable : Nat := 0xAC00

/-- The number of the first leading consonant. -/
def firstLeading : Nat := 0x1100

/-- The number of the first vowel. -/
def firstVowel : Nat := 0x1161

/-- The number before that of the first trailing consonant. -/
def beforeTrailing : Nat := 0x11A7

/-- How many leading consonants there are. -/
def leadingCount : Nat := 19

/-- How many vowels there are. -/
def vowelCount : Nat := 21

/-- How many ways there are to end a syllable, one of them without a consonant. -/
def trailingCount : Nat := 28

/-- The parts of a Hangul syllable. -/
def splitSyllable? (c : Char) : Option (List Char) :=
  let n := c.toNat - firstSyllable
  if firstSyllable ≤ c.toNat ∧ n < leadingCount * vowelCount * trailingCount then
    let trailing := n % trailingCount
    some (Char.ofNat (firstLeading + n / (vowelCount * trailingCount)) ::
      Char.ofNat (firstVowel + n / trailingCount % vowelCount) ::
      if trailing = 0 then [] else [Char.ofNat (beforeTrailing + trailing)])
  else none

/-- The Hangul syllable that two characters make: a consonant and a vowel, or a syllable without a
trailing consonant and one. -/
def joinSyllable? (a b : Char) : Option Char :=
  let leading := a.toNat - firstLeading
  let vowel := b.toNat - firstVowel
  let syllable := a.toNat - firstSyllable
  let trailing := b.toNat - beforeTrailing
  if firstLeading ≤ a.toNat ∧ leading < leadingCount ∧ firstVowel ≤ b.toNat ∧
      vowel < vowelCount then
    some (Char.ofNat (firstSyllable + (leading * vowelCount + vowel) * trailingCount))
  else if firstSyllable ≤ a.toNat ∧ syllable < leadingCount * vowelCount * trailingCount ∧
      syllable % trailingCount = 0 ∧ beforeTrailing < b.toNat ∧ trailing < trailingCount then
    some (Char.ofNat (a.toNat + trailing))
  else none

/-! ### Taking apart -/

/-- A character one step apart. -/
def split (c : Char) : List Char :=
  if c.toNat < 0xC0 then [c]
  else ((splitSyllable? c).or ((pairs.find? c).or (others.find? c))).getD [c]

/-- A text with its characters taken apart; after three steps none of them can be any more. -/
def decompose (text : List Char) : List Char :=
  ((text.flatMap split).flatMap split).flatMap split

/-- Puts a mark in front of marks that are in order, behind those of lower classes. -/
def insertMark (mark : Char) : List Char → List Char
  | [] => [mark]
  | c :: rest =>
    if 0 < combiningClass c ∧ combiningClass c < combiningClass mark then
      c :: insertMark mark rest
    else mark :: c :: rest

/-- A text with its marks in the order of their classes. -/
def order (text : List Char) : List Char :=
  text.foldr
    (fun c rest => if combiningClass c = 0 then c :: rest else insertMark c rest)
    []

/-! ### Putting together -/

/-- The character that two others are put together into. -/
def join? (a b : Char) : Option Char :=
  (joinSyllable? a b).or (pairs.source? [a, b])

/-- Joins the characters of a text to a starter. The marks that could not be joined wait to be put
behind it; `reached` is the class of the last one. -/
def joinTo (starter : Char) (waiting : List Char) (reached : Nat) : List Char → List Char
  | [] => starter :: waiting
  | c :: rest =>
    let joined? :=
      if waiting.isEmpty ∨ reached < combiningClass c then join? starter c else none
    match joined? with
    | some joined => joinTo joined waiting reached rest
    | none =>
      if combiningClass c = 0 then starter :: waiting ++ joinTo c [] 0 rest
      else joinTo starter (waiting ++ [c]) (combiningClass c) rest

/-- A text in order with its characters joined. Marks in front of the first starter stay. -/
def joinAll : List Char → List Char
  | [] => []
  | c :: rest => if combiningClass c = 0 then joinTo c [] 0 rest else c :: joinAll rest

/-- The text in which the characters of a text are put together as far as they can be. -/
def compose (text : List Char) : List Char :=
  if text.all (·.toNat < 0x300) then text else joinAll (order (decompose text))

end Reconcile.Canonical
