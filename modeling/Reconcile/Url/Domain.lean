import Reconcile.Text.Canonical
import Reconcile.Text.Mark
import Reconcile.Url.Domain.Direction
import Reconcile.Url.Domain.Joiner
import Reconcile.Url.Domain.Mapping
import Reconcile.Url.Punycode

/-!
# Domain names

Domain names in ASCII (UTS #46). The characters of a name are brought into the form in which names
are compared, and its labels, which have points between them, are written in ASCII: those outside
it in Punycode behind a mark. A label that already has the mark has to be what would be written for
the label that it stands for.

A label may not start with a mark of Unicode, joiners have to be of use, and letters that run from
right to left are allowed only in labels that keep to one direction.
-/

namespace Reconcile.Domain

/-- Whether a character is ASCII. -/
def isAscii (c : Char) : Bool :=
  c.toNat < 0x80

/-- Whether no domain name may hold a character. -/
def isForbidden (c : Char) : Bool :=
  c.toNat ≤ 0x20 || c.toNat = 0x7F ||
    ['%', '#', '/', ':', '<', '>', '?', '@', '[', '\\', ']', '^', '|'].contains c

/-- A text in the form in which names are compared; none if it has a character that no name may
hold. -/
def fold? (text : List Char) : Option (List Char) := do
  let mapped ← text.mapM mapChar?
  let folded := Canonical.compose mapped.flatten
  if folded.any isForbidden then none else some folded

/-- The mark of a label that is written in ASCII but is not ASCII. -/
def labelMark : List Char :=
  ['x', 'n', '-', '-']

/-- The greatest number of characters behind the mark that are read. -/
def maxEncodedLength : Nat :=
  2000

/-- The greatest number of characters of a label outside ASCII that is written. -/
def maxLabelLength : Nat :=
  1000

/-- A label of a name. -/
structure Label where
  /-- What the label says. -/
  text : List Char
  /-- How the label is written in ASCII. -/
  written : List Char

/-- The label that stands behind the mark: one that is not ASCII and has the form in which names
are compared. -/
def unmark? (encoded : List Char) : Option (List Char) := do
  if maxEncodedLength < encoded.length ∨ !encoded.all isAscii then none
  else
    let text ← Punycode.decode? encoded
    if text.all isAscii ∨ fold? text ≠ some text then none else some text

/-- A label of a text in the form in which names are compared. -/
def Label.ofText? (text : List Char) : Option Label :=
  if labelMark.isPrefixOf text then
    (unmark? (text.drop labelMark.length)).map (⟨·, text⟩)
  else if text.all isAscii then some ⟨text, text⟩
  else if maxLabelLength < text.length then none
  else some ⟨text, labelMark ++ Punycode.encode text⟩

/-- Whether a label is in order by itself. -/
def Label.isAllowed (label : Label) : Bool :=
  !label.text.head?.any isMark && joinersAllowed [] label.text

/-- A domain name in ASCII; none if it is not in order. -/
def toAscii? (name : List Char) : Option (List Char) := do
  let folded ← fold? name
  let labels ← (Pieces.splitOn '.' folded).mapM Label.ofText?
  if labels.all Label.isAllowed && keepDirections (labels.map (·.text)) then
    some (Pieces.joinWith '.' (labels.map (·.written)))
  else none

end Reconcile.Domain
