import Reconcile.Text.Digit
import Reconcile.Text.Pieces

/-!
# Sets and tables of characters

Sets of characters given by ranges of code points, and tables that give characters for a character.
Both are written as words: numbers to base 16, with a hyphen between the two ends of a range. In a
table the range may be one of every second, third, … character, with that number behind a slash;
what it gives stands behind an angle, with plus signs between several characters.
-/

namespace Reconcile

/-- A set of characters. -/
structure CodeSet where
  /-- The first and the last number of each range. -/
  ranges : List (Nat × Nat)

namespace CodeSet

/-- A range as it is written. -/
def range? (word : List Char) : Option (Nat × Nat) :=
  match (Pieces.splitOn '-' word).mapM (Digit.number? 16) with
  | some [number] => some (number, number)
  | some [first, last] => some (first, last)
  | _ => none

/-- A set as it is written. -/
def ofText (text : String) : CodeSet :=
  ⟨(Pieces.words text).filterMap range?⟩

/-- Whether a character is in a set. -/
def contains (set : CodeSet) (c : Char) : Bool :=
  set.ranges.any fun range => range.1 ≤ c.toNat && c.toNat ≤ range.2

end CodeSet

/-- What a table gives for a range of characters. -/
structure CodeRow where
  first : Nat
  last : Nat
  /-- The distance from one character of the range to the next. -/
  step : Nat
  /-- What the first character of the range gives. Each further one gives characters that lie as
  far from these as it lies from the first. -/
  image : List Nat

namespace CodeRow

/-- A row as it is written. -/
def ofWord? (word : List Char) : Option CodeRow := do
  match Pieces.splitOn '>' word with
  | [source, image] =>
    let image ← (Pieces.splitOn '+' image).mapM (Digit.number? 16)
    match Pieces.splitOn '/' source with
    | [range] => (CodeSet.range? range).map fun range => ⟨range.1, range.2, 1, image⟩
    | [range, step] =>
      let step ← Digit.number? 16 step
      (CodeSet.range? range).map fun range => ⟨range.1, range.2, step, image⟩
    | _ => none
  | _ => none

/-- Whether a row gives something for a character. -/
def covers (row : CodeRow) (c : Char) : Bool :=
  row.first ≤ c.toNat && c.toNat ≤ row.last && (c.toNat - row.first) % row.step == 0

/-- What a row gives for a character. -/
def imageOf (row : CodeRow) (c : Char) : List Char :=
  row.image.map fun n => Char.ofNat (n + (c.toNat - row.first))

end CodeRow

/-- A table that gives characters for some characters. -/
structure CodeTable where
  rows : List CodeRow

namespace CodeTable

/-- A table as it is written. -/
def ofText (text : String) : CodeTable :=
  ⟨(Pieces.words text).filterMap CodeRow.ofWord?⟩

/-- What a table gives for a character. -/
def find? (table : CodeTable) (c : Char) : Option (List Char) :=
  (table.rows.find? (·.covers c)).map (·.imageOf c)

/-- The character for which a table of single characters gives something. -/
def source? (table : CodeTable) (image : List Char) : Option Char :=
  (table.rows.find? (·.image == image.map Char.toNat)).map fun row => Char.ofNat row.first

end CodeTable

end Reconcile
