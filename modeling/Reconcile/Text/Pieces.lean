/-!
# Pieces of a text

A text cut at the occurrences of a character, and put together again.
-/

namespace Reconcile.Pieces

/-- The pieces of a text between the occurrences of a character. -/
def splitOn (separator : Char) : List Char → List (List Char)
  | [] => [[]]
  | c :: rest =>
    if c = separator then [] :: splitOn separator rest
    else
      match splitOn separator rest with
      | [] => [[c]]
      | piece :: pieces => (c :: piece) :: pieces

/-- Puts texts together with a character between any two. -/
def joinWith (separator : Char) : List (List Char) → List Char
  | [] => []
  | [piece] => piece
  | piece :: pieces => piece ++ separator :: joinWith separator pieces

/-- The words of a text, which have spaces and line ends between them. -/
def words (text : String) : List (List Char) :=
  let (first, others) : List Char × List (List Char) :=
    text.toList.foldr
      (fun c (word, words) =>
        if c = ' ' ∨ c = '\n' then ([], if word.isEmpty then words else word :: words)
        else (c :: word, words))
      ([], [])
  if first.isEmpty then others else first :: others

/-- A text is cut into at least one piece. -/
theorem splitOn_ne_nil (separator : Char) (text : List Char) : splitOn separator text ≠ [] := by
  cases text with
  | nil => simp [splitOn]
  | cons c rest =>
    rw [splitOn]
    split
    · simp
    · split <;> simp

end Reconcile.Pieces
