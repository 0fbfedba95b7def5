/-!
# Blank characters

The characters that Unicode calls white space, and texts with them removed at both ends.
-/

namespace Reconcile.Blank

/-- Whether a character is white space: the ASCII blanks and line ends, next line, the no-break
space, and the spaces and separators of the higher blocks. -/
def isBlank (c : Char) : Bool :=
  let n := c.toNat
  (9 ≤ n && n ≤ 13) || n == 0x20 || n == 0x85 || n == 0xA0 || n == 0x1680 ||
    (0x2000 ≤ n && n ≤ 0x200A) || n == 0x2028 || n == 0x2029 || n == 0x202F || n == 0x205F ||
    n == 0x3000

/-- A list of characters without the blanks at its two ends. -/
def trimList (text : List Char) : List Char :=
  ((text.dropWhile isBlank).reverse.dropWhile isBlank).reverse

/-- A text without the blanks at its two ends. -/
def trim (text : String) : String :=
  String.ofList (trimList text.toList)

end Reconcile.Blank
