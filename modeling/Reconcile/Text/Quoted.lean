import Reconcile.Text.Printable

/-!
# Quoted texts

Two ways of showing a text to a person without ambiguity. `Quoted.quote` puts it between double
quotes and escapes what has no shape of its own; `Quoted.ascii` escapes everything outside
printable ASCII and adds no quotes.
-/

namespace Reconcile.Quoted

/-- The digits of a number in base sixteen, without leading zeros. -/
def hex (n : Nat) : String :=
  String.ofList (Nat.toDigits 16 n)

/-- A character by its number, as `u` and the number in braces behind a backslash. -/
def byNumber (c : Char) : String :=
  "\\u\x7b" ++ hex c.toNat ++ "\x7d"

/-- A character between double quotes: the quote, the backslash and the usual controls have short
escapes, other characters without a shape of their own go by number. -/
def quoteChar (c : Char) : String :=
  if c = '"' then "\\\""
  else if c = '\\' then "\\\\"
  else if c = '\t' then "\\t"
  else if c = '\r' then "\\r"
  else if c = '\n' then "\\n"
  else if c = '\x00' then "\\0"
  else if Printable.isPrintable c then c.toString
  else byNumber c

/-- A text between double quotes. -/
def quote (text : String) : String :=
  "\"" ++ String.join (text.toList.map quoteChar) ++ "\""

/-- A character in printable ASCII: quotes and backslashes get a backslash, the usual controls
their short escapes, all else outside printable ASCII goes by number. -/
def asciiChar (c : Char) : String :=
  if c = '\t' then "\\t"
  else if c = '\r' then "\\r"
  else if c = '\n' then "\\n"
  else if c = '\'' then "\\'"
  else if c = '"' then "\\\""
  else if c = '\\' then "\\\\"
  else if 0x20 ≤ c.toNat ∧ c.toNat < 0x7F then c.toString
  else byNumber c

/-- A text in printable ASCII. -/
def ascii (text : String) : String :=
  String.join (text.toList.map asciiChar)

end Reconcile.Quoted
