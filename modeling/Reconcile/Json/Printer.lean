import Reconcile.Json.Basic
import Reconcile.Text.Digit

/-!
# Writing JSON

The one spelling of texts that this library writes. In a string only the quote, the backslash and
the controls below 0x20 are escaped, so what is written holds no line end and reads back as the
text it was made from.
-/

namespace Reconcile.Json

/-- A character inside a string. -/
def printChar (c : Char) : List Char :=
  if c = '"' then ['\\', '"']
  else if c = '\\' then ['\\', '\\']
  else if c = '\x08' then ['\\', 'b']
  else if c = '\x0c' then ['\\', 'f']
  else if c = '\n' then ['\\', 'n']
  else if c = '\r' then ['\\', 'r']
  else if c = '\t' then ['\\', 't']
  else if c.toNat < 0x20 then
    ['\\', 'u', '0', '0', Digit.lower (c.toNat / 16), Digit.lower (c.toNat % 16)]
  else [c]

/-- A string between its quotes. -/
def printText (text : List Char) : List Char :=
  '"' :: (text.flatMap printChar ++ ['"'])

/-- A string between its quotes. -/
def printString (text : String) : List Char :=
  printText text.toList

/-- Pieces of text with a comma between any two. -/
def commaSeparated : List (List Char) → List Char
  | [] => []
  | [piece] => piece
  | piece :: pieces => piece ++ ',' :: commaSeparated pieces

/-- An array of written values. -/
def printArray (items : List (List Char)) : List Char :=
  '[' :: (commaSeparated items ++ [']'])

/-- An object of written values. -/
def printObject (members : List (String × List Char)) : List Char :=
  let written := members.map fun member => printString member.1 ++ ':' :: member.2
  '{' :: (commaSeparated written ++ ['}'])

/-- A value that may be missing; then `null`. -/
def printOption {α : Type} (print : α → List Char) : Option α → List Char
  | none => ['n', 'u', 'l', 'l']
  | some value => print value

end Reconcile.Json
