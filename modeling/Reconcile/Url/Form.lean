import Reconcile.Url.Percent

/-!
# Form encoding

Pairs of texts as a query: names and values with an equals sign between them and an ampersand
between the pairs, spaces as plus signs, and everything but letters, digits and a few marks by its
bytes.
-/

namespace Reconcile.Form

/-- The characters that stand for themselves. -/
def isPlain (c : Char) : Bool :=
  c.isAlphanum || ['*', '-', '.', '_'].contains c

/-- A character of a name or value. -/
def encodeChar (c : Char) : List Char :=
  if c = ' ' then ['+'] else Percent.encodeChar isPlain c

/-- A name or a value. -/
def encode (text : List Char) : List Char :=
  text.flatMap encodeChar

/-- A name and its value. -/
def encodePair (pair : String × String) : List Char :=
  encode pair.1.toList ++ '=' :: encode pair.2.toList

/-- Pairs behind what a query already holds. -/
def append (query : List Char) : List (String × String) → List Char
  | [] => query
  | pair :: pairs =>
    append ((if query.isEmpty then [] else query ++ ['&']) ++ encodePair pair) pairs

end Reconcile.Form
