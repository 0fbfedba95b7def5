import Reconcile.Text.Digit
import Reconcile.Text.Utf8

/-!
# Percent encoding

A byte written as a percent sign and its two digits in base sixteen. Which characters need it
depends on the part of a URL they stand in; outside ASCII all do, by their UTF-8 bytes.
-/

namespace Reconcile.Percent

/-- A byte as a percent sign and two digits. -/
def encodeByte (b : UInt8) : List Char :=
  ['%', Digit.upper (b.toNat / 16), Digit.upper (b.toNat % 16)]

/-- A character: as it is if it is ASCII and kept, by its bytes if not. -/
def encodeChar (keep : Char → Bool) (c : Char) : List Char :=
  if c.toNat < 0x80 ∧ keep c then [c] else (String.utf8EncodeChar c).flatMap encodeByte

/-- A text with the characters encoded that are not kept. -/
def encode (keep : Char → Bool) (text : List Char) : List Char :=
  text.flatMap (encodeChar keep)

/-- The bytes of a text whose encoded bytes are decoded. A percent sign without two digits stands
for itself. -/
def decode : List Char → List UInt8
  | [] => []
  | '%' :: high :: low :: rest =>
    match Digit.hexValue? high, Digit.hexValue? low with
    | some h, some l => UInt8.ofNat (h * 16 + l) :: decode rest
    | _, _ => 0x25 :: decode (high :: low :: rest)
  | c :: rest => String.utf8EncodeChar c ++ decode rest

/-! ### The parts of a URL -/

/-- Whether a character is no control. -/
def isGraphic (c : Char) : Bool :=
  0x20 ≤ c.toNat && c.toNat ≠ 0x7F

/-- The characters kept in a fragment. -/
def keepInFragment (c : Char) : Bool :=
  isGraphic c && !([' ', '"', '<', '>', '\x60'].contains c)

/-- The characters kept in a path that is read. -/
def keepInPath (c : Char) : Bool :=
  keepInFragment c && !(['#', '?', '{', '}'].contains c)

/-- The characters kept in a name and password. -/
def keepInUserinfo (c : Char) : Bool :=
  keepInPath c && !(['/', ':', ';', '=', '@', '[', '\\', ']', '^', '|'].contains c)

/-- The characters kept in a path segment that is added. -/
def keepInSegment (special : Bool) (c : Char) : Bool :=
  keepInPath c && !(['/', '%'].contains c) && !(special && c == '\\')

/-- The characters kept in a query. -/
def keepInQuery (special : Bool) (c : Char) : Bool :=
  isGraphic c && !([' ', '"', '#', '<', '>'].contains c) && !(special && c == '\'')

end Reconcile.Percent
