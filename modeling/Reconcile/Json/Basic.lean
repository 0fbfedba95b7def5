/-!
# JSON documents

A JSON document as it is written: members keep their order and may repeat a name, a number keeps
its spelling, and a string may hold halves of surrogate pairs that no character corresponds to.
What a document means is up to its reader; what it means as a record stands in
`Reconcile.Json.Record`, as a plain value in `Reconcile.Json.Value`.
-/

namespace Reconcile

/-- One piece of a JSON string. -/
inductive Json.Piece where
  /-- A character, written as itself or by an escape. -/
  | char (c : Char)
  /-- Half of a surrogate pair whose other half is not next to it. -/
  | half (unit : Nat)
  deriving DecidableEq, Repr, Inhabited

/-- The content of a JSON string. -/
abbrev Json.Text := List Json.Piece

/-- A JSON document. -/
inductive Json where
  | null
  | bool (value : Bool)
  /-- A number, by its spelling. -/
  | number (spelling : List Char)
  | string (content : Json.Text)
  | array (items : List Json)
  /-- An object, with its members in the order in which they are written. -/
  | object (members : List (Json.Text × Json))
  deriving Repr, Inhabited

namespace Json

/-- The characters of a string's content, if it holds no half of a surrogate pair. -/
def Text.chars? : Text → Option (List Char)
  | [] => some []
  | .char c :: pieces => (Text.chars? pieces).map (c :: ·)
  | .half _ :: _ => none

/-- The text of a string's content, if it holds no half of a surrogate pair. -/
def Text.string? (content : Text) : Option String :=
  (Text.chars? content).map String.ofList

/-- The content that stands for a text. -/
def Text.ofChars (text : List Char) : Text :=
  text.map .char

/-- Characters are no lone surrogates, so a text made of them has them all. -/
@[simp] theorem Text.chars?_ofChars (text : List Char) :
    Text.chars? (Text.ofChars text) = some text := by
  induction text with
  | nil => rfl
  | cons c text ih =>
    rw [Text.ofChars, List.map_cons, ← Text.ofChars, Text.chars?, ih, Option.map_some]

/-- The text of a JSON string. -/
def text? : Json → Option String
  | .string content => content.string?
  | _ => none

/-- The documents of a JSON array. -/
def items? : Json → Option (List Json)
  | .array items => some items
  | _ => none

end Json

end Reconcile
