import Reconcile.Key
import Reconcile.Json.Printer
import Reconcile.Json.Record

/-!
# Items

An item is a key with the metadata that is stored under it. The metadata is kept as the text it
is, whatever it holds.
-/

namespace Reconcile

/-- A key and the text stored under it. -/
structure Item where
  key : String
  value : String
  deriving DecidableEq, Repr, Inhabited

namespace Item

/-- The object key of an item, if its key has a bucket. -/
def objectKey? (item : Item) : Option String :=
  (splitKey? item.key).map (·.2)

/-- The item that an object with a value is. -/
def ofObject (name : ObjectName) (value : String) : Item :=
  ⟨name.fullKey, value⟩

/-- Reads an item as a record of its key and its value, both of which have to be there. -/
def ofJson? (json : Json) : Option Item := do
  match ← Json.fields? ["key", "value"] json with
  | [some key, some value] => some ⟨← key.text?, ← value.text?⟩
  | _ => none

/-- An item as JSON. -/
def print (item : Item) : List Char :=
  Json.printObject [("key", Json.printString item.key), ("value", Json.printString item.value)]

/-- An item as JSON. -/
def render (item : Item) : String :=
  String.ofList item.print

/-- Reads an item from its JSON text. -/
def parse? (text : String) : Option Item :=
  (Json.parse? text).bind ofJson?

end Item

end Reconcile
