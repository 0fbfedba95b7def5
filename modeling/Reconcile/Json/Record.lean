import Reconcile.Json.Reader

/-!
# JSON records

A record is a JSON object with known members, or an array that gives the same fields in their
order. Of an object, members of other names are ignored whatever they hold, while a known member
may not stand twice; of an array, fields at the end may be left out but none may be added. Which
fields have to be there is for each record to say.
-/

namespace Reconcile.Json

/-- The names of an object's members, if all of them are texts. -/
def names? (members : List (Text × Json)) : Option (List String) :=
  members.mapM fun member => member.1.string?

/-- The value of the member of a name. -/
def member? (name : String) (members : List (Text × Json)) : Option Json :=
  (members.find? fun member => member.1.string? = some name).map (·.2)

/-- The fields of a record in the order of their names, each with its value if it is there. -/
def fields? (names : List String) : Json → Option (List (Option Json))
  | .array items =>
    if items.length ≤ names.length then
      some (items.map some ++ List.replicate (names.length - items.length) none)
    else none
  | .object members => do
    let written ← names? members
    if names.all fun name => written.count name ≤ 1 then
      some (names.map fun name => member? name members)
    else none
  | _ => none

/-- A field that may be left out or be `null`. -/
def optional? {α : Type} (read? : Json → Option α) : Option Json → Option (Option α)
  | none | some .null => some none
  | some value => (read? value).map some

end Reconcile.Json
