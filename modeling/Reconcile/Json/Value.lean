import Reconcile.Json.Basic
import Reconcile.Json.Number
import Reconcile.Json.Printer
import Reconcile.Ordered

/-!
# JSON values

A document as a plain value: strings are texts, numbers are numbers, and an object has each name
once, the last of its values counting. A value is written without blanks and with the members of
objects in the order of their names, so that two documents may have the same value but are written
alike only as values.

A value may not be nested deeper than a given number of levels.
-/

namespace Reconcile.Json

/-- A plain value. -/
inductive Value where
  | null
  | bool (value : Bool)
  | number (value : Number)
  | string (text : String)
  | array (items : List Value)
  /-- An object with its members in the order of their names. -/
  | object (members : List (String × Value))
  deriving Repr, Inhabited

namespace Value

mutual

/-- The value of a document, of at most so many levels of arrays and objects. -/
def ofJson? (levels : Nat) : Json → Option Value
  | .null => some .null
  | .bool value => some (.bool value)
  | .number spelling => (Number.ofSpelling? spelling).map .number
  | .string content => content.string?.map .string
  | .array items =>
    match levels with
    | 0 => none
    | levels + 1 => (ofItems? levels items).map .array
  | .object members =>
    match levels with
    | 0 => none
    | levels + 1 => (ofMembers? levels [] members).map .object

/-- The values of an array's items. -/
def ofItems? (levels : Nat) : List Json → Option (List Value)
  | [] => some []
  | item :: items => do
    let value ← ofJson? levels item
    return value :: (← ofItems? levels items)

/-- The members of an object behind those already read, the last of a name counting. -/
def ofMembers? (levels : Nat) (read : List (String × Value)) :
    List (Text × Json) → Option (List (String × Value))
  | [] => some read
  | (name, item) :: members => do
    let name ← name.string?
    let value ← ofJson? levels item
    ofMembers? levels (insertByKey Prod.fst (name, value) read) members

end

mutual

/-- A value as it is written. -/
def print : Value → List Char
  | .null => ['n', 'u', 'l', 'l']
  | .bool true => ['t', 'r', 'u', 'e']
  | .bool false => ['f', 'a', 'l', 's', 'e']
  | .number value => value.print
  | .string text => printString text
  | .array items => printArray (printItems items)
  | .object members => printObject (printMembers members)

/-- Values as they are written. -/
def printItems : List Value → List (List Char)
  | [] => []
  | item :: items => print item :: printItems items

/-- The values of members as they are written. -/
def printMembers : List (String × Value) → List (String × List Char)
  | [] => []
  | (name, value) :: members => (name, print value) :: printMembers members

end

/-- The value of a member of an object. -/
def member? (name : String) : Value → Option Value
  | .object members => (members.find? fun member => member.1 = name).map (·.2)
  | _ => none

/-- The text of a string. -/
def text? : Value → Option String
  | .string text => some text
  | _ => none

/-- The text that a value stands for where texts are expected: a string's own text, and any other
value as it is written. -/
def asText : Value → String
  | .string text => text
  | value => String.ofList value.print

end Value

end Reconcile.Json
