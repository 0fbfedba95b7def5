import Reconcile.Toml.Bare
import Reconcile.Toml.Text

/-!
# Reading TOML

A document is a sequence of statements, each on a line of its own: headers, and keys with their
values. Blanks, comments and empty lines between them do not count. Inside arrays lines may end
anywhere, inside tables in braces nowhere but in arrays and strings.

Keys may have several names with dots between them. Neither they nor values may be nested deeper
than `maxLevels`.
-/

namespace Reconcile.Toml

/-- The greatest number of names of a key, and of arrays and tables around a value. -/
def maxLevels : Nat :=
  79

/-- A statement. A key is given by the names in front of its last name, and that one. -/
inductive Statement where
  /-- A key with its value. -/
  | pair (parents : List String) (name : String) (value : Value)
  /-- The header of a table. -/
  | header (parents : List String) (name : String)
  /-- The header of one more of the tables that share it. -/
  | itemHeader (parents : List String) (name : String)
  deriving Repr, Inhabited

/-! ### Blanks -/

/-- Whether a character is a blank inside a line. -/
def isSpace (c : Char) : Bool :=
  c == ' ' || c == '\t'

/-- A text without the blanks in front. -/
def skipSpaces (text : List Char) : List Char :=
  text.dropWhile isSpace

/-- A text without the comment in front, if there is one. -/
def skipComment (text : List Char) : List Char :=
  match text with
  | '#' :: rest => rest.dropWhile isText
  | text => text

/-- What follows the end of a statement: a line end or the end of the text, behind blanks and a
comment. -/
def endOfLine? (text : List Char) : Option (List Char) :=
  match skipComment (skipSpaces text) with
  | [] => some []
  | text => lineEnd? text

/-- A text without the blanks, comments and line ends in front. A comment has to end its line. -/
def skipLines (text : List Char) : List Char :=
  match skipSpaces text with
  | [] => []
  | c :: rest =>
    match _h : lineEnd? (skipComment (c :: rest)) with
    | some following => if following.length < text.length then skipLines following else []
    | none => if c = '#' ∧ skipComment (c :: rest) = [] then [] else c :: rest
  termination_by text.length

/-! ### Keys -/

/-- Whether a character may stand in a name without quotes. -/
def isNameChar (c : Char) : Bool :=
  c.isAlphanum || c == '_' || c == '-'

/-- Reads one name of a key. -/
def name? : Reader String
  | '"' :: rest => (lineFrom .double .plain rest).map fun read => (String.ofList read.1, read.2)
  | '\'' :: rest => (lineFrom .single .plain rest).map fun read => (String.ofList read.1, read.2)
  | text =>
    let (name, rest) := text.span isNameChar
    if name.isEmpty then none else some (String.ofList name, rest)

/-- Reads a key of at most so many names with the blanks around it: the names in front of the last
one, and that one. -/
def key? (levels : Nat) : Reader (List String × String) := fun text =>
  match levels with
  | 0 => none
  | levels + 1 => do
    let (name, rest) ← name? (skipSpaces text)
    match skipSpaces rest with
    | '.' :: rest =>
      let ((parents, last), rest) ← key? levels rest
      return ((name :: parents, last), rest)
    | rest => return (([], name), rest)

/-! ### Values -/

/-- Reads the items of an array and its closing bracket; `item?` reads an item. A comma may follow
the last one. -/
def items? (item? : Reader Value) (text : List Char) : Option (List Value × List Char) :=
  match skipLines text with
  | ']' :: rest => some ([], rest)
  | start => do
    let (item, rest) ← item? start
    match skipLines rest with
    | ']' :: rest => some ([item], rest)
    | ',' :: rest =>
      if rest.length < text.length then
        let (items, rest) ← items? item? rest
        return (item :: items, rest)
      else none
    | _ => none
  termination_by text.length

/-- Puts a value into a table under a key of which `parents` are the names in front. The names in
front may be new or of tables from keys with dots; the last one has to be new. -/
def insert? (members : Members) (parents : List String) (name : String) (value : Value) :
    Option Members :=
  match parents with
  | [] => if (members.get? name).isSome then none else some (members.set name value)
  | parent :: parents =>
    match members.get? parent with
    | none => do
      return members.set parent (.table .dotted (← insert? [] parents name value))
    | some (.table .dotted inner) => do
      return members.set parent (.table .dotted (← insert? inner parents name value))
    | some (.table .implied inner) =>
      if parents.isEmpty then none
      else do return members.set parent (.table .implied (← insert? inner parents name value))
    | some (.tables items) =>
      match items.getLast? with
      | some inner =>
        if parents.isEmpty then none
        else do
          return members.set parent
            (.tables (items.dropLast ++ [← insert? inner parents name value]))
      | none => none
    | some _ => none

/-- Reads a key with its value; `value?` reads a value. -/
def pair? (value? : Reader Value) : Reader (List String × String × Value) := fun text => do
  let ((parents, name), rest) ← key? maxLevels text
  match rest with
  | '=' :: rest =>
    let (value, rest) ← value? (skipSpaces rest)
    return ((parents, name, value), rest)
  | _ => none

/-- Reads the pairs of a table in braces behind those already read, and its closing brace. -/
def pairs? (value? : Reader Value) (members : Members) (text : List Char) :
    Option (Members × List Char) := do
  let ((parents, name, value), rest) ← pair? value? text
  let members ← insert? members parents name value
  match skipSpaces rest with
  | '\x7d' :: rest => some (members, rest)
  | ',' :: rest => if rest.length < text.length then pairs? value? members rest else none
  | _ => none
  termination_by text.length

/-- Reads a value with at most so many arrays and tables in one another. -/
def value? (levels : Nat) : Reader Value := fun text =>
  match text with
  | '"' :: _ => (string? .double text).map fun read => (.string read.1, read.2)
  | '\'' :: _ => (string? .single text).map fun read => (.string read.1, read.2)
  | '[' :: rest =>
    match levels with
    | 0 => none
    | levels + 1 => (items? (value? levels) rest).map fun read => (.array read.1, read.2)
  | '\x7b' :: rest =>
    match levels with
    | 0 => none
    | levels + 1 =>
      match skipSpaces rest with
      | '\x7d' :: rest => some (.table .inline [], rest)
      | rest =>
        (pairs? (value? levels) [] rest).map fun read => (.table .inline read.1, read.2)
  | text => Bare.value? text

/-! ### Statements -/

/-- Reads a statement up to the end of its line. -/
def statement? (text : List Char) : Option (Statement × List Char) := do
  let (statement, rest) : Statement × List Char ←
    match text with
    | '[' :: '[' :: rest => do
      let ((parents, name), rest) ← key? maxLevels rest
      match rest with
      | ']' :: ']' :: rest => some (Statement.itemHeader parents name, rest)
      | _ => none
    | '[' :: rest => do
      let ((parents, name), rest) ← key? maxLevels rest
      match rest with
      | ']' :: rest => some (Statement.header parents name, rest)
      | _ => none
    | text => do
      let ((parents, name, value), rest) ← pair? (value? maxLevels) text
      some (Statement.pair parents name value, rest)
  return (statement, ← endOfLine? rest)

/-- Reads the statements of a text up to its end. -/
def statements? (text : List Char) : Option (List Statement) :=
  match skipLines text with
  | [] => some []
  | start => do
    let (statement, rest) ← statement? start
    if rest.length < text.length then return statement :: (← statements? rest) else none
  termination_by text.length

end Reconcile.Toml
