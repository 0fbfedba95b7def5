import Reconcile.Toml.Reader

/-!
# TOML documents

The table that the statements of a document build up. A header opens a table, to which the keys
after it add. It may be opened once only; but a table that so far was only named in the headers of
tables inside it can still be opened, and a header in double brackets opens a further table each
time.
-/

namespace Reconcile.Toml

/-- Changes the members of the table that a header's names lead to. Names of no table yet lead to a
new one, and the name of several tables leads to the last of them. -/
def change? (change : Members → Option Members) (members : Members) :
    List String → Option Members
  | [] => change members
  | name :: names =>
    match members.get? name with
    | none => do return members.set name (.table .implied (← change? change [] names))
    | some (.table .inline _) => none
    | some (.table origin inner) => do
      return members.set name (.table origin (← change? change inner names))
    | some (.tables items) =>
      match items.getLast? with
      | some inner => do
        return members.set name (.tables (items.dropLast ++ [← change? change inner names]))
      | none => none
    | some _ => none

/-- Opens a table. -/
def open? (name : String) (members : Members) : Option Members :=
  match members.get? name with
  | none => some (members.set name (.table .header []))
  | some (.table .implied inner) => some (members.set name (.table .header inner))
  | some _ => none

/-- Opens one more of the tables that share a header. -/
def openItem? (name : String) (members : Members) : Option Members :=
  match members.get? name with
  | none => some (members.set name (.tables [[]]))
  | some (.tables items) => some (members.set name (.tables (items ++ [[]])))
  | some _ => none

/-- Carries out a statement on a document of which the table with a header is open. -/
def step? (state : Members × List String) : Statement → Option (Members × List String)
  | .pair parents name value => do
    return (← change? (fun members => insert? members parents name value) state.1 state.2, state.2)
  | .header parents name => do
    return (← change? (open? name) state.1 parents, parents ++ [name])
  | .itemHeader parents name => do
    return (← change? (openItem? name) state.1 parents, parents ++ [name])

/-- A text without the mark of its encoding in front. -/
def withoutMark : List Char → List Char
  | '\ufeff' :: text => text
  | text => text

/-- Reads a document. -/
def parse? (text : String) : Option Members := do
  let statements ← statements? (withoutMark text.toList)
  return (← statements.foldlM step? ([], [])).1

end Reconcile.Toml
