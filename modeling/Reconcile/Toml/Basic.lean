/-!
# TOML values

What a TOML document holds: a table, whose members are values by name in the order in which they
are first mentioned. A table remembers where it comes from, since that decides whether later lines
may add to it. Of numbers that are not whole and of dates it is only kept that they are such.
-/

namespace Reconcile.Toml

/-- Where a table comes from. -/
inductive Origin where
  /-- It is written as a value. Nothing is added to it. -/
  | inline
  /-- It has a header of its own. -/
  | header
  /-- It is named in the header of a table inside it. It may still get a header of its own. -/
  | implied
  /-- It is named in a key with dots. Such keys may add to it. -/
  | dotted
  deriving DecidableEq, Repr, Inhabited

/-- A value. -/
inductive Value where
  | string (text : String)
  | integer (value : Int)
  | float
  | boolean (value : Bool)
  /-- A date, a time of day, or both. -/
  | moment
  | array (items : List Value)
  | table (origin : Origin) (members : List (String × Value))
  /-- The tables that share a header in double brackets. -/
  | tables (items : List (List (String × Value)))
  deriving Repr, Inhabited

/-- The members of a table. -/
abbrev Members := List (String × Value)

/-- The value of a member. -/
def Members.get? (members : Members) (name : String) : Option Value :=
  (members.find? fun member => member.1 == name).map (·.2)

/-- Members of which one has a new value. A member that is new comes last. -/
def Members.set (members : Members) (name : String) (value : Value) : Members :=
  match members with
  | [] => [(name, value)]
  | member :: rest =>
    if member.1 = name then (name, value) :: rest else member :: Members.set rest name value

end Reconcile.Toml
