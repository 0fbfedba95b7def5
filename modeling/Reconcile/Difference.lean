import Reconcile.Item

/-!
# Differences

A difference is a key on which the follower and the leader disagree, with what each of them holds.
It is written as an array of two, the follower's item and the leader's, `null` for one that is
missing. A difference that is read has at least one side; one that is put together from two
missing items is of no use, but not ruled out.
-/

namespace Reconcile

/-- What the follower and the leader hold under a key on which they disagree. -/
structure Difference where
  follower : Option Item
  leader : Option Item
  deriving DecidableEq, Repr, Inhabited

/-- How the two sides of a difference disagree. -/
inductive DifferenceKind where
  /-- The follower has the key and the leader does not. -/
  | onlyOnFollower
  /-- The leader has the key and the follower does not. -/
  | onlyOnLeader
  /-- Both have the key, with different values. -/
  | differingValue
  deriving DecidableEq, Repr

/-- Why two items make no difference. -/
inductive DifferenceError where
  /-- Both items are missing. -/
  | noSide
  deriving DecidableEq, Repr

/-- The wording of a difference error. -/
def DifferenceError.message : DifferenceError → String
  | .noSide => "diff entry must have at least one side"

namespace Difference

/-- A key that only the follower has. -/
def onlyOnFollower (item : Item) : Difference :=
  ⟨some item, none⟩

/-- A key that only the leader has. -/
def onlyOnLeader (item : Item) : Difference :=
  ⟨none, some item⟩

/-- A key that both have, with different values. -/
def differing (follower leader : Item) : Difference :=
  ⟨some follower, some leader⟩

/-- The difference of two items, at least one of which has to be there. -/
def ofSides (follower leader : Option Item) : Except DifferenceError Difference :=
  if follower.isNone ∧ leader.isNone then .error .noSide else .ok ⟨follower, leader⟩

/-- How the two sides disagree. -/
def kind (difference : Difference) : DifferenceKind :=
  match difference.follower, difference.leader with
  | some _, none => .onlyOnFollower
  | none, some _ => .onlyOnLeader
  | _, _ => .differingValue

/-- The key of a difference: the follower's if the follower has one. -/
def key (difference : Difference) : String :=
  match difference.follower, difference.leader with
  | some item, _ => item.key
  | none, some item => item.key
  | none, none => ""

/-- The follower's text. -/
def followerValue? (difference : Difference) : Option String :=
  difference.follower.map Item.value

/-- The leader's text. -/
def leaderValue? (difference : Difference) : Option String :=
  difference.leader.map Item.value

/-- Reads one side of a difference. -/
def sideOfJson? : Json → Option (Option Item)
  | .null => some none
  | json => (Item.ofJson? json).map some

/-- Reads a difference as an array of its two sides. -/
def ofJson? : Json → Option Difference
  | .array [follower, leader] => do
    (ofSides (← sideOfJson? follower) (← sideOfJson? leader)).toOption
  | _ => none

/-- Reads a difference from its JSON text. -/
def parse? (text : String) : Option Difference :=
  (Json.parse? text).bind ofJson?

/-- A difference as JSON. -/
def print (difference : Difference) : List Char :=
  Json.printArray
    [Json.printOption Item.print difference.follower, Json.printOption Item.print difference.leader]

/-- A difference as JSON. -/
def render (difference : Difference) : String :=
  String.ofList difference.print

end Difference

end Reconcile
