import Reconcile.Difference.Merge

/-!
# Comparing a chunk

A chunk of the follower's items is compared with the leader's items of its range, which arrive one
by one in key order. No more of them are held than a chunk may have items: when that many are
held, they are merged with the follower's items up to the last of them, and both are dropped.
-/

namespace Reconcile

/-- Halves the positions from `base` on, `size` of them, down to one, going on with the upper half
where its first position holds. Gives the number of positions before the upper part if positions
that hold come before those that do not. -/
def bisect (holds : Nat → Bool) (base size : Nat) : Nat :=
  if 1 < size then
    let half := size / 2
    bisect holds (if holds (base + half) then base + half else base) (size - half)
  else if holds base then base + 1 else base
  termination_by size
  decreasing_by omega

/-- The number of elements at the start of a list that a property holds of, found by halving. Where
elements that it holds of do not all come first, this is some position at which the property
changes. -/
def partitionPoint {α : Type} (holds : α → Bool) (list : List α) : Nat :=
  if list.isEmpty then 0
  else
    let array := list.toArray
    bisect (fun i => array[i]?.any holds) 0 array.size

/-- The state of a comparison. -/
structure Comparison where
  /-- The greatest number of the leader's items to hold; 0 counts as 1. -/
  capacity : Nat
  /-- The follower's items that are left. -/
  follower : List Item
  /-- The leader's items that are held. -/
  leader : Array Item

namespace Comparison

/-- Before the leader's first item. -/
def start (capacity : Nat) (follower : List Item) : Comparison :=
  ⟨capacity, follower, #[]⟩

/-- Takes the leader's next item. Gives the differences found if that many items are held now. -/
def push (comparison : Comparison) (item : Item) : List Difference × Comparison :=
  let leader := comparison.leader.push item
  if leader.size < max comparison.capacity 1 then ([], { comparison with leader })
  else
    let covered := partitionPoint (·.key ≤ item.key) comparison.follower
    (mergeSorted (comparison.follower.take covered) leader.toList,
      { comparison with follower := comparison.follower.drop covered, leader := #[] })

/-- Compares what is left once the leader has no more items. -/
def finish (comparison : Comparison) : List Difference :=
  mergeSorted comparison.follower comparison.leader.toList

end Comparison

end Reconcile
