import Reconcile.Difference

/-!
# Merging two ordered lists of items

The differences between two lists of items in key order, found by walking both at once. A key in
one list only gives a one-sided difference, a key in both with different values a two-sided one,
and an item in both gives none. Lists that are not in order are walked in the same way.
-/

namespace Reconcile

/-- The differences between the follower's items and the leader's. -/
def mergeSorted : List Item → List Item → List Difference
  | [], leader => leader.map Difference.onlyOnLeader
  | follower, [] => follower.map Difference.onlyOnFollower
  | f :: follower, l :: leader =>
    if f.key < l.key then .onlyOnFollower f :: mergeSorted follower (l :: leader)
    else if l.key < f.key then .onlyOnLeader l :: mergeSorted (f :: follower) leader
    else if f.value = l.value then mergeSorted follower leader
    else .differing f l :: mergeSorted follower leader
  termination_by follower leader => follower.length + leader.length

/-- Against no follower items, all items of the leader differ. -/
@[simp] theorem mergeSorted_nil_left (leader : List Item) :
    mergeSorted [] leader = leader.map Difference.onlyOnLeader := by
  rw [mergeSorted]

/-- Against no leader items, all items of the follower differ. -/
@[simp] theorem mergeSorted_nil_right (follower : List Item) :
    mergeSorted follower [] = follower.map Difference.onlyOnFollower := by
  cases follower <;> simp [mergeSorted]

/-- The lesser key goes first, and equal keys go together. -/
theorem mergeSorted_cons_cons (f l : Item) (follower leader : List Item) :
    mergeSorted (f :: follower) (l :: leader) =
      if f.key < l.key then .onlyOnFollower f :: mergeSorted follower (l :: leader)
      else if l.key < f.key then .onlyOnLeader l :: mergeSorted (f :: follower) leader
      else if f.value = l.value then mergeSorted follower leader
      else .differing f l :: mergeSorted follower leader := by
  rw [mergeSorted]

end Reconcile
