import Reconcile.Difference.Merge
import Reconcile.Proofs.Ordered

/-!
# What a merge finds

The merge of two ascending lists finds the keys on which they disagree:

* `mem_mergeSorted_iff`: a difference is found exactly if it is what the two lists show under its
  key, that is, the items that they hold there, with different values or one of them missing;
* `exists_mem_mergeSorted_iff`: so a key is among the differences if the values under it differ;
* `ascendingByKey_mergeSorted`: the differences come in key order;
* `isSymmetricDifference_mergeSorted`: as a whole they are the symmetric difference of the two
  lists, taken key by key, and `IsSymmetricDifference.unique` says that no other list is.

A merge can be made piece by piece. If the keys of some pieces come one after the other on both
sides, merging the pieces one by one is merging the whole: `mergeSorted_append`,
`mergeSorted_flatMap`. This needs no order within the pieces. A list merged with itself gives no
difference (`mergeSorted_self`).
-/

namespace Reconcile

/-! ### Merging piece by piece -/

/-- The leader's items that come before all others are found first. -/
theorem mergeSorted_append_left {follower leader before : List Item}
    (h : ∀ l ∈ before, ∀ f ∈ follower, l.key < f.key) :
    mergeSorted follower (before ++ leader) =
      before.map Difference.onlyOnLeader ++ mergeSorted follower leader := by
  induction before with
  | nil => rfl
  | cons l before ih =>
      have ih := ih fun l hl => h l (List.mem_cons_of_mem _ hl)
      cases follower with
      | nil => simp
      | cons f follower =>
          have hlt : l.key < f.key := h l List.mem_cons_self f List.mem_cons_self
          rw [List.cons_append, mergeSorted_cons_cons, if_neg hlt.not_gt, if_pos hlt, ih,
            List.map_cons, List.cons_append]

/-- The follower's items that come before all others are found first. -/
theorem mergeSorted_append_right {follower leader before : List Item}
    (h : ∀ f ∈ before, ∀ l ∈ leader, f.key < l.key) :
    mergeSorted (before ++ follower) leader =
      before.map Difference.onlyOnFollower ++ mergeSorted follower leader := by
  induction before with
  | nil => rfl
  | cons f before ih =>
      have ih := ih fun f hf => h f (List.mem_cons_of_mem _ hf)
      cases leader with
      | nil => simp
      | cons l leader =>
          have hlt : f.key < l.key := h f List.mem_cons_self l List.mem_cons_self
          rw [List.cons_append, mergeSorted_cons_cons, if_pos hlt, ih, List.map_cons,
            List.cons_append]

/-- **Merging two pieces.** If all keys of the first piece come before all keys of the second,
merging both is merging the one and then the other. -/
theorem mergeSorted_append {f₁ f₂ l₁ l₂ : List Item}
    (h : ∀ x ∈ f₁ ++ l₁, ∀ y ∈ f₂ ++ l₂, x.key < y.key) :
    mergeSorted (f₁ ++ f₂) (l₁ ++ l₂) = mergeSorted f₁ l₁ ++ mergeSorted f₂ l₂ := by
  -- The first piece is merged by itself as long as both lists have something of it; then what is
  -- left of it comes before all of the second.
  induction f₁, l₁ using mergeSorted.induct with
  | case1 l₁ =>
      rw [List.nil_append, mergeSorted_nil_left]
      exact mergeSorted_append_left fun l hl f hf =>
        h l (List.mem_append_right _ hl) f (List.mem_append_left _ hf)
  | case2 f₁ =>
      rw [List.nil_append, mergeSorted_nil_right]
      exact mergeSorted_append_right fun f hf l hl =>
        h f (List.mem_append_left _ hf) l (List.mem_append_right _ hl)
  | case3 f f₁ l l₁ hlt ih =>
      have ih := ih fun x hx => h x (by grind)
      rw [List.cons_append, List.cons_append, mergeSorted_cons_cons, mergeSorted_cons_cons,
        if_pos hlt, if_pos hlt, ← List.cons_append, ih, List.cons_append]
  | case4 f f₁ l l₁ hlt hgt ih =>
      have ih := ih fun x hx => h x (by grind)
      rw [List.cons_append, List.cons_append, mergeSorted_cons_cons, mergeSorted_cons_cons,
        if_neg hlt, if_neg hlt, if_pos hgt, if_pos hgt, ← List.cons_append, ih, List.cons_append]
  | case5 f f₁ l l₁ hlt hgt hvalue ih =>
      have ih := ih fun x hx => h x (by grind)
      rw [List.cons_append, List.cons_append, mergeSorted_cons_cons, mergeSorted_cons_cons,
        if_neg hlt, if_neg hlt, if_neg hgt, if_neg hgt, if_pos hvalue, if_pos hvalue, ih]
  | case6 f f₁ l l₁ hlt hgt hvalue ih =>
      have ih := ih fun x hx => h x (by grind)
      rw [List.cons_append, List.cons_append, mergeSorted_cons_cons, mergeSorted_cons_cons,
        if_neg hlt, if_neg hlt, if_neg hgt, if_neg hgt, if_neg hvalue, if_neg hvalue, ih,
        List.cons_append]

/-- **Merging piece by piece.** If the keys of the pieces come one after the other, merging the
whole is merging the pieces in turn. -/
theorem mergeSorted_flatMap {ι : Type} {parts : List ι} {follower leader : ι → List Item}
    (h : parts.Pairwise fun i j =>
      ∀ x ∈ follower i ++ leader i, ∀ y ∈ follower j ++ leader j, x.key < y.key) :
    mergeSorted (parts.flatMap follower) (parts.flatMap leader) =
      parts.flatMap fun i => mergeSorted (follower i) (leader i) := by
  induction parts with
  | nil => simp
  | cons i parts ih =>
      obtain ⟨hi, hparts⟩ := List.pairwise_cons.1 h
      rw [List.flatMap_cons, List.flatMap_cons, List.flatMap_cons, ← ih hparts]
      refine mergeSorted_append fun x hx y hy => ?_
      rw [List.mem_append, List.mem_flatMap, List.mem_flatMap] at hy
      rcases hy with ⟨j, hj, hy⟩ | ⟨j, hj, hy⟩
      · exact hi j hj x hx y (List.mem_append_left _ hy)
      · exact hi j hj x hx y (List.mem_append_right _ hy)

/-- A list does not differ from itself. -/
theorem mergeSorted_self (items : List Item) : mergeSorted items items = [] := by
  induction items with
  | nil => simp
  | cons item items ih =>
      rw [mergeSorted_cons_cons, if_neg (lt_irrefl _), if_neg (lt_irrefl _), if_pos rfl, ih]

/-! ### The differences found -/

/-- The key of a difference is that of its only item, on the follower. -/
@[simp] theorem Difference.key_onlyOnFollower (item : Item) :
    (Difference.onlyOnFollower item).key = item.key :=
  rfl

/-- The key of a difference is that of its only item, on the leader. -/
@[simp] theorem Difference.key_onlyOnLeader (item : Item) :
    (Difference.onlyOnLeader item).key = item.key :=
  rfl

/-- The key of two differing items is that of the follower's. -/
@[simp] theorem Difference.key_differing (follower leader : Item) :
    (Difference.differing follower leader).key = follower.key :=
  rfl

/-- The key of a difference that is found is one of the two lists'. -/
theorem exists_key_of_mem_mergeSorted {follower leader : List Item} {difference : Difference}
    (h : difference ∈ mergeSorted follower leader) :
    ∃ item ∈ follower ++ leader, difference.key = item.key := by
  induction follower, leader using mergeSorted.induct with
  | case1 leader =>
      rw [mergeSorted_nil_left] at h
      obtain ⟨l, hl, rfl⟩ := List.mem_map.1 h
      exact ⟨l, List.mem_append_right _ hl, rfl⟩
  | case2 follower =>
      rw [mergeSorted_nil_right] at h
      obtain ⟨f, hf, rfl⟩ := List.mem_map.1 h
      exact ⟨f, List.mem_append_left _ hf, rfl⟩
  | case3 f follower l leader hlt ih =>
      rw [mergeSorted_cons_cons, if_pos hlt, List.mem_cons] at h
      rcases h with rfl | h
      · exact ⟨f, by simp⟩
      · obtain ⟨item, hitem, hkey⟩ := ih h
        exact ⟨item, by grind, hkey⟩
  | case4 f follower l leader hlt hgt ih =>
      rw [mergeSorted_cons_cons, if_neg hlt, if_pos hgt, List.mem_cons] at h
      rcases h with rfl | h
      · exact ⟨l, by simp⟩
      · obtain ⟨item, hitem, hkey⟩ := ih h
        exact ⟨item, by grind, hkey⟩
  | case5 f follower l leader hlt hgt hvalue ih =>
      rw [mergeSorted_cons_cons, if_neg hlt, if_neg hgt, if_pos hvalue] at h
      obtain ⟨item, hitem, hkey⟩ := ih h
      exact ⟨item, by grind, hkey⟩
  | case6 f follower l leader hlt hgt hvalue ih =>
      rw [mergeSorted_cons_cons, if_neg hlt, if_neg hgt, if_neg hvalue, List.mem_cons] at h
      rcases h with rfl | h
      · exact ⟨f, by simp⟩
      · obtain ⟨item, hitem, hkey⟩ := ih h
        exact ⟨item, by grind, hkey⟩

/-- The differences come in key order. -/
theorem ascendingByKey_mergeSorted {follower leader : List Item}
    (hfollower : AscendingByKey Item.key follower) (hleader : AscendingByKey Item.key leader) :
    AscendingByKey Difference.key (mergeSorted follower leader) := by
  -- The key that goes first is below all others of both lists, and no difference has another key
  -- than theirs.
  induction follower, leader using mergeSorted.induct with
  | case1 leader =>
      rw [mergeSorted_nil_left]
      exact List.pairwise_map.2 hleader
  | case2 follower =>
      rw [mergeSorted_nil_right]
      exact List.pairwise_map.2 hfollower
  | case3 f follower l leader hlt ih =>
      obtain ⟨hf, htail⟩ := List.pairwise_cons.1 hfollower
      obtain ⟨hl, -⟩ := List.pairwise_cons.1 hleader
      rw [mergeSorted_cons_cons, if_pos hlt]
      refine List.pairwise_cons.2 ⟨fun difference h => ?_, ih htail hleader⟩
      obtain ⟨item, hitem, hkey⟩ := exists_key_of_mem_mergeSorted h
      rw [Difference.key_onlyOnFollower, hkey]
      grind
  | case4 f follower l leader hlt hgt ih =>
      obtain ⟨hf, -⟩ := List.pairwise_cons.1 hfollower
      obtain ⟨hl, htail⟩ := List.pairwise_cons.1 hleader
      rw [mergeSorted_cons_cons, if_neg hlt, if_pos hgt]
      refine List.pairwise_cons.2 ⟨fun difference h => ?_, ih hfollower htail⟩
      obtain ⟨item, hitem, hkey⟩ := exists_key_of_mem_mergeSorted h
      rw [Difference.key_onlyOnLeader, hkey]
      grind
  | case5 f follower l leader hlt hgt hvalue ih =>
      rw [mergeSorted_cons_cons, if_neg hlt, if_neg hgt, if_pos hvalue]
      exact ih (List.pairwise_cons.1 hfollower).2 (List.pairwise_cons.1 hleader).2
  | case6 f follower l leader hlt hgt hvalue ih =>
      obtain ⟨hf, hfollower⟩ := List.pairwise_cons.1 hfollower
      obtain ⟨hl, hleader⟩ := List.pairwise_cons.1 hleader
      rw [mergeSorted_cons_cons, if_neg hlt, if_neg hgt, if_neg hvalue]
      refine List.pairwise_cons.2 ⟨fun difference h => ?_, ih hfollower hleader⟩
      obtain ⟨item, hitem, hkey⟩ := exists_key_of_mem_mergeSorted h
      rw [Difference.key_differing, hkey]
      grind

/-- What two lists show under a key: the items that they hold, if these have different values or
one is missing. -/
def differenceAt (follower leader : List Item) (key : String) : Option Difference :=
  if (findKey? follower key).map Item.value = (findKey? leader key).map Item.value then none
  else some ⟨findKey? follower key, findKey? leader key⟩

/-- Without follower items a key differs if the leader has it. -/
theorem differenceAt_nil_left (leader : List Item) (key : String) :
    differenceAt [] leader key = (findKey? leader key).map Difference.onlyOnLeader := by
  rw [differenceAt, findKey?_nil]
  cases findKey? leader key <;> rfl

/-- Without leader items a key differs if the follower has it. -/
theorem differenceAt_nil_right (follower : List Item) (key : String) :
    differenceAt follower [] key = (findKey? follower key).map Difference.onlyOnFollower := by
  rw [differenceAt, findKey?_nil]
  cases findKey? follower key <;> rfl

/-- What is shown under a key has that key. -/
theorem key_of_differenceAt {follower leader : List Item} {key : String} {difference : Difference}
    (h : differenceAt follower leader key = some difference) : difference.key = key := by
  rw [differenceAt] at h
  split at h
  · cases h
  next hne =>
    obtain rfl := Option.some.inj h
    cases hf : findKey? follower key with
    | some f => exact (findKey?_eq_some hf).2
    | none =>
        cases hl : findKey? leader key with
        | some l => exact (findKey?_eq_some hl).2
        | none => simp [hf, hl] at hne

/-- A follower item says nothing about other keys. -/
theorem differenceAt_cons_left {f : Item} {follower leader : List Item} {key : String}
    (h : f.key ≠ key) :
    differenceAt (f :: follower) leader key = differenceAt follower leader key := by
  rw [differenceAt, differenceAt, findKey?_cons, if_neg h]

/-- A leader item says nothing about other keys. -/
theorem differenceAt_cons_right {l : Item} {follower leader : List Item} {key : String}
    (h : l.key ≠ key) :
    differenceAt follower (l :: leader) key = differenceAt follower leader key := by
  rw [differenceAt, differenceAt, findKey?_cons l, if_neg h]

/-- One difference more: it is what is shown under its key, where nothing was shown before, and
under the other keys nothing changes. -/
theorem eq_or_shown_iff {shown shown' : String → Option Difference} {head difference : Difference}
    (hsome : shown head.key = some head) (hnone : shown' head.key = none)
    (hrest : ∀ key, head.key ≠ key → shown key = shown' key) :
    difference = head ∨ shown' difference.key = some difference ↔
      shown difference.key = some difference := by
  by_cases hkey : head.key = difference.key
  · rw [← hkey, hnone, hsome]
    simp [eq_comm]
  · rw [hrest _ hkey]
    refine or_iff_right ?_
    rintro rfl
    exact hkey rfl

/-- **What a merge finds.** A difference is found exactly if it is what the two lists show under
its key. -/
theorem mem_mergeSorted_iff {follower leader : List Item}
    (hfollower : AscendingByKey Item.key follower) (hleader : AscendingByKey Item.key leader)
    {difference : Difference} :
    difference ∈ mergeSorted follower leader ↔
      differenceAt follower leader difference.key = some difference := by
  -- The cases are those of the merge. In each, the item that goes first is the only one of its list
  -- under its key, and no later one has that key, since the keys ascend.
  induction follower, leader using mergeSorted.induct with
  | case1 leader =>
      rw [mergeSorted_nil_left, List.mem_map, differenceAt_nil_left, Option.map_eq_some_iff]
      refine exists_congr fun l => and_congr_left ?_
      rintro rfl
      rw [findKey?_eq_some_iff hleader]
      exact ⟨fun hl => ⟨hl, rfl⟩, And.left⟩
  | case2 follower =>
      rw [mergeSorted_nil_right, List.mem_map, differenceAt_nil_right, Option.map_eq_some_iff]
      refine exists_congr fun f => and_congr_left ?_
      rintro rfl
      rw [findKey?_eq_some_iff hfollower]
      exact ⟨fun hf => ⟨hf, rfl⟩, And.left⟩
  | case3 f follower l leader hlt ih =>
      obtain ⟨hf, htail⟩ := List.pairwise_cons.1 hfollower
      obtain ⟨hl, -⟩ := List.pairwise_cons.1 hleader
      rw [mergeSorted_cons_cons, if_pos hlt, List.mem_cons, ih htail hleader]
      have hnone : findKey? (l :: leader) f.key = none := findKey?_eq_none (by grind)
      refine eq_or_shown_iff ?_ ?_ fun key hkey => differenceAt_cons_left hkey
      · rw [differenceAt, Difference.key_onlyOnFollower, findKey?_cons, if_pos rfl, hnone]
        simp [Difference.onlyOnFollower]
      · rw [differenceAt, Difference.key_onlyOnFollower, findKey?_eq_none hf, hnone, if_pos rfl]
  | case4 f follower l leader hlt hgt ih =>
      obtain ⟨hf, -⟩ := List.pairwise_cons.1 hfollower
      obtain ⟨hl, htail⟩ := List.pairwise_cons.1 hleader
      rw [mergeSorted_cons_cons, if_neg hlt, if_pos hgt, List.mem_cons, ih hfollower htail]
      have hnone : findKey? (f :: follower) l.key = none := findKey?_eq_none (by grind)
      refine eq_or_shown_iff ?_ ?_ fun key hkey => differenceAt_cons_right hkey
      · rw [differenceAt, Difference.key_onlyOnLeader, findKey?_cons l, if_pos rfl, hnone]
        simp [Difference.onlyOnLeader]
      · rw [differenceAt, Difference.key_onlyOnLeader, findKey?_eq_none hl, hnone, if_pos rfl]
  | case5 f follower l leader hlt hgt hvalue ih =>
      obtain ⟨hf, hfollower⟩ := List.pairwise_cons.1 hfollower
      obtain ⟨hl, hleader⟩ := List.pairwise_cons.1 hleader
      have heq : l.key = f.key := le_antisymm (not_lt.1 hlt) (not_lt.1 hgt)
      rw [mergeSorted_cons_cons, if_neg hlt, if_neg hgt, if_pos hvalue, ih hfollower hleader]
      -- equal items show nothing under their key, and nothing that is found later has it
      by_cases hkey : f.key = difference.key
      · rw [differenceAt, differenceAt, ← hkey, findKey?_eq_none hf, findKey?_cons, if_pos rfl,
          findKey?_cons, if_pos heq, findKey?_eq_none (heq ▸ hl), if_pos rfl]
        simp [hvalue]
      · rw [differenceAt_cons_left hkey, differenceAt_cons_right (heq ▸ hkey)]
  | case6 f follower l leader hlt hgt hvalue ih =>
      obtain ⟨hf, hfollower⟩ := List.pairwise_cons.1 hfollower
      obtain ⟨hl, hleader⟩ := List.pairwise_cons.1 hleader
      have heq : l.key = f.key := le_antisymm (not_lt.1 hlt) (not_lt.1 hgt)
      rw [mergeSorted_cons_cons, if_neg hlt, if_neg hgt, if_neg hvalue, List.mem_cons,
        ih hfollower hleader]
      refine eq_or_shown_iff ?_ ?_ fun key hkey =>
        (differenceAt_cons_left hkey).trans (differenceAt_cons_right (heq ▸ hkey))
      · rw [differenceAt, Difference.key_differing, findKey?_cons, if_pos rfl, findKey?_cons,
          if_pos heq]
        simp [hvalue, Difference.differing]
      · rw [differenceAt, Difference.key_differing, findKey?_eq_none hf,
          findKey?_eq_none (heq ▸ hl), if_pos rfl]

/-- **Under which keys a merge finds a difference**: those under which the two lists show different
values, or one of them none. -/
theorem exists_mem_mergeSorted_iff {follower leader : List Item}
    (hfollower : AscendingByKey Item.key follower) (hleader : AscendingByKey Item.key leader)
    {key : String} :
    (∃ difference ∈ mergeSorted follower leader, difference.key = key) ↔
      (findKey? follower key).map Item.value ≠ (findKey? leader key).map Item.value := by
  constructor
  · rintro ⟨difference, hfound, rfl⟩ hsame
    rw [mem_mergeSorted_iff hfollower hleader, differenceAt, if_pos hsame] at hfound
    cases hfound
  · intro hne
    have hshown : differenceAt follower leader key =
        some ⟨findKey? follower key, findKey? leader key⟩ := if_neg hne
    have hkey := key_of_differenceAt hshown
    refine ⟨_, (mem_mergeSorted_iff hfollower hleader).2 ?_, hkey⟩
    rw [hkey, hshown]

/-! ### The symmetric difference -/

/-- Whether some differences are the symmetric difference of two lists, taken key by key. -/
structure IsSymmetricDifference (follower leader : List Item) (differences : List Difference) :
    Prop where
  /-- The keys ascend, so that each occurs once. -/
  ascending : AscendingByKey Difference.key differences
  /-- A key occurs exactly if the two lists show different values under it, or one of them none. -/
  occurs_iff : ∀ key, (∃ difference ∈ differences, difference.key = key) ↔
    (findKey? follower key).map Item.value ≠ (findKey? leader key).map Item.value
  /-- The two sides are what the lists show under the key. -/
  sides : ∀ difference ∈ differences, difference.follower = findKey? follower difference.key ∧
    difference.leader = findKey? leader difference.key
  /-- Where both sides are there, they have one key and different values. -/
  differing : ∀ difference ∈ differences, ∀ f l, difference.follower = some f →
    difference.leader = some l → f.key = l.key ∧ f.value ≠ l.value
  /-- At least one side is there. -/
  nonempty : ∀ difference ∈ differences, difference.follower ≠ none ∨ difference.leader ≠ none

/-- The symmetric difference of two lists is one list. -/
theorem IsSymmetricDifference.unique {follower leader : List Item} {found found' : List Difference}
    (h : IsSymmetricDifference follower leader found)
    (h' : IsSymmetricDifference follower leader found') : found = found' := by
  have hsub : ∀ ⦃xs ys : List Difference⦄, IsSymmetricDifference follower leader xs →
      IsSymmetricDifference follower leader ys → ∀ difference ∈ xs, difference ∈ ys := by
    intro xs ys hxs hys difference hmem
    obtain ⟨other, hother, hkey⟩ :=
      (hys.occurs_iff difference.key).2 ((hxs.occurs_iff _).1 ⟨difference, hmem, rfl⟩)
    obtain ⟨hfollower, hleader⟩ := hxs.sides difference hmem
    obtain ⟨hfollower', hleader'⟩ := hys.sides other hother
    have hsame : other = difference :=
      calc other = ⟨other.follower, other.leader⟩ := rfl
        _ = ⟨findKey? follower difference.key, findKey? leader difference.key⟩ := by
          rw [hfollower', hleader', hkey]
        _ = difference := by rw [← hfollower, ← hleader]
    exact hsame ▸ hother
  exact h.ascending.ext h'.ascending fun difference =>
    ⟨hsub h h' difference, hsub h' h difference⟩

/-- What is found has as its sides what the two lists show under its key, with different values. -/
theorem sides_of_mem_mergeSorted {follower leader : List Item}
    (hfollower : AscendingByKey Item.key follower) (hleader : AscendingByKey Item.key leader)
    {difference : Difference} (h : difference ∈ mergeSorted follower leader) :
    difference.follower = findKey? follower difference.key ∧
      difference.leader = findKey? leader difference.key ∧
      difference.followerValue? ≠ difference.leaderValue? := by
  have hshown := (mem_mergeSorted_iff hfollower hleader).1 h
  rw [differenceAt] at hshown
  split at hshown
  · cases hshown
  next hne =>
    have hsides := Option.some.inj hshown
    have hf : difference.follower = findKey? follower difference.key :=
      (congrArg Difference.follower hsides).symm
    have hl : difference.leader = findKey? leader difference.key :=
      (congrArg Difference.leader hsides).symm
    rw [Difference.followerValue?, Difference.leaderValue?, hf, hl]
    exact ⟨rfl, rfl, hne⟩

/-- **A merge is a symmetric difference.** Of two ascending lists it gives, in key order, the keys
under which they show different values or one of them none, each with what both lists show.

All is read off `mem_mergeSorted_iff`, which tells for one key what the merge finds under it. -/
theorem isSymmetricDifference_mergeSorted {follower leader : List Item}
    (hfollower : AscendingByKey Item.key follower) (hleader : AscendingByKey Item.key leader) :
    IsSymmetricDifference follower leader (mergeSorted follower leader) where
  ascending := ascendingByKey_mergeSorted hfollower hleader
  occurs_iff _ := exists_mem_mergeSorted_iff hfollower hleader
  sides difference hmem := by
    obtain ⟨hf, hl, -⟩ := sides_of_mem_mergeSorted hfollower hleader hmem
    exact ⟨hf, hl⟩
  differing difference hmem f l hf hl := by
    obtain ⟨hf', hl', hne⟩ := sides_of_mem_mergeSorted hfollower hleader hmem
    have hfkey := (findKey?_eq_some (hf'.symm.trans hf)).2
    have hlkey := (findKey?_eq_some (hl'.symm.trans hl)).2
    refine ⟨hfkey.trans hlkey.symm, fun hvalue => hne ?_⟩
    rw [Difference.followerValue?, Difference.leaderValue?, hf, hl, Option.map_some,
      Option.map_some, hvalue]
  nonempty difference hmem := by
    obtain ⟨-, -, hne⟩ := sides_of_mem_mergeSorted hfollower hleader hmem
    rw [← not_and_or]
    rintro ⟨hf, hl⟩
    rw [Difference.followerValue?, Difference.leaderValue?, hf, hl] at hne
    exact hne rfl

/-- Two lists that agree on one key, differ on another, and have one key each of their own. -/
theorem isSymmetricDifference_mergeSorted_four_keys :
    AscendingByKey Item.key [⟨"b/a", "1"⟩, ⟨"b/c", "1"⟩, ⟨"b/d", "1"⟩] ∧
      AscendingByKey Item.key [⟨"b/b", "1"⟩, ⟨"b/c", "2"⟩, ⟨"b/d", "1"⟩] ∧
      IsSymmetricDifference [⟨"b/a", "1"⟩, ⟨"b/c", "1"⟩, ⟨"b/d", "1"⟩]
        [⟨"b/b", "1"⟩, ⟨"b/c", "2"⟩, ⟨"b/d", "1"⟩]
        [.onlyOnFollower ⟨"b/a", "1"⟩, .onlyOnLeader ⟨"b/b", "1"⟩,
          .differing ⟨"b/c", "1"⟩ ⟨"b/c", "2"⟩] := by
  have hfollower : AscendingByKey Item.key [⟨"b/a", "1"⟩, ⟨"b/c", "1"⟩, ⟨"b/d", "1"⟩] := by decide
  have hleader : AscendingByKey Item.key [⟨"b/b", "1"⟩, ⟨"b/c", "2"⟩, ⟨"b/d", "1"⟩] := by decide
  have hmerge : mergeSorted [⟨"b/a", "1"⟩, ⟨"b/c", "1"⟩, ⟨"b/d", "1"⟩]
      [⟨"b/b", "1"⟩, ⟨"b/c", "2"⟩, ⟨"b/d", "1"⟩] =
        [.onlyOnFollower ⟨"b/a", "1"⟩, .onlyOnLeader ⟨"b/b", "1"⟩,
          .differing ⟨"b/c", "1"⟩ ⟨"b/c", "2"⟩] := by
    decide +kernel
  exact ⟨hfollower, hleader, hmerge ▸ isSymmetricDifference_mergeSorted hfollower hleader⟩

end Reconcile
