import Reconcile.Comparison
import Reconcile.Proofs.Merge

/-!
# A comparison is a merge

A comparison takes the leader's items one by one and holds no more of them than a chunk may have
items (`Comparison.size_leader_after_lt`). All the same it finds what a merge of the whole lists
finds: `Comparison.found_eq`. The two together are `Comparison.mergesWithin`.

Where it cuts the follower's list, by halving, is where the keys up to the last of the leader's
items end (`take_partitionPoint`, `drop_partitionPoint`), so that each part is merged with what
belongs to it.
-/

namespace Reconcile

/-! ### The place found by halving -/

/-- Halving finds the number of positions that a property holds of, if it holds of just the first
ones. -/
theorem bisect_eq {holds : Nat → Bool} {count : Nat} (h : ∀ i, holds i = decide (i < count))
    (base size : Nat) (hbase : base ≤ count) (hcount : count ≤ base + size) (hsize : 0 < size) :
    bisect holds base size = count := by
  induction base, size using bisect.induct holds with
  | case1 base size hlt half ih =>
      rw [bisect, if_pos hlt]
      simp only [h] at ih ⊢
      refine ih ?_ ?_ ?_
      · split <;> simp_all only [decide_eq_true_eq]
        omega
      · split <;> simp_all only [decide_eq_true_eq] <;> omega
      · omega
  | case2 base size hlt hholds =>
      rw [bisect, if_neg hlt, if_pos hholds]
      rw [h, decide_eq_true_eq] at hholds
      omega
  | case3 base size hlt hholds =>
      rw [bisect, if_neg hlt, if_neg hholds]
      rw [h, decide_eq_true_eq] at hholds
      omega

variable {α : Type} {holds : α → Bool} {list : List α}

/-- Of a list in which a property holds of just the first elements, it holds at a position exactly
if the position comes before the end of these. -/
theorem any_getElem?_eq (h : list.Pairwise fun a b => holds b = true → holds a = true) (i : Nat) :
    list[i]?.any holds = decide (i < (list.takeWhile holds).length) := by
  induction list generalizing i with
  | nil => simp
  | cons a list ih =>
      obtain ⟨ha, hlist⟩ := List.pairwise_cons.1 h
      rw [List.takeWhile_cons]
      cases hholds : holds a with
      | true =>
          cases i with
          | zero => simp [hholds]
          | succ i => simpa using ih hlist i
      | false =>
          cases i with
          | zero => simp [hholds]
          | succ i =>
              have hnone : ∀ b ∈ list, holds b = false := fun b hb =>
                Bool.eq_false_iff.2 fun hb' => by simp [ha b hb hb'] at hholds
              cases hi : list[i]? with
              | none => simp [hi]
              | some b => simp [hi, hnone b (List.mem_of_getElem? hi)]

/-- The place found in a list is the end of the elements at its start that a property holds of. -/
theorem partitionPoint_eq (h : list.Pairwise fun a b => holds b = true → holds a = true) :
    partitionPoint holds list = (list.takeWhile holds).length := by
  rw [partitionPoint]
  split
  next hempty => simp [List.isEmpty_iff.1 hempty]
  next hempty =>
    refine bisect_eq (fun i => ?_) 0 _ (Nat.zero_le _) ?_ ?_
    · rw [List.getElem?_toArray]
      exact any_getElem?_eq h i
    · rw [Nat.zero_add, List.size_toArray]
      exact (List.takeWhile_prefix holds).length_le
    · rw [List.size_toArray]
      exact List.length_pos_iff.2 fun hnil => hempty (hnil ▸ rfl)

/-- The property holds of all elements before the place found. -/
theorem take_partitionPoint (h : list.Pairwise fun a b => holds b = true → holds a = true) :
    ∀ a ∈ list.take (partitionPoint holds list), holds a = true := by
  intro a ha
  rw [partitionPoint_eq h, ← List.prefix_iff_eq_take.1 (List.takeWhile_prefix holds)] at ha
  exact List.all_eq_true.1 List.all_takeWhile a ha

/-- The property holds of no element from the place found on. -/
theorem drop_partitionPoint (h : list.Pairwise fun a b => holds b = true → holds a = true) :
    ∀ a ∈ list.drop (partitionPoint holds list), holds a = false := by
  intro a ha
  obtain ⟨i, hi⟩ := List.mem_iff_getElem?.1 ha
  rw [List.getElem?_drop, partitionPoint_eq h] at hi
  have hany := any_getElem?_eq h ((list.takeWhile holds).length + i)
  rw [hi, Option.any_some] at hany
  rw [hany, decide_eq_false_iff_not]
  omega

/-- So the place found cuts a list into what the property holds of and what it does not. -/
theorem take_partitionPoint_eq_filter
    (h : list.Pairwise fun a b => holds b = true → holds a = true) :
    list.take (partitionPoint holds list) = list.filter holds := by
  rw [← filter_append_eq_left (take_partitionPoint h) (drop_partitionPoint h),
    List.take_append_drop]

/-- If the condition holds of a front part only, dropping up to the partition point keeps where it
fails. -/
theorem drop_partitionPoint_eq_filter
    (h : list.Pairwise fun a b => holds b = true → holds a = true) :
    list.drop (partitionPoint holds list) = list.filter fun a => !holds a := by
  have hbefore : ∀ a ∈ list.take (partitionPoint holds list), (!holds a) = false := fun a ha => by
    rw [take_partitionPoint h a ha, Bool.not_true]
  have hfrom : ∀ a ∈ list.drop (partitionPoint holds list), (!holds a) = true := fun a ha => by
    rw [drop_partitionPoint h a ha, Bool.not_false]
  rw [← filter_append_eq_right hbefore hfrom, List.take_append_drop]

/-! ### The differences that a comparison finds -/

namespace Comparison

/-- The number of the follower's items that are merged when an item fills the comparison. -/
def covered (comparison : Comparison) (item : Item) : Nat :=
  partitionPoint (fun f : Item => decide (f.key ≤ item.key)) comparison.follower

/-- While there is room, an item is held and nothing is found. -/
theorem push_of_lt {comparison : Comparison} {item : Item}
    (h : (comparison.leader.push item).size < max comparison.capacity 1) :
    comparison.push item = ([], { comparison with leader := comparison.leader.push item }) :=
  if_pos h

/-- An item that fills the comparison empties it. -/
theorem push_of_le {comparison : Comparison} {item : Item}
    (h : ¬(comparison.leader.push item).size < max comparison.capacity 1) :
    comparison.push item =
      (mergeSorted (comparison.follower.take (comparison.covered item))
          (comparison.leader.push item).toList,
        { comparison with
          follower := comparison.follower.drop (comparison.covered item), leader := #[] }) :=
  if_neg h

/-- The differences found while the leader's items are taken and at the end. -/
def found (comparison : Comparison) : List Item → List Difference
  | [] => comparison.finish
  | item :: items => (comparison.push item).1 ++ (comparison.push item).2.found items

/-- The last of the leader's items that are held has the greatest key. -/
theorem le_last {held : Array Item} {item x : Item} {items : List Item}
    (h : AscendingByKey Item.key ((held.push item).toList ++ items))
    (hx : x ∈ (held.push item).toList) : x.key ≤ item.key := by
  rw [Array.toList_push] at h hx
  obtain ⟨hheld, -, -⟩ := List.pairwise_append.1 h
  obtain ⟨-, -, hlast⟩ := List.pairwise_append.1 hheld
  rcases List.mem_append.1 hx with hx | hx
  · exact (hlast x hx item List.mem_cons_self).le
  · rw [List.mem_singleton.1 hx]

/-- **A comparison is a merge.** What is found while the leader's items come one by one is what a
merge of all of them finds. -/
theorem found_eq {comparison : Comparison} {items : List Item}
    (hfollower : comparison.follower.Pairwise fun a b => a.key ≤ b.key)
    (hleader : AscendingByKey Item.key (comparison.leader.toList ++ items)) :
    comparison.found items =
      mergeSorted comparison.follower (comparison.leader.toList ++ items) := by
  induction items generalizing comparison with
  | nil => rw [found, finish, List.append_nil]
  | cons item items ih =>
      have hpush : (comparison.leader.push item).toList ++ items =
          comparison.leader.toList ++ item :: items := by simp
      rw [← hpush] at hleader ⊢
      rw [found]
      by_cases hroom : (comparison.leader.push item).size < max comparison.capacity 1
      · rw [push_of_lt hroom]
        exact ih hfollower hleader
      · have hcut : comparison.follower.Pairwise fun a b =>
            decide (b.key ≤ item.key) = true → decide (a.key ≤ item.key) = true := by
          refine hfollower.imp fun hab hb => ?_
          rw [decide_eq_true_eq] at hb ⊢
          exact hab.trans hb
        obtain ⟨-, hitems, hbefore⟩ := List.pairwise_append.1 hleader
        have hrest := hfollower.sublist (List.drop_sublist (covered comparison item) _)
        have ih := @ih ⟨comparison.capacity, _, #[]⟩ hrest hitems
        rw [push_of_le hroom, ih, List.nil_append, ← mergeSorted_append, List.take_append_drop]
        intro x hx y hy
        -- everything up to the leader's item comes before everything after it
        have hx : x.key ≤ item.key := by
          rcases List.mem_append.1 hx with hx | hx
          · exact of_decide_eq_true (take_partitionPoint hcut x hx)
          · exact le_last hleader hx
        have hy : item.key < y.key := by
          rcases List.mem_append.1 hy with hy | hy
          · exact not_le.1 (of_decide_eq_false (drop_partitionPoint hcut y hy))
          · exact hbefore item (by simp) y hy
        exact hx.trans_lt hy

/-! ### What a comparison holds -/

/-- The state after some of the leader's items have been taken. -/
def after (comparison : Comparison) (items : List Item) : Comparison :=
  items.foldl (fun comparison item => (comparison.push item).2) comparison

/-- Items are pushed one after the other. -/
@[simp] theorem after_cons (comparison : Comparison) (item : Item) (items : List Item) :
    comparison.after (item :: items) = (comparison.push item).2.after items :=
  rfl

/-- **An item leaves room for another one**: either fewer are held than may be, or none. -/
theorem size_leader_push_lt (comparison : Comparison) (item : Item) :
    (comparison.push item).2.leader.size < max comparison.capacity 1 ∧
      (comparison.push item).2.capacity = comparison.capacity := by
  by_cases hroom : (comparison.leader.push item).size < max comparison.capacity 1
  · rw [push_of_lt hroom]
    exact ⟨hroom, rfl⟩
  · rw [push_of_le hroom]
    exact ⟨lt_of_lt_of_le Nat.zero_lt_one (le_max_right _ _), rfl⟩

/-- However many items are taken, there is room for another one. -/
theorem size_leader_after_lt {comparison : Comparison}
    (h : comparison.leader.size < max comparison.capacity 1) (items : List Item) :
    (comparison.after items).leader.size < max comparison.capacity 1 := by
  induction items generalizing comparison with
  | nil => exact h
  | cons item items ih =>
      obtain ⟨hroom, hcapacity⟩ := comparison.size_leader_push_lt item
      rw [after_cons, ← hcapacity]
      exact ih (hcapacity.symm ▸ hroom)

/-- Whether a comparison of two lists is their merge, made with few of the leader's items at a
time. -/
structure MergesWithin (capacity : Nat) (follower leader : List Item) : Prop where
  /-- What is found while the leader's items come, and at the end, is what the merge finds. -/
  found : (start capacity follower).found leader = mergeSorted follower leader
  /-- Whenever some of the leader's items have come, fewer are held than may be. -/
  held : ∀ before, before <+: leader →
    ((start capacity follower).after before).leader.size < max capacity 1

/-- **A comparison merges within its capacity**, whatever that is.

When the capacity is reached, the items that are held are merged with the follower's items up to the
last of them, and nothing that comes later has a key among these (`found_eq`). -/
theorem mergesWithin (capacity : Nat) {follower leader : List Item}
    (hfollower : follower.Pairwise fun a b => a.key ≤ b.key)
    (hleader : AscendingByKey Item.key leader) : MergesWithin capacity follower leader where
  found := @found_eq (start capacity follower) leader hfollower hleader
  held before _ := @size_leader_after_lt (start capacity follower)
    (lt_of_lt_of_le Nat.zero_lt_one (le_max_right _ _)) before

/-- A follower with a key twice, and a capacity of 0. -/
theorem mergesWithin_repeated :
    [⟨"b/a", "1"⟩, ⟨"b/a", "2"⟩, ⟨"b/c", "1"⟩].Pairwise (fun a b : Item => a.key ≤ b.key) ∧
      AscendingByKey Item.key [⟨"b/a", "2"⟩, ⟨"b/b", "1"⟩] ∧
      MergesWithin 0 [⟨"b/a", "1"⟩, ⟨"b/a", "2"⟩, ⟨"b/c", "1"⟩] [⟨"b/a", "2"⟩, ⟨"b/b", "1"⟩] :=
  ⟨by decide, by decide, mergesWithin 0 (by decide) (by decide)⟩

end Comparison

end Reconcile
