import Mathlib.Data.List.Sort
import Mathlib.Data.String.Basic
import Reconcile.Item
import Reconcile.Ordered

/-!
# Ascending lists

Lists in the strict order of a key are determined by their members, so that two of them are
compared by comparing what they hold. This module gives the rules that the comparison of two
replicas rests on:

* `filter_append_eq_left`, `filter_append_eq_right`: filtering a list in two parts, in just one of
  which the condition holds, gives that part;
* `AscendingByKey.ext`: ascending lists with the same members are the same list;
* `AscendingByKey.filter_append_filter`: filtering by two conditions, of which the first holds
  only before the second, is cutting the list in two;
* `ascendingByKey_insertByKey` and `mem_insertByKey_iff`: insertion keeps the order, replaces the
  element with the same key and keeps all others;
* `find?_insertByKey`: a look-up after an insertion, in a list of any order;
* `insertByKey_map`: insertion commutes with a map that keeps the order of the keys;
* `findKey?_eq_some_iff`: in an ascending list of items every item is found under its key.
-/

namespace Reconcile

variable {α β κ κ' : Type}

/-! ### Lists in two parts -/

/-- Filtering gives the first part if the condition holds there and nowhere else. -/
theorem filter_append_eq_left {xs ys : List α} {p : α → Bool} (hxs : ∀ x ∈ xs, p x = true)
    (hys : ∀ y ∈ ys, p y = false) : (xs ++ ys).filter p = xs := by
  have hnone : ys.filter p = [] :=
    List.filter_eq_nil_iff.2 fun y hy => Bool.eq_false_iff.1 (hys y hy)
  rw [List.filter_append, List.filter_eq_self.2 hxs, hnone, List.append_nil]

/-- Filtering gives the second part if the condition holds there and nowhere else. -/
theorem filter_append_eq_right {xs ys : List α} {p : α → Bool} (hxs : ∀ x ∈ xs, p x = false)
    (hys : ∀ y ∈ ys, p y = true) : (xs ++ ys).filter p = ys := by
  have hnone : xs.filter p = [] :=
    List.filter_eq_nil_iff.2 fun x hx => Bool.eq_false_iff.1 (hxs x hx)
  rw [List.filter_append, List.filter_eq_self.2 hys, hnone, List.nil_append]

/-! ### Ascending lists -/

section LinearOrder

variable [LinearOrder κ] {key : α → κ}

/-- A part of an ascending list ascends. -/
theorem AscendingByKey.sublist {xs ys : List α} (h : AscendingByKey key ys)
    (hsub : xs.Sublist ys) : AscendingByKey key xs :=
  List.Pairwise.sublist hsub h

/-- In an ascending list a key stands for one element. -/
theorem AscendingByKey.eq_of_key_eq {xs : List α} (h : AscendingByKey key xs) {x y : α}
    (hx : x ∈ xs) (hy : y ∈ xs) (hkey : key x = key y) : x = y := by
  induction xs with
  | nil => cases hx
  | cons z xs ih =>
      obtain ⟨hz, hxs⟩ := List.pairwise_cons.1 h
      rcases List.mem_cons.1 hx with hx | hx <;> rcases List.mem_cons.1 hy with hy | hy
      · exact hx.trans hy.symm
      · exact absurd hkey (hx ▸ (hz y hy).ne)
      · exact absurd hkey (hy ▸ (hz x hx).ne')
      · exact ih hxs hx hy

/-- Ascending lists with the same members are the same list. -/
theorem AscendingByKey.ext {xs ys : List α} (hxs : AscendingByKey key xs)
    (hys : AscendingByKey key ys) (h : ∀ a, a ∈ xs ↔ a ∈ ys) : xs = ys := by
  have hirrefl : Std.Irrefl fun a b : α => key a < key b := ⟨fun a => lt_irrefl (key a)⟩
  have hanti : Std.Antisymm fun a b : α => key a < key b :=
    ⟨fun a b hab hba => absurd (hab.trans hba) (lt_irrefl _)⟩
  exact List.Pairwise.eq_of_mem_iff hxs hys h

/-- Cutting an ascending list at conditions of which the first holds only before the second. -/
theorem AscendingByKey.filter_append_filter {xs : List α} (h : AscendingByKey key xs)
    {p q : α → Bool} (hpq : ∀ a ∈ xs, ∀ b ∈ xs, p a = true → q b = true → key a < key b) :
    xs.filter p ++ xs.filter q = xs.filter fun a => p a || q a := by
  have happend : AscendingByKey key (xs.filter p ++ xs.filter q) := by
    refine List.pairwise_append.2 ⟨h.filter p, h.filter q, ?_⟩
    intro a ha b hb
    obtain ⟨ha, hpa⟩ := List.mem_filter.1 ha
    obtain ⟨hb, hqb⟩ := List.mem_filter.1 hb
    exact hpq a ha b hb hpa hqb
  refine happend.ext (h.filter _) fun a => ?_
  simp only [List.mem_append, List.mem_filter, Bool.or_eq_true]
  tauto

/-- Cutting an ascending list at several conditions that hold one after the other. -/
theorem AscendingByKey.flatMap_filter {ι : Type} {xs : List α} (h : AscendingByKey key xs)
    {parts : List ι} {p : ι → α → Bool}
    (hparts : parts.Pairwise fun i j =>
      ∀ a ∈ xs, ∀ b ∈ xs, p i a = true → p j b = true → key a < key b) :
    parts.flatMap (fun i => xs.filter (p i)) = xs.filter fun a => parts.any (p · a) := by
  induction parts with
  | nil => simp
  | cons i parts ih =>
      obtain ⟨hi, hparts⟩ := List.pairwise_cons.1 hparts
      have hcut : ∀ a ∈ xs, ∀ b ∈ xs, p i a = true → (parts.any (p · b)) = true →
          key a < key b := by
        intro a ha b hb hpa hany
        obtain ⟨j, hj, hpb⟩ := List.any_eq_true.1 hany
        exact hi j hj a ha b hb hpa hpb
      rw [List.flatMap_cons, ih hparts, h.filter_append_filter hcut]
      simp only [List.any_cons]

end LinearOrder

/-! ### Insertion -/

section Insertion

variable [LinearOrder κ] {key : α → κ}

/-- What an insertion into an ascending list holds: the new element, and all others whose key it
does not have. -/
theorem mem_insertByKey_iff {x y : α} {xs : List α} (h : AscendingByKey key xs) :
    y ∈ insertByKey key x xs ↔ y = x ∨ y ∈ xs ∧ key y ≠ key x := by
  -- The three branches of the insertion: before the first element, in its place, or behind it.
  induction xs with
  | nil => simp [insertByKey]
  | cons z xs ih =>
      obtain ⟨hz, hxs⟩ := List.pairwise_cons.1 h
      rw [insertByKey]
      split
      next hlt =>
        have hne : ∀ w ∈ z :: xs, key w ≠ key x := by
          intro w hw
          rcases List.mem_cons.1 hw with rfl | hw
          · exact hlt.ne'
          · exact (hlt.trans (hz w hw)).ne'
        rw [List.mem_cons]
        exact or_congr_right ⟨fun hy => ⟨hy, hne y hy⟩, And.left⟩
      next hlt =>
        split
        next heq =>
          have hne : ∀ w ∈ xs, key w ≠ key x := fun w hw => heq ▸ (hz w hw).ne'
          rw [List.mem_cons, List.mem_cons]
          refine or_congr_right ⟨fun hy => ⟨.inr hy, hne y hy⟩, ?_⟩
          rintro ⟨rfl | hy, hkey⟩
          · exact absurd heq.symm hkey
          · exact hy
        next heq =>
          rw [List.mem_cons, ih hxs, List.mem_cons]
          constructor
          · rintro (rfl | rfl | ⟨hy, hkey⟩)
            · exact .inr ⟨.inl rfl, fun hkey => heq hkey.symm⟩
            · exact .inl rfl
            · exact .inr ⟨.inr hy, hkey⟩
          · rintro (rfl | ⟨rfl | hy, hkey⟩)
            · exact .inr (.inl rfl)
            · exact .inl rfl
            · exact .inr (.inr ⟨hy, hkey⟩)

/-- An insertion keeps the order. -/
theorem ascendingByKey_insertByKey {xs : List α} (h : AscendingByKey key xs) (x : α) :
    AscendingByKey key (insertByKey key x xs) := by
  induction xs with
  | nil => exact List.pairwise_singleton _ _
  | cons z xs ih =>
      obtain ⟨hz, hxs⟩ := List.pairwise_cons.1 h
      rw [insertByKey]
      split
      next hlt =>
        refine List.pairwise_cons.2 ⟨fun w hw => ?_, h⟩
        rcases List.mem_cons.1 hw with rfl | hw
        · exact hlt
        · exact hlt.trans (hz w hw)
      next hlt =>
        split
        next heq => exact List.pairwise_cons.2 ⟨fun w hw => heq ▸ hz w hw, hxs⟩
        next heq =>
          refine List.pairwise_cons.2 ⟨fun w hw => ?_, ih hxs⟩
          rcases (mem_insertByKey_iff hxs).1 hw with rfl | ⟨hw, -⟩
          · exact lt_of_le_of_ne (not_lt.1 hlt) (Ne.symm heq)
          · exact hz w hw

/-- A look-up finds what was inserted last under its key, whatever the order of the list. -/
theorem find?_insertByKey (x : α) (xs : List α) (k : κ) :
    (insertByKey key x xs).find? (fun y => key y = k) =
      if key x = k then some x else xs.find? fun y => key y = k := by
  induction xs with
  | nil =>
      rw [insertByKey, List.find?_cons]
      by_cases hx : key x = k <;> simp [hx]
  | cons z xs ih =>
      rw [insertByKey]
      split
      next hlt =>
        rw [List.find?_cons]
        by_cases hx : key x = k <;> simp [hx]
      next hlt =>
        split
        next heq =>
          rw [List.find?_cons, List.find?_cons]
          by_cases hx : key x = k
          · simp [hx]
          · simp [hx, heq ▸ hx]
        next heq =>
          rw [List.find?_cons, List.find?_cons, ih]
          by_cases hx : key x = k
          · -- the element is behind one of another key, so this one is not what is looked for
            have hz : key z ≠ k := fun hz => heq (hx.trans hz.symm)
            simp [hx, hz]
          · simp [hx]

end Insertion

/-- Insertion commutes with a map that keeps the order of the keys. -/
theorem insertByKey_map [LT κ] [DecidableLT κ] [DecidableEq κ] [LT κ'] [DecidableLT κ']
    [DecidableEq κ'] {key : α → κ} {key' : β → κ'} {f : α → β}
    (hlt : ∀ a b, key' (f a) < key' (f b) ↔ key a < key b)
    (heq : ∀ a b, key' (f a) = key' (f b) ↔ key a = key b) (x : α) (xs : List α) :
    (insertByKey key x xs).map f = insertByKey key' (f x) (xs.map f) := by
  induction xs with
  | nil => rfl
  | cons y xs ih =>
      rw [List.map_cons, insertByKey, insertByKey, if_congr (hlt x y) rfl rfl,
        if_congr (heq x y) rfl rfl]
      split
      · rfl
      · split
        · rfl
        · rw [List.map_cons, ih]

/-! ### Look-ups -/

/-- The item of a list that has a key. -/
def findKey? (items : List Item) (key : String) : Option Item :=
  items.find? fun item => item.key = key

/-- Nothing is found among no items. -/
@[simp] theorem findKey?_nil (key : String) : findKey? [] key = none :=
  rfl

/-- The first item with the key is found. -/
theorem findKey?_cons (item : Item) (items : List Item) (key : String) :
    findKey? (item :: items) key = if item.key = key then some item else findKey? items key := by
  rw [findKey?, List.find?_cons, findKey?]
  by_cases h : item.key = key <;> simp [h]

/-- Nothing is found under a key that comes before all others. -/
theorem findKey?_eq_none {items : List Item} {key : String} (h : ∀ item ∈ items, key < item.key) :
    findKey? items key = none := by
  refine List.find?_eq_none.2 fun item hitem => ?_
  rw [decide_eq_true_eq]
  exact (h item hitem).ne'

/-- What is found has the key that was looked for. -/
theorem findKey?_eq_some {items : List Item} {key : String} {item : Item}
    (h : findKey? items key = some item) : item ∈ items ∧ item.key = key := by
  have hkey := List.find?_some (p := fun item : Item => decide (item.key = key)) h
  exact ⟨List.mem_of_find?_eq_some h, of_decide_eq_true hkey⟩

/-- In an ascending list every item is found under its key. -/
theorem findKey?_eq_some_iff {items : List Item} (h : AscendingByKey Item.key items)
    {key : String} {item : Item} :
    findKey? items key = some item ↔ item ∈ items ∧ item.key = key := by
  refine ⟨findKey?_eq_some, ?_⟩
  rintro ⟨hitem, rfl⟩
  cases hfind : findKey? items item.key with
  | none => exact absurd (decide_eq_true rfl) (List.find?_eq_none.1 hfind item hitem)
  | some other =>
      obtain ⟨hother, hkey⟩ := findKey?_eq_some hfind
      rw [h.eq_of_key_eq hother hitem hkey]

/-- A look-up after an insertion. -/
theorem findKey?_insertByKey (item : Item) (items : List Item) (key : String) :
    findKey? (insertByKey Item.key item items) key =
      if item.key = key then some item else findKey? items key :=
  find?_insertByKey item items key

end Reconcile
