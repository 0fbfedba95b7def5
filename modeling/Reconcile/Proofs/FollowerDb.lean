import Mathlib.Data.List.Induction
import Reconcile.FollowerDb
import Reconcile.Proofs.Ordered
import Reconcile.Proofs.Utf8

/-!
# What a follower's database gives

A database that texts were written to gives, in key order, the last text that was written under
each key that holds a slash (`FollowerDb.source_ofItems`, `mem_lastWrites_iff`).
-/

namespace Reconcile

/-! ### The last writes -/

/-- The last item that was written under each key, in key order. -/
def lastWrites (puts : List Item) : List Item :=
  puts.foldl (fun items put => insertByKey Item.key put items) []

/-- One more write replaces the item with its key. -/
theorem lastWrites_concat (puts : List Item) (put : Item) :
    lastWrites (puts ++ [put]) = insertByKey Item.key put (lastWrites puts) :=
  List.foldl_concat _ _ _ _

/-- The items written last are in the order of their keys. -/
theorem ascendingByKey_lastWrites (puts : List Item) :
    AscendingByKey Item.key (lastWrites puts) := by
  induction puts using List.reverseRecOn with
  | nil => exact .nil
  | append_singleton puts put ih =>
      rw [lastWrites_concat]
      exact ascendingByKey_insertByKey ih put

/-- An item is among the last writes if, of the writes of its key, it is the last. -/
theorem mem_lastWrites_iff {puts : List Item} {item : Item} :
    item ∈ lastWrites puts ↔ findKey? puts.reverse item.key = some item := by
  have hfind : ∀ key, findKey? (lastWrites puts) key = findKey? puts.reverse key := by
    intro key
    induction puts using List.reverseRecOn with
    | nil => rfl
    | append_singleton puts put ih =>
        rw [lastWrites_concat, findKey?_insertByKey, List.reverse_concat, findKey?_cons, ih]
  rw [← hfind, findKey?_eq_some_iff (ascendingByKey_lastWrites puts), and_iff_left rfl]

/-! ### The entries of a database -/

namespace FollowerDb

/-- The entry that an item is written as. -/
def encodeEntry (item : Item) : List UInt8 × List UInt8 :=
  (Utf8.bytes item.key, Utf8.bytes item.value)

/-- Entries are ordered as the items are that they are written for. -/
theorem encodeEntry_lt_iff (a b : Item) :
    (encodeEntry a).1 < (encodeEntry b).1 ↔ a.key < b.key :=
  Utf8.bytes_lt_bytes_iff

/-- Items have the same stored key exactly if they have the same key. -/
theorem encodeEntry_eq_iff (a b : Item) : (encodeEntry a).1 = (encodeEntry b).1 ↔ a.key = b.key :=
  Utf8.bytes_inj

/-- **An item is read back** from its entry. -/
theorem decodeEntry_encodeEntry (item : Item) : decodeEntry (encodeEntry item) = .ok item := by
  rw [decodeEntry, encodeEntry, Utf8.decode_bytes, Utf8.decode_bytes]
  rfl

/-- The entries of a database that texts were written to. -/
theorem entries_ofItems (puts : List Item) :
    (ofItems puts).entries = (lastWrites puts).map encodeEntry := by
  induction puts using List.reverseRecOn with
  | nil => rfl
  | append_singleton puts put ih =>
      have hput : (ofItems (puts ++ [put])).entries =
          insertByKey Prod.fst (encodeEntry put) (ofItems puts).entries := by
        rw [ofItems, List.foldl_concat]
        rfl
      rw [hput, ih, lastWrites_concat]
      exact (insertByKey_map encodeEntry_lt_iff encodeEntry_eq_iff put (lastWrites puts)).symm

/-- Results that are all items have no fault. -/
theorem upToError_map_ok (items : List Item) : upToError (items.map .ok) = ⟨items, none⟩ := by
  induction items with
  | nil => rfl
  | cons item items ih =>
      rw [List.map_cons, upToError, ih]

/-- **What a database gives** that texts were written to. -/
theorem source_ofItems (puts : List Item) :
    (ofItems puts).source =
      ⟨(lastWrites puts).filter fun item => item.key.toList.contains '/', none⟩ := by
  have hdecode : (ofItems puts).entries.map decodeEntry = (lastWrites puts).map .ok := by
    rw [entries_ofItems, List.map_map]
    exact List.map_congr_left fun item _ => decodeEntry_encodeEntry item
  rw [source, scan, hdecode, List.filter_map, upToError_map_ok]
  rfl

end FollowerDb

end Reconcile
