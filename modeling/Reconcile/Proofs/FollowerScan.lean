import Reconcile.Proofs.FollowerDb

/-!
# What a scan of a follower rests on

A follower's database holds, in the order of the bytes, each key that was written with the value
that was written last (`FollowerDb.ascending_ofWrites`, `FollowerDb.mem_ofWrites_iff`). A scan gives
the entries of objects, up to the first entry that is no text. That entry may be one of the
follower's own, since an entry is decoded before its key is looked at: so a scan does not depend on
the follower's own entries as long as the first entry that is no text, if there is one, is that of
an object (`FollowerDb.source_ofWrites`).
-/

namespace Reconcile.FollowerDb

/-! ### Entries -/

/-- Bytes are ordered as their numbers are. -/
local instance : LinearOrder UInt8 where
  le_refl := UInt8.le_refl
  le_trans _ _ _ := UInt8.le_trans
  le_antisymm _ _ := UInt8.le_antisymm
  le_total := UInt8.le_total
  lt_iff_le_not_ge _ _ := by
    rw [UInt8.not_le]
    exact ⟨fun h => ⟨UInt8.le_of_lt h, h⟩, And.right⟩
  toDecidableLE := inferInstance

/-- The database after some writes of bytes. -/
def ofWrites (writes : List (List UInt8 × List UInt8)) : FollowerDb :=
  writes.foldl (fun db entry => db.write entry.1 entry.2) empty

/-- The value that was written last under a key. -/
def lastValue? (writes : List (List UInt8 × List UInt8)) (key : List UInt8) :
    Option (List UInt8) :=
  (writes.reverse.find? fun entry => entry.1 = key).map Prod.snd

/-- Whether an entry is that of an object: the bytes of its key hold a slash. -/
def namesObject (entry : List UInt8 × List UInt8) : Bool :=
  entry.1.contains 0x2F

/-- Whether key and value of an entry are texts. -/
def isText (entry : List UInt8 × List UInt8) : Bool :=
  (decodeEntry entry).isOk

/-- What a scan gives that does not look at the follower's own entries. -/
def objectSource (db : FollowerDb) : ItemSource :=
  upToError ((db.entries.filter namesObject).map decodeEntry)

/-- The last write replaces or inserts its entry. -/
theorem ofWrites_concat (writes : List (List UInt8 × List UInt8))
    (entry : List UInt8 × List UInt8) :
    (ofWrites (writes ++ [entry])).entries =
      @insertByKey _ _ _ LinearOrder.toDecidableLT LinearOrder.toDecidableEq Prod.fst entry
        (ofWrites writes).entries := by
  rw [ofWrites, List.foldl_concat, ← ofWrites, write]
  congr

/-- **The entries of a database ascend** in the order of the bytes of their keys. -/
theorem ascending_ofWrites (writes : List (List UInt8 × List UInt8)) :
    AscendingByKey Prod.fst (ofWrites writes).entries := by
  induction writes using List.reverseRecOn with
  | nil => exact .nil
  | append_singleton writes entry ih =>
      rw [ofWrites_concat]
      exact ascendingByKey_insertByKey ih entry

/-- The last write decides what its key holds, and nothing else. -/
theorem lastValue?_concat (writes : List (List UInt8 × List UInt8))
    (entry : List UInt8 × List UInt8) (key : List UInt8) :
    lastValue? (writes ++ [entry]) key =
      if entry.1 = key then some entry.2 else lastValue? writes key := by
  rw [lastValue?, List.reverse_concat, List.find?_cons, lastValue?]
  by_cases hkey : entry.1 = key <;> simp [hkey]

/-- **The entries of a database** are the keys that were written with the values written last. -/
theorem mem_ofWrites_iff {writes : List (List UInt8 × List UInt8)} {key value : List UInt8} :
    (key, value) ∈ (ofWrites writes).entries ↔ lastValue? writes key = some value := by
  induction writes using List.reverseRecOn with
  | nil => exact iff_of_false List.not_mem_nil nofun
  | append_singleton writes entry ih =>
      rw [ofWrites_concat, mem_insertByKey_iff (ascending_ofWrites writes), ih, lastValue?_concat]
      by_cases hkey : entry.1 = key
      · simp [hkey, Prod.ext_iff, eq_comm]
      · simp [hkey, Prod.ext_iff, Ne.symm hkey]

/-! ### Decoding entries -/

/-- **An entry is decoded to an item** exactly if it is the one that the item is written as. -/
theorem decodeEntry_eq_ok_iff {entry : List UInt8 × List UInt8} {item : Item} :
    decodeEntry entry = .ok item ↔ entry = encodeEntry item := by
  refine ⟨fun h => ?_, fun h => h ▸ decodeEntry_encodeEntry item⟩
  rw [decodeEntry] at h
  cases hkey : Utf8.decode entry.1 with
  | error error =>
      rw [hkey] at h
      cases h
  | ok key =>
      cases hvalue : Utf8.decode entry.2 with
      | error error =>
          rw [hkey, hvalue] at h
          cases h
      | ok value =>
          rw [hkey, hvalue] at h
          obtain rfl := Except.ok.inj h
          exact Prod.ext (Utf8.decode_eq_ok_iff.1 hkey) (Utf8.decode_eq_ok_iff.1 hvalue)

/-- A text holds a slash exactly if its bytes do. -/
theorem contains_bytes_slash (text : String) :
    (Utf8.bytes text).contains 0x2F = text.toList.contains '/' := by
  rw [Bool.eq_iff_iff, List.contains_iff_mem, List.contains_iff_mem]
  constructor
  · exact Utf8.mem_encode_of_lt (by decide)
  · exact fun h => List.mem_flatMap.2 ⟨'/', h, List.mem_singleton.2 rfl⟩

/-- What a scan takes notice of: the entries of objects, and those that are no text. -/
theorem isScanned_decodeEntry (entry : List UInt8 × List UInt8) :
    isScanned (decodeEntry entry) = (namesObject entry || !isText entry) := by
  rw [isText]
  cases hdecode : decodeEntry entry with
  | error error => exact (Bool.or_true _).symm
  | ok item =>
      rw [isScanned, ← contains_bytes_slash, decodeEntry_eq_ok_iff.1 hdecode]
      exact (Bool.or_false _).symm

/-! ### What a scan gives -/

/-- A scan gives the entries of objects, up to the first that is no text, be it that of an object or
not. -/
theorem source_eq (db : FollowerDb) :
    db.source = upToError
      ((db.entries.filter fun entry => namesObject entry || !isText entry).map decodeEntry) := by
  rw [source, scan, List.filter_map]
  exact congrArg (fun entries => upToError (List.map decodeEntry entries))
    (List.filter_congr fun entry _ => isScanned_decodeEntry entry)

/-- **A scan does not look at the follower's own entries** if the first entry that is no text is
that of an object. -/
theorem source_eq_objectSource {db : FollowerDb}
    (h : (db.entries.find? fun entry => !isText entry).all namesObject = true) :
    db.source = db.objectSource := by
  rw [source_eq, objectSource]
  generalize db.entries = entries at h
  induction entries with
  | nil => rfl
  | cons entry entries ih =>
      cases hdecode : decodeEntry entry with
      | ok item =>
          have htext : isText entry = true := by rw [isText, hdecode]; rfl
          rw [List.find?_cons, htext] at h
          rw [List.filter_cons, List.filter_cons, htext, Bool.not_true, Bool.or_false]
          split
          · rw [List.map_cons, List.map_cons, hdecode, upToError, upToError, ih h]
          · exact ih h
      | error error =>
          have htext : isText entry = false := by rw [isText, hdecode]; rfl
          rw [List.find?_cons, htext] at h
          have hobject : namesObject entry = true := h
          rw [List.filter_cons_of_pos (by rw [hobject]; rfl), List.filter_cons_of_pos hobject,
            List.map_cons, List.map_cons, hdecode, upToError, upToError]

/-- Databases that hold the same entries of objects give the same, as far as these are concerned. -/
theorem objectSource_congr {writes others : List (List UInt8 × List UInt8)}
    (h : ∀ key, 0x2F ∈ key → lastValue? writes key = lastValue? others key) :
    (ofWrites writes).objectSource = (ofWrites others).objectSource := by
  have hentries : (ofWrites writes).entries.filter namesObject =
      (ofWrites others).entries.filter namesObject := by
    refine AscendingByKey.ext ((ascending_ofWrites writes).filter _)
      ((ascending_ofWrites others).filter _) fun ⟨key, value⟩ => ?_
    rw [List.mem_filter, List.mem_filter, mem_ofWrites_iff, mem_ofWrites_iff]
    refine and_congr_left fun hkey => ?_
    rw [h key (List.contains_iff_mem.1 hkey)]
  rw [objectSource, objectSource, hentries]

/-! ### The whole -/

/-- **What a scan of a follower gives** after some writes of bytes. The database holds each key that
was written once, in the order of the bytes, with the value written last, and the scan gives the
entries of objects up to the first entry that is no text. If that entry is one of an object, then
the entries of the follower itself do not count: the scan is that of the entries of objects, and any
other database with the same entries of objects, of which this is true as well, gives the same.

A scan decodes an entry before it looks for the slash, so it takes notice of an entry that is no
text even if it is the follower's own (`isScanned_decodeEntry`). -/
theorem source_ofWrites (writes : List (List UInt8 × List UInt8)) :
    AscendingByKey Prod.fst (ofWrites writes).entries ∧
      (∀ key value, (key, value) ∈ (ofWrites writes).entries ↔
        lastValue? writes key = some value) ∧
      (ofWrites writes).source = upToError (((ofWrites writes).entries.filter fun entry =>
        namesObject entry || !isText entry).map decodeEntry) ∧
      (((ofWrites writes).entries.find? fun entry => !isText entry).all namesObject = true →
        (ofWrites writes).source = (ofWrites writes).objectSource ∧
          ∀ others, (∀ key, 0x2F ∈ key → lastValue? writes key = lastValue? others key) →
            ((ofWrites others).entries.find? fun entry => !isText entry).all namesObject = true →
            (ofWrites writes).source = (ofWrites others).source) := by
  refine ⟨ascending_ofWrites writes, fun _ _ => mem_ofWrites_iff, source_eq _, fun hfirst => ?_⟩
  have hblind := source_eq_objectSource hfirst
  refine ⟨hblind, fun others hagree hother => ?_⟩
  rw [hblind, source_eq_objectSource hother, objectSource_congr hagree]

/-- **One entry of the follower itself ends a scan** if its value is no text: without it the object
behind it is found. -/
theorem source_ne_of_own_entry :
    (∀ key, 0x2F ∈ key →
        lastValue? [([0x62, 0x2F, 0x6B], [0x7B, 0x7D]), ([0x5F], [0xFF])] key =
          lastValue? [([0x62, 0x2F, 0x6B], [0x7B, 0x7D])] key) ∧
      (ofWrites [([0x62, 0x2F, 0x6B], [0x7B, 0x7D])]).source = ⟨[⟨"b/k", "{}"⟩], none⟩ ∧
      (ofWrites [([0x62, 0x2F, 0x6B], [0x7B, 0x7D]), ([0x5F], [0xFF])]).objectSource =
        ⟨[⟨"b/k", "{}"⟩], none⟩ ∧
      (ofWrites [([0x62, 0x2F, 0x6B], [0x7B, 0x7D]), ([0x5F], [0xFF])]).source =
        ⟨[], some (.notText (.invalid 1 0))⟩ := by
  refine ⟨fun key hkey => ?_, by decide +kernel, by decide +kernel, by decide +kernel⟩
  have hne : [0x5F] ≠ key := by
    rintro rfl
    exact absurd hkey (by decide)
  exact (lastValue?_concat [([0x62, 0x2F, 0x6B], [0x7B, 0x7D])] _ key).trans (if_neg hne)

end Reconcile.FollowerDb
