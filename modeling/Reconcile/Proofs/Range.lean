import Reconcile.Chunk
import Reconcile.Proofs.Key
import Reconcile.Proofs.Ordered
import Reconcile.Store

/-!
# Ranges that tile a listing

The ranges of a bucket are laid one after the other: each starts where the one before ends, and
the last one runs to the end of the bucket. `Tiling bucket marker ranges` says that the ranges
continue so from a marker of a bucket on, and then go through other buckets from their start to
their end.

## Main results

* `Tiling.pairwise`: the keys of the ranges of a tiling come one after the other;
* `Tiling.exists_contains_iff`: together the ranges contain all names of the first bucket that lie
  after the marker and all names of the other buckets, and nothing else.
-/

namespace Reconcile

namespace Range

/-- The request for the items of a range. -/
def request (range : Range) (limit : Nat) : ListRequest :=
  ⟨range.bucket, range.marker, range.last, limit⟩

/-- Whether an item lies in a range. -/
def covers (range : Range) : Item → Bool :=
  (range.request 0).covers

/-- Whether a name lies in a range. -/
def Contains (range : Range) (name : ObjectName) : Prop :=
  name.bucket = range.bucket ∧ isAhead range.marker name.key = true ∧
    ∀ last, range.last = some last → name.key ≤ last

/-- A key is ahead of a marker if it is greater, and of none in any case. -/
theorem all_lt_eq_isAhead (marker : Option String) (key : String) :
    marker.all (· < key) = isAhead marker key := by
  cases marker <;> rfl

/-- A request asks for the items whose names lie in its range. -/
theorem covers_request_iff {range : Range} {limit : Nat} {item : Item} :
    (range.request limit).covers item = true ↔
      ∃ name, item.name? = some name ∧ range.Contains name := by
  rw [ListRequest.covers, Item.name?]
  cases splitKey? item.key with
  | none => simp
  | some parts =>
      simp only [request, ListRequest.admits, Bool.and_eq_true, beq_iff_eq, Option.map_some,
        Option.some.injEq, exists_eq_left', Contains, all_lt_eq_isAhead]
      refine and_congr_right fun _ => and_congr_right fun _ => ?_
      cases range.last <;> simp

/-- An item lies in a range if its name does. -/
theorem covers_iff {range : Range} {item : Item} :
    range.covers item = true ↔ ∃ name, item.name? = some name ∧ range.Contains name :=
  covers_request_iff

/-- A range covers an item exactly if it contains its name. -/
theorem covers_iff_contains {range : Range} {item : Item} {name : ObjectName}
    (hname : item.name? = some name) : range.covers item = true ↔ range.Contains name := by
  rw [covers_iff, hname]
  simp

/-- The part of a range that lies after an object key. -/
def after (range : Range) (key : String) : Range :=
  { range with marker := some key }

/-- What is left of a range after one of its keys: what it contains behind the key. -/
theorem contains_after_iff {range : Range} {key : String} (hkey : isAhead range.marker key = true)
    {name : ObjectName} :
    (range.after key).Contains name ↔ range.Contains name ∧ key < name.key := by
  rw [Contains, Contains, after, isAhead, decide_eq_true_eq]
  constructor
  · rintro ⟨hbucket, hlt, hlast⟩
    exact ⟨⟨hbucket, DigestTable.isAhead_trans hkey (decide_eq_true hlt), hlast⟩, hlt⟩
  · rintro ⟨⟨hbucket, -, hlast⟩, hlt⟩
    exact ⟨hbucket, hlt, hlast⟩

/-- After the object key of an item, a range has the items that it had after that item. -/
theorem covers_after {range : Range} {item other : Item} {name : ObjectName}
    (hname : item.name? = some name) (hcovers : range.covers item = true) :
    (range.after name.key).covers other =
      (range.covers other && decide (item.key < other.key)) := by
  obtain ⟨_, hname', hcontains⟩ := covers_iff.1 hcovers
  obtain rfl := Option.some.inj (hname.symm.trans hname')
  rw [Bool.eq_iff_iff, Bool.and_eq_true, decide_eq_true_eq, covers_iff, covers_iff]
  have hlt : ∀ name', other.name? = some name' → range.Contains name' →
      (item.key < other.key ↔ name.key < name'.key) := by
    intro name' hother hcontains'
    rw [(Item.name?_eq_some_iff.1 hname).1, (Item.name?_eq_some_iff.1 hother).1,
      ObjectName.fullKey_lt_fullKey_iff (hcontains.1.trans hcontains'.1.symm)]
  constructor
  · rintro ⟨name', hother, hafter⟩
    obtain ⟨hcontains', hkey⟩ := (contains_after_iff hcontains.2.1).1 hafter
    exact ⟨⟨name', hother, hcontains'⟩, (hlt name' hother hcontains').2 hkey⟩
  · rintro ⟨⟨name', hother, hcontains'⟩, hkey⟩
    exact ⟨name', hother, (contains_after_iff hcontains.2.1).2
      ⟨hcontains', (hlt name' hother hcontains').1 hkey⟩⟩

end Range

/-! ### Tilings -/

/-- The ranges tile the buckets from a marker on. -/
inductive Tiling : String → Option String → List Range → Prop
  /-- The last range runs to the end of its bucket. -/
  | last (bucket : String) (marker : Option String) :
      Tiling bucket marker [⟨bucket, marker, none⟩]
  /-- The next range of the bucket starts where this one ends. -/
  | next {bucket key : String} {marker : Option String} {ranges : List Range} :
      isAhead marker key = true → Tiling bucket (some key) ranges →
      Tiling bucket marker (⟨bucket, marker, some key⟩ :: ranges)
  /-- This range runs to the end of its bucket, and the next one starts another bucket. -/
  | bucket {bucket following : String} {marker : Option String} {ranges : List Range} :
      BucketBefore bucket following → Tiling following none ranges →
      Tiling bucket marker (⟨bucket, marker, none⟩ :: ranges)

namespace Tiling

variable {bucket : String} {marker : Option String} {ranges : List Range}

/-- A tiling has a range of the bucket that it starts in. -/
theorem bucket_mem (h : Tiling bucket marker ranges) : bucket ∈ ranges.map Range.bucket := by
  cases h <;> simp

/-- No range of a tiling starts before the tiling does. -/
theorem starts_after (h : Tiling bucket marker ranges) : ∀ range ∈ ranges,
    (range.bucket = bucket ∧
        ∀ key, isAhead range.marker key = true → isAhead marker key = true) ∨
      BucketBefore bucket range.bucket := by
  induction h with
  | last bucket marker =>
      intro range hrange
      obtain rfl := List.mem_singleton.1 hrange
      exact .inl ⟨rfl, fun _ => id⟩
  | next hahead _ ih =>
      intro range hrange
      rcases List.mem_cons.1 hrange with rfl | hrange
      · exact .inl ⟨rfl, fun _ => id⟩
      · refine (ih range hrange).imp_left fun ⟨hbucket, hafter⟩ => ⟨hbucket, fun key hkey => ?_⟩
        exact DigestTable.isAhead_trans hahead (hafter key hkey)
  | bucket hbefore _ ih =>
      intro range hrange
      rcases List.mem_cons.1 hrange with rfl | hrange
      · exact .inl ⟨rfl, fun _ => id⟩
      · rcases ih range hrange with ⟨hbucket, -⟩ | hafter
        · exact .inr (hbucket ▸ hbefore)
        · exact .inr (hbefore.trans hafter)

/-- The ranges of a tiling do not cover what lies before it. -/
theorem covers_eq_false (h : Tiling bucket marker ranges) {range : Range} (hrange : range ∈ ranges)
    {item : Item} {name : ObjectName} (hname : item.name? = some name)
    (hbehind : BucketBefore name.bucket bucket ∨
      (name.bucket = bucket ∧ isAhead marker name.key = false)) :
    range.covers item = false := by
  rw [Bool.eq_false_iff, Ne, Range.covers_iff_contains hname]
  rintro ⟨hbucket, hahead, -⟩
  rcases h.starts_after range hrange with ⟨hsame, hafter⟩ | hbefore
  · rcases hbehind with hbefore | ⟨-, hpast⟩
    · exact hbefore.ne (hbucket.trans hsame)
    · rw [hafter _ hahead] at hpast
      cases hpast
  · rw [← hbucket] at hbefore
    rcases hbehind with hbehind | ⟨hsame, -⟩
    · exact BucketBefore.irrefl _ (hbefore.trans hbehind)
    · exact hbefore.ne hsame.symm

/-- **The ranges of a tiling come one after the other**, with all keys that they contain. -/
theorem pairwise (h : Tiling bucket marker ranges) :
    ranges.Pairwise fun r s => ∀ a b : ObjectName, a.Proper → b.Proper → r.Contains a →
      s.Contains b → a.fullKey < b.fullKey := by
  induction h with
  | last bucket marker => exact List.pairwise_singleton _ _
  | next _ htail ih =>
      refine List.pairwise_cons.2 ⟨fun s hs a b ha hb hra hsb => ?_, ih⟩
      rcases htail.starts_after s hs with ⟨hbucket, hafter⟩ | hbefore
      · rw [ObjectName.fullKey_lt_fullKey_iff (hra.1.trans (hbucket.symm.trans hsb.1.symm))]
        have hkey := hafter b.key hsb.2.1
        rw [isAhead, decide_eq_true_eq] at hkey
        exact (hra.2.2 _ rfl).trans_lt hkey
      · refine ObjectName.fullKey_lt_of_bucketBefore ha hb ?_
        rw [hra.1, hsb.1]
        exact hbefore
  | bucket hbefore htail ih =>
      refine List.pairwise_cons.2 ⟨fun s hs a b ha hb hra hsb => ?_, ih⟩
      refine ObjectName.fullKey_lt_of_bucketBefore ha hb ?_
      rw [hra.1, hsb.1]
      rcases htail.starts_after s hs with ⟨hbucket, -⟩ | hafter
      · exact hbucket ▸ hbefore
      · exact hbefore.trans hafter

/-- **What a tiling contains**: all names of its first bucket after the marker, and all names of
its other buckets. -/
theorem exists_contains_iff (h : Tiling bucket marker ranges) (name : ObjectName) :
    (∃ range ∈ ranges, range.Contains name) ↔
      (name.bucket = bucket ∧ isAhead marker name.key = true) ∨
        (BucketBefore bucket name.bucket ∧ name.bucket ∈ ranges.map Range.bucket) := by
  induction h with
  | last bucket marker =>
      have hno : ¬(BucketBefore bucket name.bucket ∧ name.bucket = bucket) := fun h =>
        h.1.ne h.2.symm
      simp [Range.Contains, hno]
  | @next bucket key marker ranges hahead htail ih =>
      rw [List.exists_mem_cons_iff, ih, List.map_cons, List.mem_cons]
      constructor
      · rintro (⟨hbucket, hafter, -⟩ | ⟨hbucket, hafter⟩ | ⟨hbefore, hmem⟩)
        · exact .inl ⟨hbucket, hafter⟩
        · exact .inl ⟨hbucket, DigestTable.isAhead_trans hahead hafter⟩
        · exact .inr ⟨hbefore, .inr hmem⟩
      · rintro (⟨hbucket, hafter⟩ | ⟨hbefore, hmem⟩)
        · rcases le_or_gt name.key key with hle | hlt
          · exact .inl ⟨hbucket, hafter, fun last hlast => Option.some.inj hlast ▸ hle⟩
          · exact .inr (.inl ⟨hbucket, decide_eq_true hlt⟩)
        · exact .inr (.inr ⟨hbefore, hmem.resolve_left hbefore.ne.symm⟩)
  | @bucket bucket following marker ranges hfollowing htail ih =>
      rw [List.exists_mem_cons_iff, ih, List.map_cons, List.mem_cons]
      constructor
      · rintro (⟨hbucket, hafter, -⟩ | ⟨hbucket, -⟩ | ⟨hbefore, hmem⟩)
        · exact .inl ⟨hbucket, hafter⟩
        · exact .inr ⟨hbucket ▸ hfollowing, .inr (hbucket ▸ htail.bucket_mem)⟩
        · exact .inr ⟨hfollowing.trans hbefore, .inr hmem⟩
      · rintro (⟨hbucket, hafter⟩ | ⟨hbefore, hmem⟩)
        · exact .inl ⟨hbucket, hafter, fun last hlast => nomatch hlast⟩
        · have hmem := hmem.resolve_left hbefore.ne.symm
          obtain ⟨range, hrange, hname⟩ := List.mem_map.1 hmem
          rcases htail.starts_after range hrange with ⟨hbucket, -⟩ | hafter
          · exact .inr (.inl ⟨hname ▸ hbucket, rfl⟩)
          · exact .inr (.inr ⟨hname ▸ hafter, hmem⟩)

/-- A tiling that starts with its first bucket contains all names of its buckets. -/
theorem exists_contains_iff_mem (h : Tiling bucket none ranges) (name : ObjectName) :
    (∃ range ∈ ranges, range.Contains name) ↔ name.bucket ∈ ranges.map Range.bucket := by
  rw [h.exists_contains_iff]
  constructor
  · rintro (⟨hbucket, -⟩ | ⟨-, hmem⟩)
    · exact hbucket ▸ h.bucket_mem
    · exact hmem
  · intro hmem
    obtain ⟨range, hrange, hbucket⟩ := List.mem_map.1 hmem
    rcases h.starts_after range hrange with ⟨hsame, -⟩ | hbefore
    · exact .inl ⟨hbucket.symm.trans hsame, rfl⟩
    · exact .inr ⟨hbucket ▸ hbefore, hmem⟩

/-- Of two ranges of a bucket in a tiling, the first has an end, and the second starts there or
later. -/
theorem pairwise_marker {bucket : String} {marker : Option String} {ranges : List Range}
    (h : Tiling bucket marker ranges) :
    ranges.Pairwise fun r s => r.bucket = s.bucket → ∃ last start, r.last = some last ∧
      s.marker = some start ∧ last ≤ start := by
  induction h with
  | last bucket marker => exact List.pairwise_singleton _ _
  | @next bucket key marker ranges _ htail ih =>
      refine List.pairwise_cons.2 ⟨fun s hs hsame => ⟨key, ?_⟩, ih⟩
      rcases htail.starts_after s hs with ⟨-, hafter⟩ | hbefore
      · cases hmarker : s.marker with
        | none =>
            -- a range without a start would hold the key itself
            have hself := hafter key (by rw [hmarker]; rfl)
            exact absurd (of_decide_eq_true hself) (lt_irrefl _)
        | some start =>
            refine ⟨start, rfl, rfl, not_lt.1 fun hlt => ?_⟩
            have hself := hafter key (by rw [hmarker]; exact decide_eq_true hlt)
            exact absurd (of_decide_eq_true hself) (lt_irrefl _)
      · exact absurd hsame hbefore.ne
  | @bucket bucket following marker ranges hfollowing htail ih =>
      refine List.pairwise_cons.2 ⟨fun s hs hsame => ?_, ih⟩
      rcases htail.starts_after s hs with ⟨hbucket, -⟩ | hbefore
      · exact absurd (hsame.trans hbucket) hfollowing.ne
      · exact absurd hsame (hfollowing.trans hbefore).ne

/-- In each bucket of a tiling there is a range that runs to its end. -/
theorem exists_open {bucket : String} {marker : Option String} {ranges : List Range}
    (h : Tiling bucket marker ranges) {b : String} (hb : b ∈ ranges.map Range.bucket) :
    ∃ range ∈ ranges, range.bucket = b ∧ range.last = none := by
  induction h with
  | last bucket marker => exact ⟨_, List.mem_cons_self, (List.mem_singleton.1 hb).symm, rfl⟩
  | next _ htail ih =>
      rw [List.map_cons, List.mem_cons] at hb
      have hb := hb.elim (fun heq => heq ▸ htail.bucket_mem) id
      obtain ⟨range, hrange, hopen⟩ := ih hb
      exact ⟨range, List.mem_cons_of_mem _ hrange, hopen⟩
  | bucket _ _ ih =>
      rcases List.mem_cons.1 hb with rfl | hb
      · exact ⟨_, List.mem_cons_self, rfl, rfl⟩
      · obtain ⟨range, hrange, hopen⟩ := ih hb
        exact ⟨range, List.mem_cons_of_mem _ hrange, hopen⟩

end Tiling

end Reconcile
