import Mathlib.Data.List.Destutter
import Mathlib.Order.Compare
import Reconcile.Proofs.Cutting
import Reconcile.Proofs.Transparency
import Reconcile.Proofs.Utf8

/-!
# Keys in order and buckets in order

Keys are compared in full, byte by byte, where two lists of items are merged, and by their object
keys where a bucket is listed. The two agree, although the order of keys is not that of their
buckets and object keys: the names of buckets may begin with one another and hold characters that
come before the slash, so that `a-b/x` comes before `a/x`.

What holds instead is that the keys of a bucket are an interval: they begin with the bucket's name
and a slash, and so does what lies between two of them (`ObjectName.exists_eq_fullKey_of_le`), up to
the name with the character after the slash (`ObjectName.exists_eq_fullKey_of_lt`). So a range of
object keys is an interval of full keys (`Range.covers_iff_between`), two buckets lie apart with all
their keys (`byteOrder_of_bucket_ne`), and in a list in the order of its keys each bucket comes once
(`pairwise_bucketRuns`), in the order in which a cutting ends the buckets
(`Cutting.Ordered.openBuckets_chunks`).

The main result is `ordersByBucket_of_ascending`.
-/

namespace Reconcile

/-! ### Comparing bytes -/

/-- How two texts compare, byte by byte. -/
def byteOrder (a b : String) : Ordering :=
  cmp (Utf8.bytes a) (Utf8.bytes b)

/-- Texts compare as their bytes do. -/
theorem byteOrder_eq_cmp (a b : String) : byteOrder a b = cmp a b := by
  simp only [byteOrder, cmp, cmpUsing, Utf8.bytes_lt_bytes_iff]

/-- A text that comes first byte by byte is the lesser. -/
theorem byteOrder_eq_lt_iff {a b : String} : byteOrder a b = .lt ↔ a < b := by
  rw [byteOrder_eq_cmp, cmp_eq_lt_iff]

/-- Texts of the same bytes are the same. -/
theorem byteOrder_eq_eq_iff {a b : String} : byteOrder a b = .eq ↔ a = b := by
  rw [byteOrder_eq_cmp, cmp_eq_eq_iff]

/-- A text that does not come later byte by byte is not the greater. -/
theorem byteOrder_ne_gt_iff {a b : String} : byteOrder a b ≠ .gt ↔ a ≤ b := by
  rw [byteOrder_eq_cmp, Ne, cmp_eq_gt_iff, not_lt]

/-- Texts that come before one another as others do compare as those do. -/
theorem byteOrder_congr {a b c d : String} (hlt : a < b ↔ c < d) (hgt : b < a ↔ d < c) :
    byteOrder a b = byteOrder c d := by
  simp only [byteOrder_eq_cmp, cmp, cmpUsing, hlt, hgt]

/-- Whether the keys of a list ascend strictly, byte by byte. -/
def BytesAscend {α : Type} (key : α → String) (list : List α) : Prop :=
  list.Pairwise fun a b => byteOrder (key a) (key b) = .lt

instance {α : Type} (key : α → String) (list : List α) : Decidable (BytesAscend key list) :=
  inferInstanceAs (Decidable (list.Pairwise _))

/-- Keys ascend byte by byte exactly if they ascend as texts. -/
theorem bytesAscend_iff {α : Type} {key : α → String} {list : List α} :
    BytesAscend key list ↔ AscendingByKey key list :=
  List.Pairwise.iff fun _ _ => byteOrder_eq_lt_iff

/-! ### The keys of a bucket -/

/-- What lies between two texts that begin alike begins like them. -/
theorem exists_append_of_between {l x y k : List Char} (hx : ¬k < l ++ x) (hy : ¬l ++ y < k) :
    ∃ z, k = l ++ z ∧ ¬z < x ∧ ¬y < z := by
  induction l generalizing k with
  | nil => exact ⟨k, rfl, hx, hy⟩
  | cons c l ih =>
      cases k with
      | nil => exact absurd (List.nil_lt_cons c (l ++ x)) hx
      | cons d k =>
          rw [List.cons_append, List.cons_lt_cons_iff, not_or, not_and] at hx hy
          obtain rfl : d = c := le_antisymm (not_lt.1 hy.1) (not_lt.1 hx.1)
          obtain ⟨z, rfl, hz⟩ := ih (hx.2 rfl) (hy.2 rfl)
          exact ⟨z, rfl, hz⟩

/-- No character lies between the slash and the digit 0. -/
theorem exists_eq_cons_of_lt {z : List Char} (hslash : ¬z < ['/']) (hzero : z < ['0']) :
    ∃ rest, z = '/' :: rest := by
  cases z with
  | nil => exact absurd (List.nil_lt_cons '/' []) hslash
  | cons c rest =>
      rw [List.cons_lt_cons_iff] at hslash hzero
      have hlt : c < '0' := hzero.resolve_right fun h => List.not_lt_nil rest h.2
      have hle : ¬c < '/' := fun h => hslash (.inl h)
      have heq : c.toNat = '/'.toNat := by
        change c.toNat < 48 at hlt
        change ¬c.toNat < 47 at hle
        change c.toNat = 47
        omega
      exact ⟨rest, congrArg (· :: rest) (Char.toNat_inj.1 heq)⟩

namespace ObjectName

/-- The full key of an empty object key is the bucket and a slash. -/
theorem fullKey_empty (bucket : String) : fullKey ⟨bucket, ""⟩ = bucket ++ "/" := by
  rw [fullKey, String.append_empty]

/-- The keys of a bucket come after its name with a slash. -/
theorem le_fullKey (bucket key : String) : bucket ++ "/" ≤ fullKey ⟨bucket, key⟩ := by
  have hlt := @fullKey_lt_fullKey_iff ⟨bucket, key⟩ ⟨bucket, ""⟩ rfl
  rw [← fullKey_empty, ← not_lt, hlt, String.lt_iff_toList_lt]
  exact List.not_lt_nil key.toList

/-- They come before its name with the character that follows the slash. -/
theorem fullKey_lt (bucket key : String) : fullKey ⟨bucket, key⟩ < bucket ++ "0" := by
  rw [String.lt_iff_toList_lt, toList_fullKey, String.toList_append, append_lt_append_iff]
  exact List.cons_lt_cons_iff.2 (.inl (by decide))

/-- **What lies between the start of a bucket and a key of it** is a key of the bucket. -/
theorem exists_eq_fullKey_of_le {bucket last key : String} (hstart : bucket ++ "/" ≤ key)
    (hend : key ≤ fullKey ⟨bucket, last⟩) : ∃ objectKey, key = fullKey ⟨bucket, objectKey⟩ := by
  rw [← not_lt, String.lt_iff_toList_lt] at hstart hend
  rw [String.toList_append, ← List.append_nil (_ ++ _)] at hstart
  rw [toList_fullKey, List.append_cons] at hend
  obtain ⟨z, hz, -⟩ := exists_append_of_between hstart hend
  refine ⟨.ofList z, String.toList_inj.1 ?_⟩
  rw [hz, toList_fullKey]
  simp

/-- **What lies between the start of a bucket and its end** is a key of the bucket. -/
theorem exists_eq_fullKey_of_lt {bucket key : String} (hstart : bucket ++ "/" ≤ key)
    (hend : key < bucket ++ "0") : ∃ objectKey, key = fullKey ⟨bucket, objectKey⟩ := by
  rw [← not_lt, String.lt_iff_toList_lt, String.toList_append] at hstart
  rw [String.lt_iff_toList_lt, String.toList_append] at hend
  obtain ⟨z, hz, hslash, -⟩ := exists_append_of_between hstart (List.lt_asymm hend)
  rw [hz, append_lt_append_iff] at hend
  obtain ⟨rest, rfl⟩ := exists_eq_cons_of_lt hslash hend
  refine ⟨.ofList rest, String.toList_inj.1 ?_⟩
  rw [hz, toList_fullKey, String.toList_ofList]

end ObjectName

section Keys

variable {key other bucket otherBucket objectKey otherKey : String}
  (hkey : splitKey? key = some (bucket, objectKey))

include hkey

/-- Within a bucket keys compare as their object keys do. -/
theorem byteOrder_of_bucket (hother : splitKey? other = some (bucket, otherKey)) :
    byteOrder key other = byteOrder objectKey otherKey := by
  obtain ⟨rfl, -⟩ := (@ObjectName.splitKey?_eq_some_iff _ ⟨bucket, objectKey⟩).1 hkey
  obtain ⟨rfl, -⟩ := (@ObjectName.splitKey?_eq_some_iff _ ⟨bucket, otherKey⟩).1 hother
  exact byteOrder_congr (ObjectName.fullKey_lt_fullKey_iff rfl)
    (ObjectName.fullKey_lt_fullKey_iff rfl)

variable (hother : splitKey? other = some (otherBucket, otherKey))

include hother

/-- The keys of a bucket come before those of a bucket that comes after it. -/
theorem lt_of_bucketBefore (h : BucketBefore bucket otherBucket) : key < other := by
  obtain ⟨rfl, hproper⟩ := (@ObjectName.splitKey?_eq_some_iff _ ⟨bucket, objectKey⟩).1 hkey
  obtain ⟨rfl, hproper'⟩ := (@ObjectName.splitKey?_eq_some_iff _ ⟨otherBucket, otherKey⟩).1 hother
  exact ObjectName.fullKey_lt_of_bucketBefore hproper hproper' h

/-- **Keys of two buckets compare as the buckets do**, whatever their object keys are. -/
theorem byteOrder_of_bucket_ne (hne : bucket ≠ otherBucket) :
    byteOrder key other = byteOrder (bucket ++ "/") (otherBucket ++ "/") ∧
      byteOrder key other ≠ .eq := by
  rw [Ne, byteOrder_eq_eq_iff]
  rcases BucketBefore.trichotomy bucket otherBucket with h | h | h
  · have hlt := lt_of_bucketBefore hkey hother h
    exact ⟨byteOrder_congr (iff_of_true hlt h) (iff_of_false hlt.not_gt (lt_asymm h)), hlt.ne⟩
  · exact absurd h hne
  · have hlt := lt_of_bucketBefore hother hkey h
    exact ⟨byteOrder_congr (iff_of_false hlt.not_gt (lt_asymm h)) (iff_of_true hlt h), hlt.ne'⟩

end Keys

namespace Range

/-- Whether a full key lies after the marker of a range, or within its bucket if it has none. -/
def StartsBefore (range : Range) (key : String) : Prop :=
  match range.marker with
  | none => byteOrder (range.bucket ++ "/") key ≠ .gt
  | some marker => byteOrder (ObjectName.fullKey ⟨range.bucket, marker⟩) key = .lt

/-- Whether a full key lies up to the end of a range, or before the end of its bucket if it has
none. -/
def EndsAfter (range : Range) (key : String) : Prop :=
  match range.last with
  | none => byteOrder key (range.bucket ++ "0") = .lt
  | some last => byteOrder key (ObjectName.fullKey ⟨range.bucket, last⟩) ≠ .gt

variable {range : Range}

/-- A range starts before a key of its bucket exactly if the key is ahead of its marker. -/
theorem startsBefore_fullKey_iff (objectKey : String) :
    range.StartsBefore (ObjectName.fullKey ⟨range.bucket, objectKey⟩) ↔
      isAhead range.marker objectKey = true := by
  unfold StartsBefore isAhead
  cases range.marker with
  | none =>
      exact iff_of_true (byteOrder_ne_gt_iff.2 (ObjectName.le_fullKey _ _)) rfl
  | some marker =>
      refine byteOrder_eq_lt_iff.trans (Iff.trans ?_ decide_eq_true_iff.symm)
      exact ObjectName.fullKey_lt_fullKey_iff rfl

/-- A range ends at a key of its bucket or after it exactly if its own last key, where it has one,
is no less. -/
theorem endsAfter_fullKey_iff (objectKey : String) :
    range.EndsAfter (ObjectName.fullKey ⟨range.bucket, objectKey⟩) ↔
      ∀ last, range.last = some last → objectKey ≤ last := by
  rw [EndsAfter]
  cases range.last with
  | none => exact iff_of_true (byteOrder_eq_lt_iff.2 (ObjectName.fullKey_lt _ _)) nofun
  | some last =>
      simp only [byteOrder_ne_gt_iff, ← not_lt, ObjectName.fullKey_lt_fullKey_iff,
        Option.some.injEq, forall_eq']

/-- A key between the bounds of a range is one of its bucket. -/
theorem exists_eq_fullKey {key : String} (hstart : range.StartsBefore key)
    (hend : range.EndsAfter key) :
    ∃ objectKey, key = ObjectName.fullKey ⟨range.bucket, objectKey⟩ := by
  have hstart : range.bucket ++ "/" ≤ key := by
    rw [StartsBefore] at hstart
    cases hmarker : range.marker with
    | none =>
        rw [hmarker] at hstart
        exact byteOrder_ne_gt_iff.1 hstart
    | some marker =>
        rw [hmarker] at hstart
        exact (ObjectName.le_fullKey _ marker).trans (byteOrder_eq_lt_iff.1 hstart).le
  rw [EndsAfter] at hend
  cases hlast : range.last with
  | none =>
      rw [hlast] at hend
      exact ObjectName.exists_eq_fullKey_of_lt hstart (byteOrder_eq_lt_iff.1 hend)
  | some last =>
      rw [hlast] at hend
      exact ObjectName.exists_eq_fullKey_of_le hstart (byteOrder_ne_gt_iff.1 hend)

/-- **A range of object keys is an interval of full keys.** -/
theorem covers_iff_between (hproper : '/' ∉ range.bucket.toList) (limit : ℕ) (item : Item) :
    (range.request limit).covers item = true ↔
      range.StartsBefore item.key ∧ range.EndsAfter item.key := by
  rw [covers_request_iff]
  constructor
  · rintro ⟨⟨bucket, objectKey⟩, hname, rfl, hahead, hle⟩
    rw [(Item.name?_eq_some_iff.1 hname).1]
    exact ⟨(startsBefore_fullKey_iff objectKey).2 hahead, (endsAfter_fullKey_iff objectKey).2 hle⟩
  · rintro ⟨hstart, hend⟩
    obtain ⟨objectKey, hkey⟩ := exists_eq_fullKey hstart hend
    rw [hkey] at hstart hend
    exact ⟨⟨range.bucket, objectKey⟩, Item.name?_eq_some_iff.2 ⟨hkey, hproper⟩, rfl,
      (startsBefore_fullKey_iff objectKey).1 hstart, (endsAfter_fullKey_iff objectKey).1 hend⟩

end Range

/-! ### Buckets one after the other -/

/-- The items of a bucket. -/
def ofBucket (items : List Item) (bucket : String) : List Item :=
  items.filter fun item => item.bucket? = some bucket

/-- The buckets of some items in the order in which they come, each as often as the items change to
it. -/
def bucketRuns (items : List Item) : List String :=
  (bucketsOf items).destutter (· ≠ ·)

section Runs

variable {items : List Item} (hascending : AscendingByKey Item.key items)
  (hnamed : ∀ item ∈ items, '/' ∈ item.key.toList)

section

include hascending

/-- A bucket goes on or makes room for one that comes after it. -/
theorem pairwise_bucketsOf :
    (bucketsOf items).Pairwise fun a b => a = b ∨ BucketBefore a b := by
  refine List.Pairwise.filterMap _ (fun x y hlt a ha b hb => ?_) hascending
  obtain ⟨first, hfirst, rfl⟩ := Option.map_eq_some_iff.1 ha
  obtain ⟨second, hsecond, rfl⟩ := Option.map_eq_some_iff.1 hb
  exact (Item.bucket_of_key_lt hfirst hsecond hlt).imp_left fun h => h.1.symm

/-- **No bucket is left and entered again**: the runs of items are one for each bucket. -/
theorem bucketRuns_eq_dedup : bucketRuns items = (bucketsOf items).dedup := by
  have hanti : Std.Antisymm fun a b : String => a = b ∨ BucketBefore a b := by
    refine ⟨fun a b hab hba => ?_⟩
    rcases hab with rfl | hab
    · rfl
    · exact hba.elim Eq.symm fun hba => absurd (hab.trans hba) (BucketBefore.irrefl a)
  exact (pairwise_bucketsOf hascending).destutter_eq_dedup

/-- The buckets that items run through are those of the items. -/
theorem mem_bucketRuns_iff {bucket : String} :
    bucket ∈ bucketRuns items ↔ ∃ item ∈ items, item.bucket? = some bucket := by
  rw [bucketRuns_eq_dedup hascending, List.mem_dedup, mem_bucketsOf_iff]

/-- **No bucket comes again** once another has come. -/
theorem pairwise_bucketRuns : (bucketRuns items).Pairwise BucketBefore := by
  have hnodup : (bucketRuns items).Pairwise (· ≠ ·) :=
    bucketRuns_eq_dedup hascending ▸ List.nodup_dedup _
  have hbefore := (pairwise_bucketsOf hascending).sublist
    (List.destutter_sublist (· ≠ ·) (bucketsOf items))
  exact (hbefore.and hnodup).imp fun h => h.1.resolve_left h.2

end

/-- The items of one bucket come before those of a bucket that comes after it. -/
theorem key_lt_of_bucketBefore {a b : Item} {first second : String} (ha : a.bucket? = some first)
    (hb : b.bucket? = some second) (h : BucketBefore first second) : a.key < b.key := by
  obtain ⟨x, hx, rfl⟩ := Option.map_eq_some_iff.1 ha
  obtain ⟨y, hy, rfl⟩ := Option.map_eq_some_iff.1 hb
  exact lt_of_bucketBefore (ObjectName.splitKey?_eq_some_iff.2 (Item.name?_eq_some_iff.1 hx))
    (ObjectName.splitKey?_eq_some_iff.2 (Item.name?_eq_some_iff.1 hy)) h

/-- The blocks of the buckets, one after the other, are the items of these buckets. -/
theorem flatMap_ofBucket {buckets : List String} (h : buckets.Pairwise BucketBefore)
    {others : List Item} (hothers : AscendingByKey Item.key others) :
    buckets.flatMap (ofBucket others) =
      others.filter fun item => item.bucket?.any (· ∈ buckets) := by
  have hparts : buckets.Pairwise fun a b => ∀ x ∈ others, ∀ y ∈ others,
      decide (x.bucket? = some a) = true → decide (y.bucket? = some b) = true → x.key < y.key :=
    h.imp fun hbefore x _ y _ hx hy =>
      key_lt_of_bucketBefore (of_decide_eq_true hx) (of_decide_eq_true hy) hbefore
  refine (hothers.flatMap_filter hparts).trans (List.filter_congr fun item _ => ?_)
  rw [Bool.eq_iff_iff, List.any_eq_true, Option.any_eq_true]
  refine exists_congr fun bucket => ?_
  rw [decide_eq_true_eq, decide_eq_true_eq, and_comm]

/-- Emitting what belongs to one bucket after another, each in the order of its keys, is emitting it
all in the order of its keys. -/
theorem bytesAscend_flatMap {buckets : List String} (h : buckets.Pairwise BucketBefore) {α : Type}
    {key : α → String} {emit : String → List α}
    (hascend : ∀ bucket ∈ buckets, BytesAscend key (emit bucket))
    (hbucket : ∀ bucket ∈ buckets, ∀ a ∈ emit bucket,
      ∃ objectKey, splitKey? (key a) = some (bucket, objectKey)) :
    BytesAscend key (buckets.flatMap emit) := by
  refine List.pairwise_flatMap.2 ⟨hascend, h.imp_of_mem fun hfirst hsecond hbefore a ha b hb => ?_⟩
  obtain ⟨x, hx⟩ := hbucket _ hfirst a ha
  obtain ⟨y, hy⟩ := hbucket _ hsecond b hb
  exact byteOrder_eq_lt_iff.2 (lt_of_bucketBefore hx hy hbefore)

include hascending

section

include hnamed

/-- The items are their blocks, one after the other. -/
theorem flatMap_bucketRuns : (bucketRuns items).flatMap (ofBucket items) = items := by
  rw [flatMap_ofBucket (pairwise_bucketRuns hascending) hascending]
  simp only [bucketRuns_eq_dedup hascending, List.mem_dedup]
  exact filter_bucketsOf hnamed

/-- **The items of a bucket are a block.** -/
theorem exists_block (bucket : String) : ∃ before after : List Item,
    items = before ++ ofBucket items bucket ++ after ∧
      ∀ item ∈ before ++ after, item.bucket? ≠ some bucket := by
  -- The items are those of their buckets, one bucket after the other, each bucket once.
  have hall := flatMap_bucketRuns hascending hnamed
  have hother : ∀ buckets : List String, (∀ other ∈ buckets, other ≠ bucket) →
      ∀ item ∈ buckets.flatMap (ofBucket items), item.bucket? ≠ some bucket := by
    intro buckets hne item hitem
    obtain ⟨other, hmem, hitem⟩ := List.mem_flatMap.1 hitem
    rw [of_decide_eq_true (List.mem_filter.1 hitem).2, Ne, Option.some.injEq]
    exact hne other hmem
  by_cases hmem : bucket ∈ bucketRuns items
  · obtain ⟨before, after, hruns⟩ := List.append_of_mem hmem
    have hapart := pairwise_bucketRuns hascending
    rw [hruns] at hall hapart
    obtain ⟨-, hafter, hbefore⟩ := List.pairwise_append.1 hapart
    refine ⟨before.flatMap (ofBucket items), after.flatMap (ofBucket items), ?_, ?_⟩
    · rw [List.flatMap_append, List.flatMap_cons, ← List.append_assoc] at hall
      exact hall.symm
    · rw [← List.flatMap_append]
      refine hother _ fun other hmem => ?_
      rcases List.mem_append.1 hmem with hmem | hmem
      · exact (hbefore other hmem bucket List.mem_cons_self).ne
      · exact (List.rel_of_pairwise_cons hafter hmem).ne.symm
  · refine ⟨items, [], ?_, ?_⟩
    · have hnone : ofBucket items bucket = [] := List.filter_eq_nil_iff.2 fun item hitem hbucket =>
        hmem ((mem_bucketRuns_iff hascending).2 ⟨item, hitem, of_decide_eq_true hbucket⟩)
      rw [hnone, List.append_nil, List.append_nil]
    · rw [List.append_nil, ← hall]
      exact hother _ fun other hother heq => hmem (heq ▸ hother)

/-- Merging bucket after bucket is merging all. -/
theorem mergeSorted_bucketRuns {leader : List Item} (hleader : AscendingByKey Item.key leader) :
    mergeSorted items (leader.filter fun item => item.bucket?.any (· ∈ bucketRuns items)) =
      (bucketRuns items).flatMap fun bucket =>
        mergeSorted (ofBucket items bucket) (ofBucket leader bucket) := by
  have hruns := pairwise_bucketRuns hascending
  have hbucket : ∀ {others : List Item} {bucket : String} {item : Item},
      item ∈ ofBucket others bucket → item.bucket? = some bucket := fun hitem =>
    of_decide_eq_true (List.mem_filter.1 hitem).2
  have hmem : ∀ bucket, ∀ item ∈ ofBucket items bucket ++ ofBucket leader bucket,
      item.bucket? = some bucket := fun bucket item hitem =>
    (List.mem_append.1 hitem).elim hbucket hbucket
  rw [← mergeSorted_flatMap (hruns.imp fun hbefore x hx y hy =>
      key_lt_of_bucketBefore (hmem _ x hx) (hmem _ y hy) hbefore),
    flatMap_bucketRuns hascending hnamed, flatMap_ofBucket hruns hleader]

end

end Runs

/-! ### Where a comparison cuts -/

/-- **A comparison cuts where the leader's next page starts.** When an item fills it, what it merges
of the follower's items of a range are those up to the item's object key, and what it keeps are
those after. -/
theorem Comparison.push_filter_covers {items : List Item}
    (hascending : AscendingByKey Item.key items) {range : Range} {item : Item} {name : ObjectName}
    (hname : item.name? = some name) (hcovers : range.covers item = true) {capacity : ℕ}
    {held : Array Item} (hfull : ¬(held.push item).size < max capacity 1) :
    (Comparison.mk capacity (items.filter range.covers) held).push item =
      (mergeSorted (items.filter (range.upTo name.key).covers) (held.push item).toList,
        ⟨capacity, items.filter (range.after name.key).covers, #[]⟩) := by
  have hcut : (items.filter range.covers).Pairwise fun a b : Item =>
      decide (b.key ≤ item.key) = true → decide (a.key ≤ item.key) = true := by
    refine List.Pairwise.imp (fun hab hb => ?_) (hascending.filter range.covers)
    rw [decide_eq_true_eq] at hb ⊢
    exact hab.le.trans hb
  have hupTo : (items.filter range.covers).filter (fun f => decide (f.key ≤ item.key)) =
      items.filter (range.upTo name.key).covers := by
    rw [List.filter_filter]
    refine List.filter_congr fun f _ => ?_
    rw [Range.covers_upTo hname hcovers, Bool.and_comm]
  have hafter : (items.filter range.covers).filter (fun f => !decide (f.key ≤ item.key)) =
      items.filter (range.after name.key).covers := by
    rw [List.filter_filter]
    refine List.filter_congr fun f _ => ?_
    rw [Range.covers_after hname hcovers, Bool.and_comm, ← decide_not]
    simp only [not_le]
  rw [push_of_le hfull, covered, take_partitionPoint_eq_filter hcut,
    drop_partitionPoint_eq_filter hcut, hupTo, hafter]

/-! ### The buckets that a cutting ends -/

/-- The buckets of the ranges that run to the end of their bucket. -/
def openBuckets (ranges : List Range) : List String :=
  (ranges.filter fun range => range.last = none).map Range.bucket

namespace Tiling

variable {bucket : String} {marker : Option String} {ranges : List Range}

/-- In a tiling each bucket has a range that runs to its end. -/
theorem mem_openBuckets_iff (h : Tiling bucket marker ranges) {b : String} :
    b ∈ openBuckets ranges ↔ b ∈ ranges.map Range.bucket := by
  constructor
  · intro hb
    obtain ⟨range, hrange, rfl⟩ := List.mem_map.1 hb
    exact List.mem_map_of_mem (List.mem_of_mem_filter hrange)
  · intro hb
    obtain ⟨range, hrange, rfl, hopen⟩ := h.exists_open hb
    exact List.mem_map_of_mem (List.mem_filter.2 ⟨hrange, decide_eq_true hopen⟩)

/-- No bucket of a tiling begins before the one before it has ended. -/
theorem pairwise_openBuckets (h : Tiling bucket marker ranges) :
    (openBuckets ranges).Pairwise BucketBefore := by
  induction h with
  | last bucket marker => exact List.pairwise_singleton _ _
  | next _ _ ih => exact ih
  | @bucket bucket following marker ranges hbefore htail ih =>
      refine List.pairwise_cons.2 ⟨fun b hb => ?_, ih⟩
      obtain ⟨range, hrange, rfl⟩ := List.mem_map.1 (htail.mem_openBuckets_iff.1 hb)
      rcases htail.starts_after range hrange with ⟨hbucket, -⟩ | hafter
      · exact hbucket ▸ hbefore
      · exact hbefore.trans hafter

end Tiling

/-- A span has an end within its bucket, so that only chunks run to the end of one. -/
theorem openBuckets_tiles {tiles : List Tile}
    (hspans : ∀ span, .skipped span ∈ tiles → span.last ≠ none) :
    openBuckets ((tiles.filterMap Tile.chunk?).map Chunk.range) =
      openBuckets (tiles.map Tile.range) := by
  induction tiles with
  | nil => rfl
  | cons tile tiles ih =>
      have ih := ih fun span hspan => hspans span (List.mem_cons_of_mem _ hspan)
      rw [openBuckets, openBuckets] at ih ⊢
      cases tile with
      | compared chunk =>
          have hchunks : (Tile.compared chunk :: tiles).filterMap Tile.chunk? =
              chunk :: tiles.filterMap Tile.chunk? := rfl
          rw [hchunks, List.map_cons, List.map_cons, List.filter_cons, List.filter_cons, Tile.range]
          split
          · rw [List.map_cons, List.map_cons, ih]
          · exact ih
      | skipped span =>
          have hclosed := hspans span List.mem_cons_self
          have hchunks : (Tile.skipped span :: tiles).filterMap Tile.chunk? =
              tiles.filterMap Tile.chunk? := rfl
          rw [hchunks, List.map_cons, List.filter_cons_of_neg, ih]
          rwa [Tile.range, decide_eq_true_eq]

/-- **The cutting ends each bucket once**, in the order in which the buckets come. -/
theorem Cutting.Ordered.openBuckets_chunks {cutting : Cutting} (h : cutting.Ordered) :
    openBuckets (cutting.chunks.map Chunk.range) = bucketRuns cutting.items := by
  have hspans : ∀ span, .skipped span ∈ cutting.tiles → span.last ≠ none := by
    intro span hspan
    obtain ⟨_, last, -, hlast, -⟩ := exists_answer hspan
    exact hlast ▸ Option.some_ne_none last
  rw [h.chunks_eq, openBuckets_tiles hspans]
  rcases h.tiling_cases with ⟨hitems, htiles⟩ | ⟨bucket, htiling⟩
  · rw [hitems, htiles]
    rfl
  · have hopen : AscendingByKey (· ++ "/") (openBuckets (cutting.tiles.map Tile.range)) :=
      htiling.pairwise_openBuckets
    have hruns : AscendingByKey (· ++ "/") (bucketRuns cutting.items) :=
      pairwise_bucketRuns h.ascending
    refine hopen.ext hruns fun b => ?_
    rw [htiling.mem_openBuckets_iff, mem_bucketRuns_iff h.ascending, List.map_map, List.mem_map]
    exact Chunker.mem_buckets_iff cutting.capacity cutting.digests h.ascending h.named

/-! ### The whole -/

/-- Whether the order of full keys and that of buckets and object keys agree on some items. -/
structure OrdersByBucket (items : List Item) : Prop where
  /-- The items of a bucket are one block. -/
  block : ∀ bucket, ∃ before after : List Item,
    items = before ++ ofBucket items bucket ++ after ∧
      ∀ item ∈ before ++ after, item.bucket? ≠ some bucket
  /-- Within a bucket full keys compare as their object keys do. -/
  within : ∀ key other bucket objectKey otherKey, splitKey? key = some (bucket, objectKey) →
    splitKey? other = some (bucket, otherKey) → byteOrder key other = byteOrder objectKey otherKey
  /-- Keys of two buckets compare as the buckets do, whatever their object keys are. -/
  apart : ∀ key other bucket otherBucket objectKey otherKey,
    splitKey? key = some (bucket, objectKey) → splitKey? other = some (otherBucket, otherKey) →
      bucket ≠ otherBucket →
        byteOrder key other = byteOrder (bucket ++ "/") (otherBucket ++ "/") ∧
          byteOrder key other ≠ .eq
  /-- The bounds that a request has for object keys select what the same bounds select as full
  keys. -/
  between : ∀ (range : Range) (limit : ℕ) (item : Item), '/' ∉ range.bucket.toList →
    ((range.request limit).covers item = true ↔
      range.StartsBefore item.key ∧ range.EndsAfter item.key)
  /-- So a comparison, which cuts the items of a range by their full keys, cuts them where the next
  request starts. -/
  cut : ∀ (range : Range) (item : Item) (name : ObjectName), item.name? = some name →
    range.covers item = true → ∀ (capacity : ℕ) (held : Array Item),
      ¬(held.push item).size < max capacity 1 →
        (Comparison.mk capacity (items.filter range.covers) held).push item =
          (mergeSorted (items.filter (range.upTo name.key).covers) (held.push item).toList,
            ⟨capacity, items.filter (range.after name.key).covers, #[]⟩)
  /-- No bucket comes again once another has come. -/
  once : (bucketRuns items).Nodup
  /-- However the items are cut, each bucket is ended once, and in this order. -/
  ended : ∀ cutting : Cutting, cutting.items = items → .finish ∉ cutting.calls →
    openBuckets (cutting.chunks.map Chunk.range) = bucketRuns items
  /-- What is emitted bucket after bucket is emitted in the order of the keys. -/
  emitted : ∀ (α : Type) (key : α → String) (emit : String → List α),
    (∀ bucket ∈ bucketRuns items, BytesAscend key (emit bucket)) →
    (∀ bucket ∈ bucketRuns items, ∀ a ∈ emit bucket,
      ∃ objectKey, splitKey? (key a) = some (bucket, objectKey)) →
        BytesAscend key ((bucketRuns items).flatMap emit)
  /-- So merging bucket after bucket is one merge. -/
  merged : ∀ leader : List Item, BytesAscend Item.key leader →
    mergeSorted items (leader.filter fun item => item.bucket?.any (· ∈ bucketRuns items)) =
      (bucketRuns items).flatMap fun bucket =>
        mergeSorted (ofBucket items bucket) (ofBucket leader bucket)

/-- **The order of keys is the order of their buckets, bucket after bucket**, whatever characters
the names of the buckets hold.

Two keys of one bucket compare as what follows the slash, and two of different buckets as the names
with their slashes, of which neither is a beginning of the other (`byteOrder_of_bucket_ne`). -/
theorem ordersByBucket_of_ascending {items : List Item} (hascending : BytesAscend Item.key items)
    (hnamed : ∀ item ∈ items, '/' ∈ item.key.toList) : OrdersByBucket items := by
  have hascending := bytesAscend_iff.1 hascending
  refine ⟨exists_block hascending hnamed,
    fun _ _ _ _ _ hkey hother => byteOrder_of_bucket hkey hother,
    fun _ _ _ _ _ _ hkey hother hne => byteOrder_of_bucket_ne hkey hother hne,
    fun range limit item hproper => Range.covers_iff_between hproper limit item,
    fun range item name hname hcovers capacity held hfull =>
      Comparison.push_filter_covers hascending hname hcovers hfull,
    (pairwise_bucketRuns hascending).imp BucketBefore.ne, fun cutting hitems hfinish => ?_,
    fun α key emit => bytesAscend_flatMap (pairwise_bucketRuns hascending),
    fun leader hleader => mergeSorted_bucketRuns hascending hnamed (bytesAscend_iff.1 hleader)⟩
  subst hitems
  exact Cutting.Ordered.openBuckets_chunks ⟨hfinish, hascending, hnamed⟩

/-- Buckets whose names begin with one another, with characters before and after the slash. -/
def nestedBuckets : List Item :=
  [⟨"a!/z", "1"⟩, ⟨"a-b/é", "1"⟩, ⟨"a/", "1"⟩, ⟨"a/b/c", "1"⟩, ⟨"a0/a", "1"⟩]

/-- The statement holds of items that are not in the order of the names of their buckets. -/
theorem ordersByBucket_of_ascending_nested : BytesAscend Item.key nestedBuckets ∧
    (∀ item ∈ nestedBuckets, '/' ∈ item.key.toList) ∧ OrdersByBucket nestedBuckets :=
  have hascending : BytesAscend Item.key nestedBuckets := by decide
  have hnamed : ∀ item ∈ nestedBuckets, '/' ∈ item.key.toList := by decide
  ⟨hascending, hnamed, ordersByBucket_of_ascending hascending hnamed⟩

end Reconcile
