import Reconcile.Proofs.FollowerDb
import Reconcile.Proofs.Merge
import Reconcile.Proofs.Scan

/-!
# A scan is one merge

However a scan cuts the follower's items into chunks and the leader's listings into pages, and
whichever spans digests let it skip, what it delivers is what one merge of all items would find.
The leader's items that count are those of the follower's buckets.
-/

namespace Reconcile

/-- The buckets of some items. -/
def bucketsOf (items : List Item) : List String :=
  items.filterMap Item.bucket?

/-- The buckets of items are those that some item is in. -/
theorem mem_bucketsOf_iff {items : List Item} {bucket : String} :
    bucket ∈ bucketsOf items ↔ ∃ item ∈ items, item.bucket? = some bucket :=
  List.mem_filterMap

/-- The items of a store in some buckets. -/
def Store.ofBuckets (store : Store) (buckets : List String) : List Item :=
  store.items.filter fun item => item.bucket?.any (· ∈ buckets)

/-- The part of a store that is in some buckets keeps its order. -/
theorem Store.Ascending.ofBuckets {store : Store} (hstore : store.Ascending)
    (buckets : List String) : AscendingByKey Item.key (store.ofBuckets buckets) :=
  hstore.filter _

/-- The bucket of an item depends on its key only. -/
theorem Item.bucket?_congr {a b : Item} (h : a.key = b.key) : a.bucket? = b.bucket? := by
  rw [bucket?, bucket?, name?, name?, h]

/-- Under the keys of its buckets a store has the items that it has in these buckets. -/
theorem Store.Ascending.findKey?_ofBuckets {store : Store} (hstore : store.Ascending)
    {buckets : List String} {key : String} {item : Item} (hkey : item.key = key) {bucket : String}
    (hbucket : item.bucket? = some bucket) (hmem : bucket ∈ buckets) :
    findKey? (store.ofBuckets buckets) key = findKey? store.items key := by
  cases hfind : findKey? store.items key with
  | some found =>
      obtain ⟨hfound, hkey'⟩ := findKey?_eq_some hfind
      rw [findKey?_eq_some_iff (hstore.ofBuckets buckets), Store.ofBuckets, List.mem_filter]
      refine ⟨⟨hfound, ?_⟩, hkey'⟩
      rw [Item.bucket?_congr (hkey'.trans hkey.symm), hbucket, Option.any_some]
      exact decide_eq_true hmem
  | none =>
      refine List.find?_eq_none.2 fun other hother => ?_
      exact List.find?_eq_none.1 hfind other (List.mem_filter.1 hother).1

/-- Whether a key names an object of some buckets. -/
def InBuckets (buckets : List String) (key : String) : Prop :=
  ∃ name, ObjectName.ofKey key = .ok name ∧ name.bucket ∈ buckets

/-- The items with such keys are those of the buckets. -/
theorem inBuckets_iff (buckets : List String) (item : Item) :
    InBuckets buckets item.key ↔ item.bucket?.any (· ∈ buckets) = true := by
  rw [Item.bucket?, Option.any_map, Option.any_eq_true]
  refine exists_congr fun name => and_congr ?_ decide_eq_true_iff.symm
  rw [ObjectName.ofKey_eq_ok_iff, Item.name?_eq_some_iff]

/-- Where a list and the buckets of a store hold the same under a key, the list shows under it what
the store holds. -/
theorem findKey?_eq_find? {buckets : List String} {seen : List Item} {store : Store}
    (hseen : AscendingByKey Item.key seen) (hstore : store.Ascending) {key : String}
    (hkey : InBuckets buckets key)
    (hmem : ∀ item : Item, item.key = key → (item ∈ seen ↔ item ∈ store.ofBuckets buckets)) :
    (findKey? seen key).map Item.value = store.find? key := by
  obtain ⟨bucket, hbucket, hin⟩ :=
    (Option.any_eq_true _ _).1 ((inBuckets_iff buckets ⟨key, ""⟩).1 hkey)
  have hfind : findKey? seen key = findKey? (store.ofBuckets buckets) key := by
    refine Option.ext fun item => ?_
    rw [findKey?_eq_some_iff hseen, findKey?_eq_some_iff (hstore.ofBuckets _)]
    exact and_congr_left (hmem item)
  have hitem : (⟨key, ""⟩ : Item).key = key := rfl
  rw [hfind, hstore.findKey?_ofBuckets hitem hbucket (of_decide_eq_true hin)]
  rfl

/-- An index of spans is sound if the follower and the leader hold the same items in each. -/
def DigestIndex.SoundFor (index : DigestIndex) (items : List Item) (store : Store) : Prop :=
  ∀ bucket marker last, index.endOfSpan? bucket marker = some last →
    ∀ item, Range.covers ⟨bucket, marker, some last⟩ item = true →
      (item ∈ items ↔ item ∈ store.items)

variable {items : List Item}

/-- The index that a table is, is sound if both sides hold the same items in the span of each
row. -/
theorem DigestTable.soundFor_index {table : DigestTable} {store : Store}
    (h : ∀ row ∈ table, items.filter (Range.covers ⟨row.bucket, row.marker, some row.last⟩) =
      store.items.filter (Range.covers ⟨row.bucket, row.marker, some row.last⟩)) :
    table.index.SoundFor items store := by
  intro bucket marker last hanswer item hcovers
  obtain ⟨row, hrow, rfl⟩ := Option.map_eq_some_iff.1 hanswer
  have hfits := List.find?_some
    (p := fun row : DigestRow => decide (row.bucket = bucket ∧ row.marker = marker)) hrow
  obtain ⟨rfl, rfl⟩ := of_decide_eq_true hfits
  have hsame := h row (List.mem_of_find?_eq_some hrow)
  constructor
  · intro hitem
    exact (List.mem_filter.1 (hsame ▸ List.mem_filter.2 ⟨hitem, hcovers⟩)).1
  · intro hitem
    exact (List.mem_filter.1 (hsame.symm ▸ List.mem_filter.2 ⟨hitem, hcovers⟩)).1

/-- Where a span is sound, there is nothing to find. -/
theorem mergeSorted_span (hascending : AscendingByKey Item.key items) {store : Store}
    (hstore : store.Ascending) {index : DigestIndex} (hsound : index.SoundFor items store)
    {bucket last : String} {marker : Option String}
    (hanswer : index.endOfSpan? bucket marker = some last) :
    mergeSorted (items.filter (Range.covers ⟨bucket, marker, some last⟩))
      (store.items.filter (Range.covers ⟨bucket, marker, some last⟩)) = [] := by
  have hsame : items.filter (Range.covers ⟨bucket, marker, some last⟩) =
      store.items.filter (Range.covers ⟨bucket, marker, some last⟩) := by
    refine AscendingByKey.ext (hascending.filter _) (hstore.filter _) fun item => ?_
    rw [List.mem_filter, List.mem_filter]
    exact and_congr_left fun hcovers => hsound bucket marker last hanswer item hcovers
  rw [hsame, mergeSorted_self]

/-- The items that are cut are in their own buckets. -/
theorem filter_bucketsOf (hnamed : ∀ item ∈ items, '/' ∈ item.key.toList) :
    items.filter (fun item => item.bucket?.any (· ∈ bucketsOf items)) = items := by
  refine List.filter_eq_self.2 fun item hitem => ?_
  obtain ⟨name, hname⟩ := Item.exists_name?_eq_some_iff.2 (hnamed item hitem)
  have hbucket : item.bucket? = some name.bucket := by rw [Item.bucket?, hname, Option.map_some]
  rw [hbucket, Option.any_some, decide_eq_true_eq]
  exact mem_bucketsOf_iff.2 ⟨item, hitem, hbucket⟩

section

variable (hascending : AscendingByKey Item.key items)
  (hnamed : ∀ item ∈ items, '/' ∈ item.key.toList)

include hascending hnamed

/-- The tiles have all items that are cut and the leader's items of their buckets. -/
theorem any_covers_eq (capacity : Nat) (digests : Option DigestIndex) (item : Item) :
    (((Chunker.start capacity digests).tiles items).any fun tile => tile.range.covers item) =
      item.bucket?.any (· ∈ bucketsOf items) := by
  rw [Bool.eq_iff_iff, List.any_eq_true,
    Chunker.exists_covers_iff capacity digests hascending hnamed, Option.any_eq_true]
  refine exists_congr fun bucket => and_congr_right fun _ => ?_
  rw [decide_eq_true_eq, mem_bucketsOf_iff]

/-- **The chunks find what one merge finds**, with whichever digests are sound. -/
theorem flatMap_chunks_eq {store : Store} (hstore : store.Ascending) (capacity : Nat)
    {digests : Option DigestIndex}
    (hsound : ∀ index, digests = some index → index.SoundFor items store) :
    (((Chunker.start capacity digests).chunks items).flatMap fun chunk =>
        mergeSorted chunk.items (store.items.filter chunk.range.covers)) =
      mergeSorted items (store.ofBuckets (bucketsOf items)) := by
  have hpairwise := Chunker.pairwise_tiles capacity digests hascending hnamed
  have hcovers := @Chunker.exists_covers_iff _ capacity digests hascending hnamed
  -- A tile finds what a merge of its range does: a chunk because it compares, a consumed span
  -- because the digests say that both sides agree there.
  have htile : ∀ tile ∈ (Chunker.start capacity digests).tiles items,
      (tile.chunk?.toList.flatMap fun chunk =>
          mergeSorted chunk.items (store.items.filter chunk.range.covers)) =
        mergeSorted (items.filter tile.range.covers) (store.items.filter tile.range.covers) := by
    intro tile htile
    cases tile with
    | compared chunk =>
        have hitems := Chunker.items_eq capacity digests hascending hnamed htile
        rw [Tile.chunk?, Option.toList_some, List.flatMap_singleton, hitems, Tile.range]
    | skipped span =>
        have hspan : span ∈ (Chunker.start capacity digests).consumed items :=
          List.mem_filterMap.2 ⟨_, htile, rfl⟩
        obtain ⟨index, last, hindex, hlast, hanswer⟩ := Chunker.endOfSpan?_of_mem_consumed hspan
        obtain ⟨bucket, marker, _⟩ := span
        obtain rfl : _ = some last := hlast
        exact (mergeSorted_span hascending hstore (hsound index hindex) hanswer).symm
  calc (((Chunker.start capacity digests).chunks items).flatMap fun chunk =>
          mergeSorted chunk.items (store.items.filter chunk.range.covers))
      = ((Chunker.start capacity digests).tiles items).flatMap fun tile =>
          mergeSorted (items.filter tile.range.covers)
            (store.items.filter tile.range.covers) := by
        rw [Chunker.chunks, List.filterMap_eq_flatMap_toList, List.flatMap_assoc]
        exact List.flatMap_congr htile
    _ = mergeSorted
          (((Chunker.start capacity digests).tiles items).flatMap fun tile =>
            items.filter tile.range.covers)
          (((Chunker.start capacity digests).tiles items).flatMap fun tile =>
            store.items.filter tile.range.covers) := by
        refine (mergeSorted_flatMap (hpairwise.imp fun h x hx y hy => h x y ?_ ?_)).symm
        · exact (List.mem_append.1 hx).elim (fun h => (List.mem_filter.1 h).2)
            fun h => (List.mem_filter.1 h).2
        · exact (List.mem_append.1 hy).elim (fun h => (List.mem_filter.1 h).2)
            fun h => (List.mem_filter.1 h).2
    _ = mergeSorted items (store.ofBuckets (bucketsOf items)) := by
        rw [hascending.flatMap_filter (hpairwise.imp fun h a _ b _ => h a b),
          AscendingByKey.flatMap_filter hstore (hpairwise.imp fun h a _ b _ => h a b)]
        simp only [any_covers_eq hascending hnamed]
        rw [filter_bucketsOf hnamed, Store.ofBuckets]

/-- **A scan is one merge**, whatever its sizes, its digests and the cap of the pages. Its requests
stay within the ranges of its chunks. -/
theorem run_steady {store : Store} (hstore : store.Ascending) {cap : Option Nat}
    (hcap : ∀ n, cap = some n → 1 ≤ n) (settings : ScanSettings) {digests : Option DigestIndex}
    (hsound : ∀ index, digests = some index → index.SoundFor items store) (progress : Progress) :
    ∃ requests output,
      Scan.run (Serving.steady cap).leader settings digests ⟨items, none⟩ (.holding store [])
          (Output.start progress none) = (.ok (), .holding store requests, output) ∧
        output.delivered.toList = mergeSorted items (store.ofBuckets (bucketsOf items)) ∧
        ∀ request ∈ requests, ∃ chunk ∈ (Chunker.start settings.bufferSize digests).chunks items,
          request.Within chunk.range := by
  have hchunks : ∀ chunk ∈ (Chunker.start settings.bufferSize digests).chunks items,
      AscendingByKey Item.key chunk.items := by
    intro chunk hchunk
    rw [Chunker.items_eq _ _ hascending hnamed (Chunker.mem_chunks_iff.1 hchunk)]
    exact hascending.filter _
  obtain ⟨made, hmade, hfinds⟩ := Scan.finds_steady hstore hcap settings hchunks []
  obtain ⟨output, hrun, hreceived⟩ := Scan.scanFrom_of_finds hnamed hfinds
    (rfl : (Output.start progress none).room = none)
  refine ⟨made, output, hrun, ?_, hmade⟩
  rw [hreceived.delivered_eq, flatMap_chunks_eq hascending hnamed hstore _ hsound]
  rfl

/-- The requests of a scan name no buckets but those of the items. -/
theorem bucket_mem_of_within {capacity : Nat} {digests : Option DigestIndex}
    {request : ListRequest} {chunk : Chunk}
    (hchunk : chunk ∈ (Chunker.start capacity digests).chunks items)
    (hwithin : request.Within chunk.range) : request.bucket ∈ bucketsOf items := by
  rw [mem_bucketsOf_iff, ← Chunker.mem_buckets_iff capacity digests hascending hnamed]
  exact ⟨_, Chunker.mem_chunks_iff.1 hchunk, hwithin.1.symm⟩

/-- What a request within a chunk is answered with lies in no span. -/
theorem covers_eq_false_of_within {capacity : Nat} {digests : Option DigestIndex}
    {request : ListRequest} {chunk : Chunk}
    (hchunk : chunk ∈ (Chunker.start capacity digests).chunks items)
    (hwithin : request.Within chunk.range) {store : Store} {cap : Option Nat} {item : Item}
    (hitem : item ∈ store.list cap request) {span : Range}
    (hspan : span ∈ (Chunker.start capacity digests).consumed items) :
    span.covers item = false := by
  have hcovers := hwithin.2 item (List.mem_filter.1 (List.mem_of_mem_take hitem)).2
  rw [Bool.eq_false_iff]
  intro hcovered
  have hsame := Chunker.eq_of_covers capacity digests hascending hnamed
    (Chunker.mem_chunks_iff.1 hchunk) (Chunker.mem_consumed_iff.1 hspan) hcovers hcovered
  cases hsame

end

/-! ### Chunks, pages and digests are transparent -/

/-- A scan without digests ends well, delivers what one merge finds, and asks for no buckets but
those of the items. -/
def Scan.IsMerge (store : Store) (cap : Option Nat) (settings : ScanSettings)
    (progress : Progress) (source : ItemSource) (items : List Item) : Prop :=
  ∃ requests output,
    Scan.run (Serving.steady cap).leader settings none source (.holding store [])
        (Output.start progress none) = (.ok (), .holding store requests, output) ∧
      output.delivered.toList = mergeSorted items (store.ofBuckets (bucketsOf items)) ∧
      ∀ request ∈ requests, request.bucket ∈ bucketsOf items

/-- **A scan of ascending items is the merge** of them with what the leader holds in their buckets,
whatever the cap on a page.

The chunks of the items are tiles of the key order, and a merge can be made tile by tile
(`flatMap_chunks_eq`); a scan delivers what the chunks find one by one (`run_steady`). -/
theorem isMerge_of_ascending {store : Store} (hstore : store.Ascending) {cap : Option Nat}
    (hcap : ∀ n, cap = some n → 1 ≤ n) (settings : ScanSettings) (progress : Progress)
    (hascending : AscendingByKey Item.key items)
    (hnamed : ∀ item ∈ items, '/' ∈ item.key.toList) :
    Scan.IsMerge store cap settings progress ⟨items, none⟩ items := by
  obtain ⟨requests, output, hrun, hdelivered, hrequests⟩ :=
    @run_steady _ hascending hnamed _ hstore _ hcap settings none nofun progress
  refine ⟨requests, output, hrun, hdelivered, fun request hrequest => ?_⟩
  obtain ⟨chunk, hchunk, hwithin⟩ := hrequests request hrequest
  exact bucket_mem_of_within hascending hnamed hchunk hwithin

/-- **Cutting and paging are transparent.** Whatever the sizes of the buffers and pages, a scan
delivers what one merge of the follower's items with the leader's items of their buckets finds. The
same holds for a follower's database: its items are the last writes of the keys with a slash.

The database of some writes is scanned as the list of the last ones with a slash, so that both parts
are `isMerge_of_ascending`. -/
theorem isMerge_of_items_and_puts {store : Store} (hstore : store.Ascending) {cap : Option Nat}
    (hcap : ∀ n, cap = some n → 1 ≤ n) (settings : ScanSettings) (progress : Progress) :
    (∀ items, AscendingByKey Item.key items → (∀ item ∈ items, '/' ∈ item.key.toList) →
        Scan.IsMerge store cap settings progress ⟨items, none⟩ items) ∧
      ∀ puts : List Item, ∃ items, AscendingByKey Item.key items ∧
        (∀ item, item ∈ items ↔
          '/' ∈ item.key.toList ∧ findKey? puts.reverse item.key = some item) ∧
        Scan.IsMerge store cap settings progress (FollowerDb.ofItems puts).source items := by
  refine ⟨fun items => isMerge_of_ascending hstore hcap settings progress, fun puts => ?_⟩
  have hitems : ∀ item, item ∈ (lastWrites puts).filter (fun item => item.key.toList.contains '/') ↔
      '/' ∈ item.key.toList ∧ findKey? puts.reverse item.key = some item := by
    intro item
    rw [List.mem_filter, mem_lastWrites_iff, List.contains_iff_mem, and_comm]
  have hascending := (ascendingByKey_lastWrites puts).filter
    fun item => item.key.toList.contains '/'
  refine ⟨_, hascending, hitems, ?_⟩
  rw [FollowerDb.source_ofItems]
  exact isMerge_of_ascending hstore hcap settings progress hascending
    fun item hitem => ((hitems item).1 hitem).1

/-- Two follower items against a leader that lists one item at a time: the bucket that only the
leader has is not asked for. -/
theorem isMerge_of_items_and_puts_capped :
    (⟨[⟨"a/1", "x"⟩, ⟨"a/2", "x"⟩, ⟨"b/1", "x"⟩]⟩ : Store).Ascending ∧
      (∀ n, some 1 = some n → 1 ≤ n) ∧
      Scan.IsMerge ⟨[⟨"a/1", "x"⟩, ⟨"a/2", "x"⟩, ⟨"b/1", "x"⟩]⟩ (some 1) ⟨0, 2⟩ .zero
        ⟨[⟨"a/0", "x"⟩, ⟨"a/2", "y"⟩], none⟩ [⟨"a/0", "x"⟩, ⟨"a/2", "y"⟩] :=
  have hstore : (⟨[⟨"a/1", "x"⟩, ⟨"a/2", "x"⟩, ⟨"b/1", "x"⟩]⟩ : Store).Ascending := by
    rw [Store.Ascending]
    decide
  have hcap : ∀ n, some 1 = some n → 1 ≤ n := fun _ h => (Option.some.inj h).le
  ⟨hstore, hcap, (isMerge_of_items_and_puts hstore hcap ⟨0, 2⟩ .zero).1
    [⟨"a/0", "x"⟩, ⟨"a/2", "y"⟩] (by decide) (by decide)⟩

/-- A scan with an index delivers the same differences as one without, and no page that it is given
has an item of a span that it has consumed. -/
def Scan.IsUnchangedBy (index : DigestIndex) (store : Store) (cap : Option Nat)
    (settings : ScanSettings) (progress : Progress) (items : List Item) : Prop :=
  ∃ requestsWithout without requests output,
    Scan.run (Serving.steady cap).leader settings none ⟨items, none⟩ (.holding store [])
        (Output.start progress none) = (.ok (), .holding store requestsWithout, without) ∧
      Scan.run (Serving.steady cap).leader settings (some index) ⟨items, none⟩
          (.holding store []) (Output.start progress none) =
        (.ok (), .holding store requests, output) ∧
      output.delivered = without.delivered ∧
      ∀ request ∈ requests, ∀ item ∈ store.list cap request,
        ∀ span ∈ (Chunker.start settings.bufferSize (some index)).consumed items,
          span.covers item = false

/-- **Digests are transparent.** An index that is sound for the follower and the leader does not
change what a scan delivers, and nothing of what it skips is listed.

Both scans deliver the same merge (`run_steady`). A request stays within the range of a chunk, and
the spans are apart from these. -/
theorem isUnchangedBy_of_soundFor {store : Store} (hstore : store.Ascending) {cap : Option Nat}
    (hcap : ∀ n, cap = some n → 1 ≤ n) (settings : ScanSettings) (progress : Progress)
    (hascending : AscendingByKey Item.key items)
    (hnamed : ∀ item ∈ items, '/' ∈ item.key.toList) {index : DigestIndex}
    (hsound : index.SoundFor items store) :
    Scan.IsUnchangedBy index store cap settings progress items := by
  obtain ⟨requestsWithout, without, hwithout, hdelivered, -⟩ :=
    @run_steady _ hascending hnamed _ hstore _ hcap settings none nofun progress
  obtain ⟨requests, output, hrun, hsame, hrequests⟩ :=
    @run_steady _ hascending hnamed _ hstore _ hcap settings (some index)
      (fun _ h => Option.some.inj h ▸ hsound) progress
  refine ⟨requestsWithout, without, requests, output, hwithout, hrun, ?_, ?_⟩
  · exact Array.toList_inj.1 (hsame.trans hdelivered.symm)
  · intro request hrequest item hitem span hspan
    obtain ⟨chunk, hchunk, hwithin⟩ := hrequests request hrequest
    exact covers_eq_false_of_within hascending hnamed hchunk hwithin hitem hspan

/-- A table of one row, whose span ends before the items that differ. -/
theorem isUnchangedBy_of_soundFor_row :
    (DigestTable.index [⟨"a", none, "1"⟩]).SoundFor [⟨"a/1", "x"⟩, ⟨"a/2", "x"⟩]
        ⟨[⟨"a/1", "x"⟩, ⟨"a/3", "x"⟩]⟩ ∧
      Scan.IsUnchangedBy (DigestTable.index [⟨"a", none, "1"⟩])
        ⟨[⟨"a/1", "x"⟩, ⟨"a/3", "x"⟩]⟩ none ⟨1, 1⟩ .zero [⟨"a/1", "x"⟩, ⟨"a/2", "x"⟩] :=
  have hsound : (DigestTable.index [⟨"a", none, "1"⟩]).SoundFor
      [⟨"a/1", "x"⟩, ⟨"a/2", "x"⟩] ⟨[⟨"a/1", "x"⟩, ⟨"a/3", "x"⟩]⟩ :=
    DigestTable.soundFor_index (by decide)
  have hstore : (⟨[⟨"a/1", "x"⟩, ⟨"a/3", "x"⟩]⟩ : Store).Ascending := by
    rw [Store.Ascending]
    decide
  have hcap : ∀ n, (none : Option Nat) = some n → 1 ≤ n := nofun
  ⟨hsound, isUnchangedBy_of_soundFor hstore hcap ⟨1, 1⟩ .zero (by decide) (by decide) hsound⟩

end Reconcile
