import Reconcile.Proofs.Transparency

/-!
# A scan while others write to the leader

Each request of a scan finds the store that the leader holds at that moment, so that the pages of
one scan may come from many stores. Since the pages of all chunks cut the follower's buckets into
pieces, every key of these buckets is shown by exactly one of them, and it is the moment of this
page that counts for the key: the scan is the merge of the follower's items with a list of the
leader's items in which each key has what it had at its moment.

## Main results

* `Scan.Mixes`: what a scan says of a leader that changes;
* `mixes_of_changing`: every scan without digests does so.
-/

namespace Reconcile

/-- **What a scan says of a leader that changes.** Each key of the follower's buckets has its
moment, that of a request that asks for it; greater keys have no earlier moments. The leader's items
that are compared are, of each such key, what the leader held at its moment. So each key is
delivered at most once, and a key that is not written while the scan runs is delivered exactly if
the follower and the leader disagree on it. -/
structure Scan.Mixes (first : Store) (later : List Store) (items : List Item)
    (requests : List ListRequest) (delivered : List Difference) (momentOf : String → Nat)
    (seen : List Item) : Prop where
  /-- The moment of a key is that of a request for it. -/
  asked : ∀ key, InBuckets (bucketsOf items) key →
    ∃ request, requests[momentOf key]? = some request ∧ request.covers ⟨key, ""⟩ = true
  /-- Greater keys have no earlier moments. -/
  monotone : ∀ key key', InBuckets (bucketsOf items) key → InBuckets (bucketsOf items) key' →
    key ≤ key' → momentOf key ≤ momentOf key'
  /-- What is seen has each key once. -/
  ascending : AscendingByKey Item.key seen
  /-- Each key has what it had at its moment. -/
  mem_seen_iff : ∀ item, item ∈ seen ↔
    item ∈ (storeAt first later (momentOf item.key)).ofBuckets (bucketsOf items)
  /-- What is delivered is what one merge with it finds. -/
  delivered_eq : delivered = mergeSorted items seen
  /-- No key is delivered twice. -/
  once : AscendingByKey Difference.key delivered
  /-- What becomes of a key that nobody writes. -/
  unwritten : ∀ key value, InBuckets (bucketsOf items) key →
    (∀ n < requests.length, (storeAt first later n).find? key = value) →
    ((∃ difference ∈ delivered, difference.key = key) ↔
      (findKey? items key).map Item.value ≠ value)

/-! ### Cutting without digests -/

section

variable {items : List Item} (hascending : AscendingByKey Item.key items)
  (hnamed : ∀ item ∈ items, '/' ∈ item.key.toList)

/-- Without digests every tile is a chunk. -/
theorem Chunker.tiles_eq_map_chunks (capacity : Nat) (items : List Item) :
    (start capacity none).tiles items = ((start capacity none).chunks items).map .compared := by
  have hcompared : ∀ tile ∈ (start capacity none).tiles items,
      tile.chunk?.map Tile.compared = some tile := by
    intro tile htile
    cases tile with
    | compared chunk => rfl
    | skipped span =>
        obtain ⟨index, _, hindex, -, -⟩ :=
          endOfSpan?_of_mem_consumed (mem_consumed_iff.2 htile)
        cases hindex
  rw [chunks, List.map_filterMap, List.filterMap_congr hcompared, List.filterMap_some]

include hascending hnamed

/-- The ranges of the chunks come one after the other. -/
theorem Chunker.pairwise_ranges (capacity : Nat) :
    (((start capacity none).chunks items).map Chunk.range).Pairwise fun r s =>
      ∀ a b : Item, r.covers a = true → s.covers b = true → a.key < b.key := by
  have htiles := pairwise_tiles capacity none hascending hnamed
  rw [tiles_eq_map_chunks, List.pairwise_map] at htiles
  exact List.pairwise_map.2 htiles

/-- The ranges of the chunks have the items of the follower's buckets. -/
theorem Chunker.any_ranges_covers (capacity : Nat) (item : Item) :
    (((start capacity none).chunks items).map Chunk.range).any (·.covers item) =
      item.bucket?.any (· ∈ bucketsOf items) := by
  rw [← any_covers_eq hascending hnamed capacity none, tiles_eq_map_chunks, List.any_map,
    List.any_map]
  rfl

/-- The chunks hold the follower's items one after the other. -/
theorem Chunker.flatMap_items (capacity : Nat) :
    ((start capacity none).chunks items).flatMap Chunk.items = items := by
  have hranges := pairwise_ranges hascending hnamed capacity
  calc ((start capacity none).chunks items).flatMap Chunk.items
      = (((start capacity none).chunks items).map Chunk.range).flatMap fun range =>
          items.filter range.covers := by
        rw [List.flatMap_map]
        exact List.flatMap_congr fun chunk hchunk =>
          items_eq capacity none hascending hnamed (mem_chunks_iff.1 hchunk)
    _ = items.filter fun item => item.bucket?.any (· ∈ bucketsOf items) := by
        rw [hascending.flatMap_filter (hranges.imp fun h a _ b _ => h a b)]
        exact List.filter_congr fun item _ => any_ranges_covers hascending hnamed capacity item
    _ = items := filter_bucketsOf hnamed

end

/-! ### The moment of a key -/

section

variable {buckets : List String} {ranges : List Range} {pages : List Page} {first : Store}
  {later : List Store} (hpages : Paged ranges pages)
  (hbuckets : ∀ item : Item, ranges.any (·.covers item) = item.bucket?.any (· ∈ buckets))

include hpages hbuckets

/-- The pages show what lies in the buckets. -/
theorem Paged.any_covers_iff (item : Item) :
    (pages.any fun page => page.shown.covers item) = true ↔ InBuckets buckets item.key := by
  rw [hpages.any_covers, hbuckets, inBuckets_iff]

/-- The request that a key has its moment from asks for the key. -/
theorem Paged.exists_request {key : String} (hkey : InBuckets buckets key) (limit : Nat) :
    ∃ request, (pages.map fun page => page.asked.request limit)[pageOf pages key]? =
        some request ∧ request.covers ⟨key, ""⟩ = true := by
  obtain ⟨page, hpage, hshown⟩ :=
    getElem?_pageOf ((hpages.any_covers_iff hbuckets ⟨key, ""⟩).2 hkey)
  refine ⟨page.asked.request limit, ?_, ?_⟩
  · rw [List.getElem?_map, hpage, Option.map_some]
  · exact hpages.covers_asked (List.mem_of_getElem? hpage) hshown

variable (hranges : ranges.Pairwise fun r s =>
  ∀ a b : Item, r.covers a = true → s.covers b = true → a.key < b.key)

include hranges

/-- Greater keys have no earlier moments. -/
theorem Paged.pageOf_le_pageOf {key key' : String} (hkey : InBuckets buckets key)
    (hkey' : InBuckets buckets key') (hle : key ≤ key') : pageOf pages key ≤ pageOf pages key' :=
  pageOf_mono (a := ⟨key, ""⟩) (b := ⟨key', ""⟩) (hpages.pairwise hranges)
    ((hpages.any_covers_iff hbuckets _).2 hkey) ((hpages.any_covers_iff hbuckets _).2 hkey') hle

/-- **What the pages show** is, of each key of the buckets, what was held at its moment. -/
theorem Paged.mem_itemsShown_iff_ofBuckets {item : Item} :
    item ∈ itemsShown first later 0 pages ↔
      item ∈ (storeAt first later (pageOf pages item.key)).ofBuckets buckets := by
  rw [mem_itemsShown_iff, Store.ofBuckets, List.mem_filter, ← inBuckets_iff,
    ← hpages.any_covers_iff hbuckets]
  constructor
  · rintro ⟨page, i, hpage, hshown, hstored⟩
    have hpage : pages[i]? = some page := List.mk_mem_zipIdx_iff_getElem?.1 hpage
    obtain rfl := eq_pageOf (hpages.pairwise hranges) hpage hshown
    exact ⟨hstored, List.any_eq_true.2 ⟨page, List.mem_of_getElem? hpage, hshown⟩⟩
  · rintro ⟨hstored, hany⟩
    obtain ⟨page, hpage, hshown⟩ := getElem?_pageOf hany
    exact ⟨page, _, List.mk_mem_zipIdx_iff_getElem?.2 hpage, hshown, hstored⟩

end

/-! ### What a scan says -/

/-- The store that a request finds is one of those that the leader holds. -/
theorem storeAt_mem (first : Store) (later : List Store) (n : Nat) :
    storeAt first later n ∈ first :: later := by
  rcases List.eq_nil_or_concat' (later.take n) with hnil | ⟨stores, store, hstores⟩
  · rw [storeAt, hnil]
    exact List.mem_cons_self
  · have hmem : store ∈ later.take n := hstores ▸ List.mem_append_right _ List.mem_cons_self
    rw [storeAt, hstores, List.getLastD_concat]
    exact List.mem_cons_of_mem _ (List.mem_of_mem_take hmem)

/-- **A scan while others write to the leader** ends well, and what it delivers mixes the stores
that its requests find, each key at its own moment.

The pages of a scan tile the buckets of the items, each page at a moment of its own. What they show
is an ascending list (`itemsShown`), and the scan delivers its merge with the items
(`Scan.finds_changing`). -/
theorem mixes_of_changing {items : List Item} (hascending : AscendingByKey Item.key items)
    (hnamed : ∀ item ∈ items, '/' ∈ item.key.toList) {first : Store} {later : List Store}
    (hstores : ∀ store ∈ first :: later, store.Ascending) {cap : Option Nat}
    (hcap : ∀ n, cap = some n → 1 ≤ n) (settings : ScanSettings) (progress : Progress) :
    ∃ requests output momentOf seen,
      Scan.run (Serving.steady cap).leader settings none ⟨items, none⟩ ⟨.stores first later, #[]⟩
          (Output.start progress none) = (.ok (), .changing first later requests, output) ∧
        Scan.Mixes first later items requests output.delivered.toList momentOf seen := by
  have hat : ∀ n, (storeAt first later n).Ascending := fun n => hstores _ (storeAt_mem _ _ _)
  have hranges := Chunker.pairwise_ranges hascending hnamed settings.bufferSize
  -- The ranges that are asked for cover the buckets of the items and nothing else, and are apart.
  have hbuckets := Chunker.any_ranges_covers hascending hnamed settings.bufferSize
  have hchunk : ∀ chunk ∈ (Chunker.start settings.bufferSize none).chunks items,
      chunk.items = items.filter chunk.range.covers := fun chunk hchunk =>
    Chunker.items_eq _ _ hascending hnamed (Chunker.mem_chunks_iff.1 hchunk)
  obtain ⟨pages, hpages, hfinds⟩ := Scan.finds_changing hat hcap settings hranges
    (fun chunk h => hchunk chunk h ▸ hascending.filter _)
    (fun chunk h item hitem => (List.mem_filter.1 (hchunk chunk h ▸ hitem)).2) []
  rw [Chunker.flatMap_items hascending hnamed, List.nil_append, List.length_nil] at hfinds
  obtain ⟨output, hrun, hreceived⟩ := Scan.scanFrom_of_finds hnamed hfinds
    (rfl : (Output.start progress none).room = none)
  have hseen : AscendingByKey Item.key (itemsShown first later 0 pages) :=
    hpages.ascending_itemsShown hranges hat 0
  have hdelivered : output.delivered.toList =
      mergeSorted items (itemsShown first later 0 pages) := hreceived.delivered_eq
  refine ⟨_, output, pageOf pages, itemsShown first later 0 pages, hrun, ?_⟩
  refine ⟨fun key hkey => hpages.exists_request hbuckets hkey _,
    fun key key' => hpages.pageOf_le_pageOf hbuckets hranges, hseen,
    fun item => hpages.mem_itemsShown_iff_ofBuckets hbuckets hranges, hdelivered,
    hdelivered ▸ ascendingByKey_mergeSorted hascending hseen, fun key value hkey hvalue => ?_⟩
  obtain ⟨request, hrequest, -⟩ := hpages.exists_request hbuckets hkey (max settings.pageSize 1)
  have hmoment := (List.getElem?_eq_some_iff.1 hrequest).1
  -- a key that holds one value at each moment is seen with it, whenever its page is asked for
  have hshown : (findKey? (itemsShown first later 0 pages) key).map Item.value = value := by
    rw [← hvalue _ hmoment]
    refine findKey?_eq_find? hseen (hat _) hkey ?_
    rintro item rfl
    exact hpages.mem_itemsShown_iff_ofBuckets hbuckets hranges
  rw [hdelivered, exists_mem_mergeSorted_iff hascending hseen, hshown]

/-- A key is written after its page has come, and another one erased before its page comes. -/
theorem mixes_of_changing_written_and_erased :
    (∀ store ∈ [⟨[⟨"a/2", "x"⟩, ⟨"a/3", "x"⟩]⟩, ⟨[⟨"a/1", "x"⟩, ⟨"a/2", "x"⟩]⟩],
        Store.Ascending store) ∧
      ∃ requests output momentOf seen,
        Scan.run (Serving.steady (some 1)).leader ⟨1, 5⟩ none
            ⟨[⟨"a/2", "x"⟩, ⟨"a/3", "x"⟩], none⟩
            ⟨.stores ⟨[⟨"a/2", "x"⟩, ⟨"a/3", "x"⟩]⟩ [⟨[⟨"a/1", "x"⟩, ⟨"a/2", "x"⟩]⟩], #[]⟩
            (Output.start .zero none) =
          (.ok (), .changing ⟨[⟨"a/2", "x"⟩, ⟨"a/3", "x"⟩]⟩ [⟨[⟨"a/1", "x"⟩, ⟨"a/2", "x"⟩]⟩]
            requests, output) ∧
          Scan.Mixes ⟨[⟨"a/2", "x"⟩, ⟨"a/3", "x"⟩]⟩ [⟨[⟨"a/1", "x"⟩, ⟨"a/2", "x"⟩]⟩]
            [⟨"a/2", "x"⟩, ⟨"a/3", "x"⟩] requests output.delivered.toList momentOf seen :=
  have hstores : ∀ store ∈ [⟨[⟨"a/2", "x"⟩, ⟨"a/3", "x"⟩]⟩, ⟨[⟨"a/1", "x"⟩, ⟨"a/2", "x"⟩]⟩],
      Store.Ascending store := by
    simp only [Store.Ascending]
    decide
  have hcap : ∀ n, some 1 = some n → 1 ≤ n := fun _ h => (Option.some.inj h).le
  ⟨hstores, mixes_of_changing (by decide) (by decide) hstores hcap ⟨1, 5⟩ .zero⟩

end Reconcile
