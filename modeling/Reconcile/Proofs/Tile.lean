import Mathlib.Data.List.Pairwise
import Reconcile.Proofs.Digest

/-!
# The chunks tile the follower's buckets

Cutting the follower's items makes two kinds of ranges: those of the chunks, which are compared, and
the spans that digests let it skip. `Chunker.tiles` lists both in the order in which they are made.

## Main results

* `Chunker.Ready`: the invariant of the cutting, which every item keeps (`Ready.room`,
  `Ready.take`);
* `Chunker.Ready.tiling`: the ranges and the spans tile the buckets from the marker on, so that no
  name of a bucket is left out and none is shown twice;
* `Chunker.items_eq`: the items of a chunk are all items of the follower in its range;
* `Chunker.exists_covers_iff`: what lies in the tiles is what lies in the buckets of the items;
* `Chunker.exists_chunk_or_span`: each item is in a chunk or lies in a span that is skipped;
* `Chunker.endOfSpan?_of_mem_consumed`: the spans that are skipped are answers of the index.
-/

namespace Reconcile

/-! ### Tiles -/

/-- What becomes of a range of the follower's keys. -/
inductive Tile where
  /-- A chunk that is compared. -/
  | compared (chunk : Chunk)
  /-- A span that is skipped. -/
  | skipped (span : Range)

namespace Tile

/-- The range of a tile. -/
def range : Tile → Range
  | compared chunk => chunk.range
  | skipped span => span

/-- The chunk, if the tile is compared. -/
def chunk? : Tile → Option Chunk
  | compared chunk => some chunk
  | skipped _ => none

/-- The span, if the tile is skipped. -/
def span? : Tile → Option Range
  | compared _ => none
  | skipped span => some span

end Tile

namespace Chunker

/-- The chunk that ends before an item of a bucket, if one does. -/
def ended (chunker : Chunker) (bucket : String) : Option Chunk :=
  (chunker.makeRoom bucket).1

/-- The state that an item of a bucket finds. -/
def room (chunker : Chunker) (bucket : String) : Chunker :=
  { (chunker.makeRoom bucket).2 with bucket := some bucket }

/-- The spans that are consumed before an object is skipped or held. -/
def spans (chunker : Chunker) (name : ObjectName) : List Range :=
  if chunker.held.isEmpty then
    match chunker.digests with
    | none => []
    | some index =>
      if chunker.openThrough.any (name.key ≤ ·) then []
      else index.climbed name.bucket name.key chunker.marker
  else []

/-- The chunks that the items are cut into and the spans that are skipped, in the order in which
the cutting comes to them. -/
def tiles (chunker : Chunker) : List Item → List Tile
  | [] => chunker.finish.1.toList.map .compared
  | item :: items =>
    match item.name? with
    | none => []
    | some name =>
      (chunker.ended name.bucket).toList.map .compared ++
        ((chunker.room name.bucket).spans name).map .skipped ++
        tiles (((chunker.room name.bucket).take name item).takeSkipped).2 items

/-- The chunks that the items are cut into. -/
def chunks (chunker : Chunker) (items : List Item) : List Chunk :=
  (chunker.tiles items).filterMap Tile.chunk?

/-- The spans that are consumed while the items are cut. -/
def consumed (chunker : Chunker) (items : List Item) : List Range :=
  (chunker.tiles items).filterMap Tile.span?

/-- The chunks are the tiles that are compared. -/
theorem mem_chunks_iff {chunker : Chunker} {items : List Item} {chunk : Chunk} :
    chunk ∈ chunker.chunks items ↔ .compared chunk ∈ chunker.tiles items := by
  rw [chunks, List.mem_filterMap]
  constructor
  · rintro ⟨_ | _, htile, ⟨⟩⟩
    exact htile
  · exact fun htile => ⟨_, htile, rfl⟩

/-- The consumed spans are the tiles that are skipped. -/
theorem mem_consumed_iff {chunker : Chunker} {items : List Item} {span : Range} :
    span ∈ chunker.consumed items ↔ .skipped span ∈ chunker.tiles items := by
  rw [consumed, List.mem_filterMap]
  constructor
  · rintro ⟨_ | _, htile, ⟨⟩⟩
    exact htile
  · exact fun htile => ⟨_, htile, rfl⟩

/-! ### One step of the cutting -/

variable {chunker : Chunker} {bucket : String} {item : Item} {items : List Item}
  {name : ObjectName}

/-- An item of another bucket ends the chunk, with a range to the end of its bucket. -/
theorem makeRoom_of_ne {current : String} (h : chunker.bucket = some current)
    (hne : current ≠ bucket) :
    chunker.ended bucket = some ⟨⟨current, chunker.marker, none⟩, chunker.held.toList⟩ ∧
      chunker.room bucket = { chunker with
        held := #[], bucket := some bucket, marker := none, openThrough := none } := by
  have hmake : chunker.makeRoom bucket =
      (some ⟨⟨current, chunker.marker, none⟩, chunker.held.toList⟩,
        { chunker with held := #[], marker := none, openThrough := none }) := by
    rw [makeRoom, if_pos (by simp [h, hne]), flush, h]
  rw [ended, room, hmake]
  exact ⟨rfl, rfl⟩

/-- An item that finds the chunk full ends it, with a range to the last item held. -/
theorem makeRoom_of_full (h : chunker.bucket = some bucket)
    (hfull : max chunker.capacity 1 ≤ chunker.held.size) :
    chunker.ended bucket = some ⟨⟨bucket, chunker.marker,
        chunker.held.back?.bind Item.objectKey?⟩, chunker.held.toList⟩ ∧
      chunker.room bucket = { chunker with
        held := #[], marker := chunker.held.back?.bind Item.objectKey? } := by
  have hmake : chunker.makeRoom bucket =
      (some ⟨⟨bucket, chunker.marker, chunker.held.back?.bind Item.objectKey?⟩,
          chunker.held.toList⟩,
        { chunker with held := #[], marker := chunker.held.back?.bind Item.objectKey? }) := by
    rw [makeRoom, if_neg (by simp [h]), if_pos hfull]
    simp only [flush, h]
  rw [ended, room, hmake]
  exact ⟨rfl, by rw [← h]⟩

/-- An item that can join the chunk changes nothing yet. -/
theorem makeRoom_of_lt (h : chunker.bucket = some bucket)
    (hroom : ¬max chunker.capacity 1 ≤ chunker.held.size) :
    chunker.ended bucket = none ∧ chunker.room bucket = chunker := by
  have hmake : chunker.makeRoom bucket = (none, chunker) := by
    rw [makeRoom, if_neg (by simp [h]), if_neg hroom]
  rw [ended, room, hmake]
  exact ⟨rfl, by rw [← h]⟩

/-- **How an item is taken.** It is held without a look at the digests; or it lies in the span that
is open; or spans are followed and reach it, or they do not and it is held. -/
theorem take_cases (chunker : Chunker) (name : ObjectName) (item : Item) :
    ((chunker.held ≠ #[] ∨ chunker.digests = none) ∧ chunker.spans name = [] ∧
        chunker.take name item = { chunker with held := chunker.held.push item }) ∨
      (∃ last, chunker.held = #[] ∧ chunker.openThrough = some last ∧ name.key ≤ last ∧
        chunker.spans name = [] ∧
        chunker.take name item = { chunker with skipped := chunker.skipped + 1 }) ∨
      ∃ index, chunker.held = #[] ∧ chunker.digests = some index ∧
        (∀ last, chunker.openThrough = some last → last < name.key) ∧
        chunker.spans name = index.climbed name.bucket name.key chunker.marker ∧
        (((index.climb name.bucket name.key chunker.marker).1 = true ∧
            chunker.take name item = { chunker with
              marker := (index.climb name.bucket name.key chunker.marker).2
              openThrough := (index.climb name.bucket name.key chunker.marker).2
              skipped := chunker.skipped + 1 }) ∨
          ((index.climb name.bucket name.key chunker.marker).1 = false ∧
            chunker.take name item = { chunker with
              held := #[item]
              marker := (index.climb name.bucket name.key chunker.marker).2
              openThrough := none })) := by
  -- The digests are consulted only while nothing is held, which is where a span can start.
  by_cases hheld : chunker.held = #[]
  · have hempty : chunker.held.isEmpty = true := Array.isEmpty_iff.2 hheld
    cases hdigests : chunker.digests with
    | none =>
        refine .inl ⟨.inr rfl, ?_, ?_⟩
        · simp only [spans, if_pos hempty, hdigests]
        · simp only [take, if_pos hempty, skip?_of_digests_eq_none hdigests, hdigests]
    | some index =>
        by_cases hopen : chunker.openThrough.any (name.key ≤ ·) = true
        · obtain ⟨last, hlast, hle⟩ := (Option.any_eq_true _ _).1 hopen
          refine .inr (.inl ⟨last, hheld, hlast, of_decide_eq_true hle, ?_, ?_⟩)
          · simp only [spans, if_pos hempty, hdigests, if_pos hopen]
          · simp only [take, if_pos hempty, skip?_of_open hdigests hopen, hdigests]
        · have hpast := Bool.eq_false_iff.2 hopen
          refine .inr (.inr ⟨index, hheld, rfl, any_openThrough_eq_false_iff.1 hpast, ?_, ?_⟩)
          · simp only [spans, if_pos hempty, hdigests, if_neg hopen]
          · rw [take, if_pos hempty, skip?_of_not_open hdigests hpast]
            rcases index.climb name.bucket name.key chunker.marker with ⟨_ | _, marker⟩
            · exact .inr ⟨rfl, by rw [hheld, hdigests]; rfl⟩
            · exact .inl ⟨rfl, by rw [hdigests]; rfl⟩
  · have hfilled : ¬chunker.held.isEmpty = true := fun h => hheld (Array.isEmpty_iff.1 h)
    refine .inl ⟨.inl hheld, ?_, ?_⟩
    · rw [spans, if_neg hfilled]
    · rw [take, if_neg hfilled]

/-! ### The invariant -/

/-- **The invariant of the cutting**, between two items: the chunk that is being filled has items
of one bucket after the marker, and what is left to cut follows them in key order. A span is open
only while no item is held, and it is the marker that it ends at. -/
structure Ready (chunker : Chunker) (bucket : String) (items : List Item) : Prop where
  /-- The bucket is the one that is being cut. -/
  bucket_eq : chunker.bucket = some bucket
  /-- What is held and what is to come ascends. -/
  ascending : AscendingByKey Item.key (chunker.held.toList ++ items)
  /-- What is to come is of the bucket or of one behind it. -/
  named : ∀ item ∈ items, ∃ name, item.name? = some name ∧
    (name.bucket = bucket ∨ BucketBefore bucket name.bucket)
  /-- What is held is of the bucket and ahead of the marker. -/
  held : ∀ item ∈ chunker.held.toList, ∃ name, item.name? = some name ∧
    name.bucket = bucket ∧ isAhead chunker.marker name.key = true
  /-- If no span is open, so is what is to come of the bucket. -/
  ahead : chunker.openThrough = none → ∀ item ∈ items, ∀ name, item.name? = some name →
    name.bucket = bucket → isAhead chunker.marker name.key = true
  /-- An open span ends at the marker, with nothing held. -/
  opened : ∀ last, chunker.openThrough = some last →
    chunker.held = #[] ∧ chunker.marker = some last ∧ chunker.digests ≠ none

/-- What an item does to the chunk that is being filled: it joins it; or the chunk is full and ends
with the last item held; or it ends with its bucket. -/
theorem Ready.room_cases (hready : Ready chunker bucket (item :: items))
    (hname : item.name? = some name) :
    (name.bucket = bucket ∧ chunker.ended name.bucket = none ∧
        chunker.room name.bucket = chunker) ∨
      (∃ before last lastName, name.bucket = bucket ∧ chunker.held.toList = before ++ [last] ∧
        last.name? = some lastName ∧
        chunker.ended name.bucket = some ⟨⟨bucket, chunker.marker, some lastName.key⟩,
          chunker.held.toList⟩ ∧
        chunker.room name.bucket =
          { chunker with held := #[], marker := some lastName.key }) ∨
      (BucketBefore bucket name.bucket ∧
        chunker.ended name.bucket = some ⟨⟨bucket, chunker.marker, none⟩, chunker.held.toList⟩ ∧
        chunker.room name.bucket = { chunker with
          held := #[], bucket := some name.bucket, marker := none, openThrough := none }) := by
  obtain ⟨_, hname', hbucket⟩ := hready.named item List.mem_cons_self
  obtain rfl := Option.some.inj (hname.symm.trans hname')
  rcases hbucket with hbucket | hbefore
  · have hcurrent : chunker.bucket = some name.bucket := hbucket ▸ hready.bucket_eq
    by_cases hfull : max chunker.capacity 1 ≤ chunker.held.size
    · obtain ⟨hended, hroom⟩ := makeRoom_of_full hcurrent hfull
      -- a full chunk holds something, even where no capacity is allowed, and ends at its last item
      rcases List.eq_nil_or_concat' chunker.held.toList with hnil | ⟨before, last, hlast⟩
      · have hsize : chunker.held.toList.length = 0 := hnil ▸ rfl
        rw [Array.length_toList] at hsize
        omega
      · obtain ⟨lastName, hlastName, -, -⟩ := hready.held last (by simp [hlast])
        have hend : chunker.held.back?.bind Item.objectKey? = some lastName.key := by
          rw [← Array.getLast?_toList, hlast, List.getLast?_concat, Option.bind_some,
            Item.objectKey?_eq, hlastName]
          rfl
        rw [hend, hbucket] at hended
        rw [hend] at hroom
        exact .inr (.inl ⟨before, last, lastName, hbucket, hlast, hlastName, hbucket ▸ hended,
          hroom⟩)
    · exact .inl ⟨hbucket, makeRoom_of_lt hcurrent hfull⟩
  · exact .inr (.inr ⟨hbefore, makeRoom_of_ne hready.bucket_eq hbefore.ne⟩)

/-- What is left keeps the invariant when room is made for its first item. -/
theorem Ready.room (hready : Ready chunker bucket (item :: items))
    (hname : item.name? = some name) :
    Ready (chunker.room name.bucket) name.bucket (item :: items) := by
  have hitems : AscendingByKey Item.key (item :: items) :=
    (List.pairwise_append.1 hready.ascending).2.1
  have hnamed : ∀ other ∈ item :: items, ∃ name', other.name? = some name' ∧
      (name'.bucket = name.bucket ∨ BucketBefore name.bucket name'.bucket) := by
    intro other hother
    obtain ⟨name', hname', -⟩ := hready.named other hother
    refine ⟨name', hname', ?_⟩
    rcases List.mem_cons.1 hother with rfl | hother
    · obtain rfl := Option.some.inj (hname.symm.trans hname')
      exact .inl rfl
    · exact (Item.bucket_of_key_lt hname hname' (List.rel_of_pairwise_cons hitems hother)).imp_left
        And.left
  rcases hready.room_cases hname with ⟨hbucket, -, hroom⟩ |
    ⟨before, last, lastName, hbucket, hlast, hlastName, -, hroom⟩ | ⟨-, -, hroom⟩
  · rw [hroom, hbucket]
    exact hready
  · have hmem : last ∈ chunker.held.toList := by simp [hlast]
    rw [hroom]
    refine ⟨hbucket ▸ hready.bucket_eq, hitems, hnamed, by simp, ?_, ?_⟩
    · intro _ other hother name' hname' hsame
      obtain ⟨_, hlastName', hlastBucket, -⟩ := hready.held last hmem
      obtain rfl := Option.some.inj (hlastName.symm.trans hlastName')
      -- the marker is the key of an item that comes before all those that are left
      have hlt := (List.pairwise_append.1 hready.ascending).2.2 last hmem other hother
      rcases Item.bucket_of_key_lt hlastName hname' hlt with ⟨-, hlt⟩ | hbefore
      · exact decide_eq_true hlt
      · exact absurd (hlastBucket.trans (hbucket.symm.trans hsame.symm)) hbefore.ne
    · intro last' hopen
      -- no span is open beside a chunk with items
      have hnil := (hready.opened last' hopen).1
      rw [hnil] at hmem
      cases hmem
  · rw [hroom]
    exact ⟨rfl, hitems, hnamed, by simp, fun _ _ _ _ _ _ => rfl, fun _ hopen => nomatch hopen⟩

/-- The next item lies after the marker, unless it lies in the span that is open. -/
theorem Ready.isAhead_marker (hready : Ready chunker name.bucket (item :: items))
    (hname : item.name? = some name)
    (hopen : ∀ last, chunker.openThrough = some last → last < name.key) :
    isAhead chunker.marker name.key = true := by
  cases hthrough : chunker.openThrough with
  | none => exact hready.ahead hthrough item List.mem_cons_self name hname rfl
  | some last =>
      rw [(hready.opened last hthrough).2.1]
      exact decide_eq_true (hopen last hthrough)

/-- What is left keeps the invariant when its first item has been taken. -/
theorem Ready.take (hready : Ready chunker name.bucket (item :: items))
    (hname : item.name? = some name) :
    Ready ((chunker.take name item).takeSkipped).2 name.bucket items := by
  have hitems : AscendingByKey Item.key (item :: items) :=
    (List.pairwise_append.1 hready.ascending).2.1
  have hnamed : ∀ other ∈ items, ∃ name', other.name? = some name' ∧
      (name'.bucket = name.bucket ∨ BucketBefore name.bucket name'.bucket) :=
    fun other hother => hready.named other (List.mem_cons_of_mem _ hother)
  -- The item is taken into the chunk, or skipped in the span that is open, or it has sent the
  -- chunker up the index, which has skipped it or stopped before it.
  rcases chunker.take_cases name item with ⟨hplain, -, htake⟩ | ⟨last, hnil, hopen, -, -, htake⟩ |
    ⟨index, hnil, hdigests, hlt, -, ⟨hreached, htake⟩ | ⟨hreached, htake⟩⟩
  · -- an open span comes with an index and with nothing held, so the chunk would not have taken the
    -- item
    have hclosed : chunker.openThrough = none := by
      by_contra hopen
      obtain ⟨last, hlast⟩ := Option.ne_none_iff_exists'.1 hopen
      obtain ⟨hheld, -, hdigests⟩ := hready.opened last hlast
      exact hplain.elim (· hheld) hdigests
    rw [htake]
    refine ⟨hready.bucket_eq, ?_, hnamed, ?_, ?_, ?_⟩
    · have hascending := hready.ascending
      rw [List.append_cons] at hascending
      simpa [takeSkipped] using hascending
    · intro other hother
      rw [takeSkipped, Array.toList_push, List.mem_append, List.mem_singleton] at hother
      rcases hother with hother | rfl
      · exact hready.held other hother
      · exact ⟨name, hname, rfl, hready.ahead hclosed _ List.mem_cons_self name hname rfl⟩
    · exact fun _ other hother => hready.ahead hclosed other (List.mem_cons_of_mem _ hother)
    · exact fun last hlast => absurd (hclosed.symm.trans hlast) nofun
  · rw [htake]
    refine ⟨hready.bucket_eq, ?_, hnamed, hready.held, ?_, hready.opened⟩
    · exact hready.ascending.sublist ((List.sublist_cons_self _ _).append_left _)
    · exact fun hclosed => absurd (hclosed.symm.trans hopen) nofun
  · have hahead := hready.isAhead_marker hname hlt
    obtain ⟨_, last, -, hend, -, -⟩ := DigestIndex.exists_span_of_climb hahead hreached
    rw [htake, hend]
    refine ⟨hready.bucket_eq, ?_, hnamed, ?_, nofun, ?_⟩
    · exact hready.ascending.sublist ((List.sublist_cons_self _ _).append_left _)
    · intro other hother
      rw [takeSkipped, hnil] at hother
      cases hother
    · exact fun _ hopen => ⟨hnil, hopen, fun hnone => nomatch hdigests.symm.trans hnone⟩
  · have hahead := hready.isAhead_marker hname hlt
    have hclimb := DigestIndex.isAhead_climb hahead hreached
    rw [htake]
    refine ⟨hready.bucket_eq, hitems, hnamed, ?_, ?_, fun _ hopen => nomatch hopen⟩
    · intro other hother
      obtain rfl := List.mem_singleton.1 hother
      exact ⟨name, hname, rfl, hclimb⟩
    · intro _ other hother name' hname' hsame
      -- a later item of the bucket is ahead of the taken one, and that of the marker
      have hlt := List.rel_of_pairwise_cons hitems hother
      rcases Item.bucket_of_key_lt hname hname' hlt with ⟨-, hlt⟩ | hbefore
      · exact DigestTable.isAhead_trans hclimb (decide_eq_true hlt)
      · exact absurd hsame.symm hbefore.ne

/-! ### The ranges tile -/

/-- The range of the chunk that an item ends leads to where room has been made for the item. -/
theorem Ready.tiling_room (hready : Ready chunker bucket (item :: items))
    (hname : item.name? = some name) {ranges : List Range}
    (h : Tiling name.bucket (chunker.room name.bucket).marker ranges) :
    Tiling bucket chunker.marker
      ((chunker.ended name.bucket).toList.map Chunk.range ++ ranges) := by
  rcases hready.room_cases hname with ⟨hbucket, hended, hroom⟩ |
    ⟨before, last, lastName, hbucket, hlast, hlastName, hended, hroom⟩ | ⟨hbefore, hended, hroom⟩
  · rw [hroom] at h
    rw [hended, ← hbucket]
    exact h
  · obtain ⟨_, hlastName', -, hahead⟩ := hready.held last (by simp [hlast])
    obtain rfl := Option.some.inj (hlastName.symm.trans hlastName')
    rw [hroom, hbucket] at h
    rw [hended]
    exact .next hahead h
  · rw [hroom] at h
    rw [hended]
    exact .bucket hbefore h

/-- The spans that are consumed before an item lead to where the next range starts. -/
theorem tiling_take {ranges : List Range}
    (h : Tiling name.bucket (chunker.take name item).marker ranges) :
    Tiling name.bucket chunker.marker (chunker.spans name ++ ranges) := by
  rcases chunker.take_cases name item with ⟨-, hspans, htake⟩ | ⟨last, -, -, -, hspans, htake⟩ |
    ⟨index, -, -, -, hspans, ⟨-, htake⟩ | ⟨-, htake⟩⟩
  all_goals rw [htake] at h; rw [hspans]
  · exact h
  · exact h
  · exact DigestIndex.tiling_climbed h
  · exact DigestIndex.tiling_climbed h

/-- The state after an item. -/
def following (chunker : Chunker) (name : ObjectName) (item : Item) : Chunker :=
  (((chunker.room name.bucket).take name item).takeSkipped).2

/-- An item whose key has a bucket is taken. -/
theorem advance_eq (hname : item.name? = some name) :
    chunker.advance item =
      (.ok (chunker.ended name.bucket), (chunker.room name.bucket).take name item) := by
  have hkey : ObjectName.ofKey item.key = .ok name :=
    ObjectName.ofKey_eq_ok_iff.2 (Item.name?_eq_some_iff.1 hname)
  rw [advance, hkey]
  rfl

/-- The tiles of an item and those after it: the chunk that ends before it, the spans that are
skipped to reach it, and what the rest is cut into. -/
theorem tiles_cons (hname : item.name? = some name) :
    chunker.tiles (item :: items) =
      (chunker.ended name.bucket).toList.map .compared ++
        ((chunker.room name.bucket).spans name).map .skipped ++
        (chunker.following name item).tiles items := by
  rw [tiles, hname, following]

/-- The chunks of some items are the chunk that the first one ends and those of the rest. -/
theorem chunks_cons (hname : item.name? = some name) :
    chunker.chunks (item :: items) =
      (chunker.ended name.bucket).toList ++ (chunker.following name item).chunks items := by
  have hcompared : ∀ chunks : List Chunk,
      (chunks.map Tile.compared).filterMap Tile.chunk? = chunks := by
    intro chunks
    rw [List.filterMap_map]
    exact List.filterMap_some
  have hskipped : ∀ spans : List Range, (spans.map Tile.skipped).filterMap Tile.chunk? = [] := by
    intro spans
    rw [List.filterMap_map, List.filterMap_eq_nil_iff]
    exact fun _ _ => rfl
  rw [chunks, tiles_cons hname, List.filterMap_append, List.filterMap_append, hcompared, hskipped,
    List.append_nil]
  rfl

/-- The invariant goes from one item to the next. -/
theorem Ready.following (hready : Ready chunker bucket (item :: items))
    (hname : item.name? = some name) : Ready (chunker.following name item) name.bucket items :=
  (hready.room hname).take hname

/-- **The chunks and the spans tile the buckets of the items**, from where the first chunk
starts. -/
theorem Ready.tiling (hready : Ready chunker bucket items) :
    Tiling bucket chunker.marker ((chunker.tiles items).map Tile.range) := by
  induction items generalizing chunker bucket with
  | nil =>
      rw [tiles, finish, flush, hready.bucket_eq]
      exact .last bucket chunker.marker
  | cons item items ih =>
      obtain ⟨name, hname, -⟩ := hready.named item List.mem_cons_self
      rw [tiles_cons hname, List.append_assoc, List.map_append, List.map_append, List.map_map,
        List.map_map]
      refine hready.tiling_room hname ?_
      rw [show Tile.range ∘ Tile.skipped = id from rfl, List.map_id]
      exact tiling_take (ih (hready.following hname))

/-- A chunk that ends before an item is of the bucket that was being cut. -/
theorem Ready.bucket_ended (hready : Ready chunker bucket (item :: items))
    (hname : item.name? = some name) {chunk : Chunk}
    (hended : chunker.ended name.bucket = some chunk) : chunk.range.bucket = bucket := by
  rcases hready.room_cases hname with ⟨-, hended', -⟩ |
    ⟨before, last, lastName, -, -, -, hended', -⟩ | ⟨-, hended', -⟩
  · exact nomatch hended'.symm.trans hended
  · obtain rfl := Option.some.inj (hended'.symm.trans hended)
    rfl
  · obtain rfl := Option.some.inj (hended'.symm.trans hended)
    rfl

/-- A span that is consumed before an item is an answer of the index about the bucket. -/
theorem endOfSpan?_of_mem_spans {span : Range} (h : span ∈ chunker.spans name) :
    span.bucket = name.bucket ∧ ∃ index last, chunker.digests = some index ∧
      span.last = some last ∧ index.endOfSpan? span.bucket span.marker = some last := by
  rcases chunker.take_cases name default with ⟨-, hspans, -⟩ | ⟨last, -, -, -, hspans, -⟩ |
    ⟨index, -, hdigests, -, hspans, -⟩
  all_goals rw [hspans] at h
  · cases h
  · cases h
  · obtain ⟨hbucket, hanswer, hlast⟩ := DigestIndex.endOfSpan?_of_mem_climbed h
    obtain ⟨last, hlast⟩ := Option.ne_none_iff_exists'.1 hlast
    exact ⟨hbucket, index, last, hdigests, hlast, hanswer.trans hlast⟩

/-- The buckets of the tiles are those of the items. -/
theorem Ready.mem_buckets_iff (hready : Ready chunker bucket items) {b : String} :
    (∃ tile ∈ chunker.tiles items, tile.range.bucket = b) ↔
      b = bucket ∨ ∃ item ∈ items, item.bucket? = some b := by
  constructor
  · induction items generalizing chunker bucket with
    | nil =>
        rintro ⟨tile, htile, rfl⟩
        rw [tiles, finish, flush, hready.bucket_eq] at htile
        obtain rfl := List.mem_singleton.1 htile
        exact .inl rfl
    | cons item items ih =>
        rintro ⟨tile, htile, rfl⟩
        obtain ⟨name, hname, -⟩ := hready.named item List.mem_cons_self
        have hitem : item.bucket? = some name.bucket := by rw [Item.bucket?, hname]; rfl
        rw [tiles_cons hname, List.mem_append, List.mem_append] at htile
        -- the chunk that ends is of the old bucket, the spans that are skipped of that of the item
        rcases htile with (hended | hspan) | hrest
        · obtain ⟨chunk, hchunk, rfl⟩ := List.mem_map.1 hended
          exact .inl (hready.bucket_ended hname (Option.mem_toList.1 hchunk))
        · obtain ⟨span, hmem, rfl⟩ := List.mem_map.1 hspan
          refine .inr ⟨item, List.mem_cons_self, ?_⟩
          rw [hitem, Tile.range, (endOfSpan?_of_mem_spans hmem).1]
        · rcases ih (hready.following hname) ⟨tile, hrest, rfl⟩ with
            hbucket | ⟨other, hother, hbucket⟩
          · exact .inr ⟨item, List.mem_cons_self, hbucket ▸ hitem⟩
          · exact .inr ⟨other, List.mem_cons_of_mem _ hother, hbucket⟩
  · rintro (rfl | ⟨item, hitem, hbucket⟩)
    · obtain ⟨range, hrange, hbucket⟩ := List.mem_map.1 hready.tiling.bucket_mem
      obtain ⟨tile, htile, rfl⟩ := List.mem_map.1 hrange
      exact ⟨tile, htile, hbucket⟩
    · induction items generalizing chunker bucket with
      | nil => cases hitem
      | cons first items ih =>
          obtain ⟨name, hname, -⟩ := hready.named first List.mem_cons_self
          have hrest := hready.following hname
          rw [tiles_cons hname]
          rcases List.mem_cons.1 hitem with rfl | hitem
          · rw [Item.bucket?, hname, Option.map_some, Option.some.injEq] at hbucket
            obtain ⟨range, hrange, hsame⟩ := List.mem_map.1 hrest.tiling.bucket_mem
            obtain ⟨tile, htile, rfl⟩ := List.mem_map.1 hrange
            exact ⟨tile, List.mem_append_right _ htile, hsame.trans hbucket⟩
          · obtain ⟨tile, htile, hsame⟩ := ih hrest hitem
            exact ⟨tile, List.mem_append_right _ htile, hsame⟩

/-- Changing to a bucket leaves the index alone. -/
theorem digests_room (chunker : Chunker) (bucket : String) :
    (chunker.room bucket).digests = chunker.digests := by
  have hflush : ∀ last, (chunker.flush last).2.digests = chunker.digests := by
    intro last
    rw [flush]
    split <;> rfl
  rw [room, makeRoom]
  split
  · exact hflush none
  · split
    · exact hflush _
    · rfl

/-- Taking an item leaves the index alone. -/
theorem digests_take (chunker : Chunker) (name : ObjectName) (item : Item) :
    (chunker.take name item).digests = chunker.digests := by
  rcases chunker.take_cases name item with ⟨-, -, htake⟩ | ⟨_, -, -, -, -, htake⟩ |
    ⟨_, -, -, -, -, ⟨-, htake⟩ | ⟨-, htake⟩⟩
  all_goals rw [htake]

/-- The spans that are consumed are answers of the index. -/
theorem endOfSpan?_of_mem_consumed {span : Range} (h : span ∈ chunker.consumed items) :
    ∃ index last, chunker.digests = some index ∧ span.last = some last ∧
      index.endOfSpan? span.bucket span.marker = some last := by
  rw [consumed, List.mem_filterMap] at h
  obtain ⟨tile, htile, hspan⟩ := h
  induction items generalizing chunker with
  | nil =>
      obtain ⟨chunk, -, rfl⟩ := List.mem_map.1 htile
      cases hspan
  | cons item items ih =>
      cases hname : item.name? with
      | none =>
          rw [tiles, hname] at htile
          cases htile
      | some name =>
          rw [tiles_cons hname, List.mem_append, List.mem_append] at htile
          rcases htile with (hended | hskipped) | hrest
          · obtain ⟨chunk, -, rfl⟩ := List.mem_map.1 hended
            cases hspan
          · obtain ⟨_, hmem, rfl⟩ := List.mem_map.1 hskipped
            obtain rfl := Option.some.inj hspan
            rw [← digests_room chunker name.bucket]
            exact (endOfSpan?_of_mem_spans hmem).2
          · rw [← digests_room chunker name.bucket, ← digests_take _ name item]
            exact @ih (chunker.following name item) hrest

/-! ### The items of a chunk -/

/-- The items that are held do not come after the last of them. -/
theorem Ready.key_le_last (hready : Ready chunker bucket items) {before : List Item} {last : Item}
    {lastName : ObjectName} (hlast : chunker.held.toList = before ++ [last])
    (hlastName : last.name? = some lastName) (hitem : item ∈ chunker.held.toList)
    (hname : item.name? = some name) : name.key ≤ lastName.key := by
  have hheld : AscendingByKey Item.key (before ++ [last]) :=
    hlast ▸ (List.pairwise_append.1 hready.ascending).1
  have hbucket : ∀ other ∈ chunker.held.toList, ∀ name', other.name? = some name' →
      name'.bucket = bucket := by
    intro other hother name' hname'
    obtain ⟨_, hsome, hbucket, -⟩ := hready.held other hother
    exact Option.some.inj (hname'.symm.trans hsome) ▸ hbucket
  have hsame : lastName.bucket = name.bucket :=
    (hbucket last (by simp [hlast]) lastName hlastName).trans (hbucket item hitem name hname).symm
  rw [hlast, List.mem_append, List.mem_singleton] at hitem
  rcases hitem with hitem | rfl
  · have hlt := (List.pairwise_append.1 hheld).2.2 item hitem last (List.mem_singleton_self _)
    rcases Item.bucket_of_key_lt hname hlastName hlt with ⟨-, hlt⟩ | hbefore
    · exact hlt.le
    · exact absurd hsame.symm hbefore.ne
  · exact (Option.some.inj (hname.symm.trans hlastName)) ▸ le_rfl

/-- A chunk that an item ends has all items of its range. -/
theorem Ready.filter_ended (hready : Ready chunker bucket (item :: items))
    (hname : item.name? = some name) {chunk : Chunk}
    (hended : chunker.ended name.bucket = some chunk) :
    (chunker.held.toList ++ item :: items).filter chunk.range.covers = chunk.items := by
  rcases hready.room_cases hname with ⟨-, hended', -⟩ |
    ⟨before, last, lastName, -, hlast, hlastName, hended', -⟩ | ⟨hbefore, hended', -⟩
  · exact nomatch hended'.symm.trans hended
  · obtain rfl := Option.some.inj (hended'.symm.trans hended)
    refine filter_append_eq_left (fun x hx => ?_) fun y hy => ?_
    · obtain ⟨name', hname', hbucket, hahead⟩ := hready.held x hx
      refine (Range.covers_iff_contains hname').2 ⟨hbucket, hahead, fun end? hend => ?_⟩
      exact Option.some.inj hend ▸ hready.key_le_last hlast hlastName hx hname'
    · obtain ⟨name', hname', -⟩ := hready.named y hy
      -- what is still to come is behind the last item held, where the range ends
      obtain ⟨_, hsome, hbucket, -⟩ := hready.held last (by simp [hlast])
      obtain rfl := Option.some.inj (hlastName.symm.trans hsome)
      have hlt := (List.pairwise_append.1 hready.ascending).2.2 last (by simp [hlast]) y hy
      rw [Bool.eq_false_iff, Ne, Range.covers_iff_contains hname']
      rintro ⟨hsame, -, hle⟩
      rcases Item.bucket_of_key_lt hlastName hname' hlt with ⟨-, hlt⟩ | hbefore
      · exact hlt.not_ge (hle _ rfl)
      · exact hbefore.ne (hbucket.trans hsame.symm)
  · obtain rfl := Option.some.inj (hended'.symm.trans hended)
    refine filter_append_eq_left (fun x hx => ?_) fun y hy => ?_
    · obtain ⟨name', hname', hbucket, hahead⟩ := hready.held x hx
      exact (Range.covers_iff_contains hname').2 ⟨hbucket, hahead, nofun⟩
    · obtain ⟨name', hname', hafter⟩ := (hready.room hname).named y hy
      rw [Bool.eq_false_iff, Ne, Range.covers_iff_contains hname']
      rintro ⟨hsame, -⟩
      rcases hafter with hafter | hafter
      · exact hbefore.ne (hsame.symm.trans hafter)
      · exact (hbefore.trans hafter).ne hsame.symm

/-- The ranges after an item that makes room have no items that were held before. -/
theorem Ready.filter_room (hready : Ready chunker bucket (item :: items))
    (hname : item.name? = some name) {ranges : List Range}
    (h : Tiling name.bucket (chunker.room name.bucket).marker ranges) {range : Range}
    (hrange : range ∈ ranges) :
    (chunker.held.toList ++ item :: items).filter range.covers =
      ((chunker.room name.bucket).held.toList ++ item :: items).filter range.covers := by
  rcases hready.room_cases hname with ⟨-, -, hroom⟩ |
    ⟨before, last, lastName, hbucket, hlast, hlastName, -, hroom⟩ | ⟨hbefore, -, hroom⟩
  all_goals rw [hroom] at h ⊢
  · rw [List.filter_append, List.filter_append, List.filter_eq_nil_iff.2]
    · rfl
    · intro x hx
      obtain ⟨name', hname', hsame, -⟩ := hready.held x hx
      rw [h.covers_eq_false hrange hname' (.inr ⟨hsame.trans hbucket.symm, ?_⟩)]
      · exact Bool.false_ne_true
      · exact decide_eq_false (hready.key_le_last hlast hlastName hx hname').not_gt
  · rw [List.filter_append, List.filter_append, List.filter_eq_nil_iff.2]
    · rfl
    · intro x hx
      obtain ⟨name', hname', hsame, -⟩ := hready.held x hx
      rw [h.covers_eq_false hrange hname' (.inl (hsame ▸ hbefore))]
      exact Bool.false_ne_true

/-- The ranges after an item have it only if it is held. -/
theorem Ready.filter_take (hready : Ready chunker name.bucket (item :: items))
    (hname : item.name? = some name) {ranges : List Range}
    (h : Tiling name.bucket (chunker.take name item).marker ranges) {range : Range}
    (hrange : range ∈ ranges) :
    (chunker.held.toList ++ item :: items).filter range.covers =
      ((chunker.take name item).held.toList ++ items).filter range.covers := by
  -- An item that lies in a span is up to the marker, which no later range goes back behind.
  have hskipped : ∀ last, (chunker.take name item).marker = some last → name.key ≤ last →
      range.covers item = false := by
    intro last hmarker hle
    refine h.covers_eq_false hrange hname (.inr ⟨rfl, ?_⟩)
    rw [hmarker]
    exact decide_eq_false hle.not_gt
  rcases chunker.take_cases name item with ⟨-, -, htake⟩ | ⟨last, hnil, hopen, hle, -, htake⟩ |
    ⟨index, hnil, -, hlt, -, ⟨hreached, htake⟩ | ⟨-, htake⟩⟩
  all_goals rw [htake] at hskipped ⊢
  · rw [Array.toList_push, List.append_assoc, List.singleton_append]
  · rw [hnil, List.nil_append, List.filter_cons_of_neg]
    · rfl
    · rw [hskipped last (hready.opened last hopen).2.1 hle]
      exact Bool.false_ne_true
  · obtain ⟨_, last, -, hend, -, hle⟩ :=
      DigestIndex.exists_span_of_climb (hready.isAhead_marker hname hlt) hreached
    rw [hnil, List.nil_append, List.filter_cons_of_neg]
    · rfl
    · rw [hskipped last hend hle]
      exact Bool.false_ne_true
  · rw [hnil]
    rfl

/-- **The items of a chunk** are the items of its range, all that are held or still to come. -/
theorem Ready.items_eq (hready : Ready chunker bucket items) {chunk : Chunk}
    (hchunk : .compared chunk ∈ chunker.tiles items) :
    chunk.items = (chunker.held.toList ++ items).filter chunk.range.covers := by
  induction items generalizing chunker bucket with
  | nil =>
      rw [tiles, finish, flush, hready.bucket_eq] at hchunk
      obtain rfl := Tile.compared.inj (List.mem_singleton.1 hchunk)
      rw [filter_append_eq_left _ (by simp)]
      intro x hx
      obtain ⟨name, hname, hbucket, hahead⟩ := hready.held x hx
      exact (Range.covers_iff_contains hname).2 ⟨hbucket, hahead, nofun⟩
  | cons item items ih =>
      obtain ⟨name, hname, -⟩ := hready.named item List.mem_cons_self
      have hrest := hready.following hname
      rw [tiles_cons hname, List.mem_append, List.mem_append] at hchunk
      -- The chunk ends before the item, or it comes later, and then the item is in its range only
      -- if it has been held.
      rcases hchunk with (hended | hskipped) | hlater
      · obtain ⟨ended, hmem, hsame⟩ := List.mem_map.1 hended
        obtain rfl := Tile.compared.inj hsame
        exact (hready.filter_ended hname (Option.mem_toList.1 hmem)).symm
      · obtain ⟨_, -, hspan⟩ := List.mem_map.1 hskipped
        cases hspan
      · have hrange : chunk.range ∈ ((chunker.following name item).tiles items).map Tile.range :=
          List.mem_map_of_mem hlater
        rw [ih hrest hlater,
          hready.filter_room hname (tiling_take hrest.tiling) (List.mem_append_right _ hrange),
          (hready.room hname).filter_take hname hrest.tiling hrange]
        rfl

/-! ### From the start -/

section Start

variable (capacity : Nat) (digests : Option DigestIndex)

/-- The cutting where the first item finds its bucket already begun. -/
def opening (bucket : String) : Chunker :=
  { start capacity digests with bucket := some bucket }

/-- The cutting starts as if the bucket of the first item were already begun. -/
theorem tiles_start_cons (hname : item.name? = some name) :
    (start capacity digests).tiles (item :: items) =
      (opening capacity digests name.bucket).tiles (item :: items) := by
  have hempty : ¬max capacity 1 ≤ (#[] : Array Item).size := by
    rw [Array.size_empty]
    omega
  have hstart : (start capacity digests).makeRoom name.bucket = (none, start capacity digests) := by
    rw [makeRoom, if_neg (by simp [start])]
    exact if_neg hempty
  obtain ⟨hended, hroom⟩ := @makeRoom_of_lt (opening capacity digests name.bucket) name.bucket rfl
    hempty
  rw [tiles_cons hname, tiles_cons hname, following, following, hended, hroom, ended, room, hstart]
  rfl

/-- A bucket that is opened satisfies the invariant, with all its items ahead. -/
theorem ready_opening (hascending : AscendingByKey Item.key (item :: items))
    (hnamed : ∀ other ∈ item :: items, '/' ∈ other.key.toList) (hname : item.name? = some name) :
    Ready (opening capacity digests name.bucket) name.bucket (item :: items) := by
  refine ⟨rfl, hascending, fun other hother => ?_, nofun, fun _ _ _ _ _ _ => rfl, nofun⟩
  obtain ⟨name', hname'⟩ := Item.exists_name?_eq_some_iff.2 (hnamed other hother)
  refine ⟨name', hname', ?_⟩
  rcases List.mem_cons.1 hother with rfl | hother
  · obtain rfl := Option.some.inj (hname.symm.trans hname')
    exact .inl rfl
  · have hlt := List.rel_of_pairwise_cons hascending hother
    exact (Item.bucket_of_key_lt hname hname' hlt).imp_left And.left

variable (hascending : AscendingByKey Item.key items)
  (hnamed : ∀ item ∈ items, '/' ∈ item.key.toList)

include hascending hnamed

/-- Either there is nothing to cut, or the cutting begins in the bucket of the first item. -/
theorem start_cases :
    (items = [] ∧ (start capacity digests).tiles items = []) ∨
      ∃ bucket, Ready (opening capacity digests bucket) bucket items ∧
        (∃ item ∈ items, item.bucket? = some bucket) ∧
        (start capacity digests).tiles items = (opening capacity digests bucket).tiles items := by
  cases items with
  | nil => exact .inl ⟨rfl, rfl⟩
  | cons item items =>
      obtain ⟨name, hname⟩ := Item.exists_name?_eq_some_iff.2 (hnamed item List.mem_cons_self)
      refine .inr ⟨name.bucket, ready_opening capacity digests hascending hnamed hname,
        ⟨item, List.mem_cons_self, ?_⟩, tiles_start_cons capacity digests hname⟩
      rw [Item.bucket?, hname]
      rfl

/-- The tiles come one after the other, with all keys that they contain. -/
theorem pairwise_tiles : ((start capacity digests).tiles items).Pairwise fun s t =>
    ∀ a b : Item, s.range.covers a = true → t.range.covers b = true → a.key < b.key := by
  rcases start_cases capacity digests hascending hnamed with
    ⟨-, htiles⟩ | ⟨bucket, hready, -, htiles⟩
  · rw [htiles]
    exact .nil
  · rw [htiles]
    refine (List.pairwise_map.1 hready.tiling.pairwise).imp fun h a b ha hb => ?_
    obtain ⟨x, hx, hxs⟩ := Range.covers_iff.1 ha
    obtain ⟨y, hy, hyt⟩ := Range.covers_iff.1 hb
    obtain ⟨hakey, hx⟩ := Item.name?_eq_some_iff.1 hx
    obtain ⟨hbkey, hy⟩ := Item.name?_eq_some_iff.1 hy
    rw [hakey, hbkey]
    exact h x y hx hy hxs hyt

/-- No item lies in two tiles. -/
theorem eq_of_covers {s t : Tile} (hs : s ∈ (start capacity digests).tiles items)
    (ht : t ∈ (start capacity digests).tiles items) (hsi : s.range.covers item = true)
    (hti : t.range.covers item = true) : s = t := by
  by_contra hne
  have hsymm : Std.Symm fun s t : Tile => ∀ other : Item, s.range.covers other = true →
      t.range.covers other = true → False := ⟨fun _ _ h other hs ht => h other ht hs⟩
  have hapart : ((start capacity digests).tiles items).Pairwise fun s t => ∀ other : Item,
      s.range.covers other = true → t.range.covers other = true → False :=
    (pairwise_tiles capacity digests hascending hnamed).imp fun h other hs ht =>
      lt_irrefl _ (h other other hs ht)
  exact hapart.forall hs ht hne item hsi hti

/-- The buckets of the tiles are those of the items. -/
theorem mem_buckets_iff {b : String} :
    (∃ tile ∈ (start capacity digests).tiles items, tile.range.bucket = b) ↔
      ∃ item ∈ items, item.bucket? = some b := by
  rcases start_cases capacity digests hascending hnamed with ⟨rfl, htiles⟩ |
    ⟨bucket, hready, hbucket, htiles⟩
  · rw [htiles]
    simp
  · rw [htiles, hready.mem_buckets_iff, or_iff_right_of_imp]
    rintro rfl
    exact hbucket

/-- **What the tiles cover**: all items of the buckets that occur. -/
theorem exists_covers_iff {other : Item} :
    (∃ tile ∈ (start capacity digests).tiles items, tile.range.covers other = true) ↔
      ∃ b, other.bucket? = some b ∧ ∃ item ∈ items, item.bucket? = some b := by
  constructor
  · rintro ⟨tile, htile, hcovers⟩
    obtain ⟨name, hname, hbucket, -⟩ := Range.covers_iff.1 hcovers
    refine ⟨name.bucket, ?_, ?_⟩
    · rw [Item.bucket?, hname, Option.map_some]
    · exact (mem_buckets_iff capacity digests hascending hnamed).1 ⟨tile, htile, hbucket.symm⟩
  · rintro ⟨b, hb, hmem⟩
    obtain ⟨name, hname, rfl⟩ := Option.map_eq_some_iff.1 hb
    rcases start_cases capacity digests hascending hnamed with
      ⟨rfl, -⟩ | ⟨bucket, hready, -, htiles⟩
    · obtain ⟨_, hitem, -⟩ := hmem
      cases hitem
    · obtain ⟨tile, htile, hsame⟩ := hready.mem_buckets_iff.2 (.inr hmem)
      obtain ⟨range, hrange, hcontains⟩ := (hready.tiling.exists_contains_iff_mem name).2
        (List.mem_map.2 ⟨tile.range, List.mem_map_of_mem htile, hsame⟩)
      obtain ⟨tile, htile, rfl⟩ := List.mem_map.1 hrange
      exact ⟨tile, htiles ▸ htile, Range.covers_iff.2 ⟨name, hname, hcontains⟩⟩

/-- The items of a chunk are the items of its range. -/
theorem items_eq {chunk : Chunk} (hchunk : .compared chunk ∈ (start capacity digests).tiles items) :
    chunk.items = items.filter chunk.range.covers := by
  rcases start_cases capacity digests hascending hnamed with
    ⟨-, htiles⟩ | ⟨bucket, hready, -, htiles⟩
  · rw [htiles] at hchunk
    cases hchunk
  · rw [htiles] at hchunk
    exact hready.items_eq hchunk

/-- Each item is in a chunk that is compared, or it lies in a span that is consumed. -/
theorem exists_chunk_or_span (hitem : item ∈ items) :
    (∃ chunk ∈ (start capacity digests).chunks items, item ∈ chunk.items) ∨
      ∃ span ∈ (start capacity digests).consumed items, span.covers item = true := by
  obtain ⟨name, hname⟩ := Item.exists_name?_eq_some_iff.2 (hnamed item hitem)
  have hbucket : item.bucket? = some name.bucket := by rw [Item.bucket?, hname, Option.map_some]
  obtain ⟨tile, htile, hcovers⟩ := (exists_covers_iff capacity digests hascending hnamed).2
    ⟨name.bucket, hbucket, item, hitem, hbucket⟩
  cases tile with
  | compared chunk =>
      refine .inl ⟨chunk, mem_chunks_iff.2 htile, ?_⟩
      rw [items_eq capacity digests hascending hnamed htile]
      exact List.mem_filter.2 ⟨hitem, hcovers⟩
  | skipped span => exact .inr ⟨span, mem_consumed_iff.2 htile, hcovers⟩

end Start

end Chunker

end Reconcile
