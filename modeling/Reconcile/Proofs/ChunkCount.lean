import Mathlib.Algebra.Order.Floor.Div
import Reconcile.Proofs.Tile

/-!
# How many chunks there are

The cutting loses no item: each is held until its chunk ends, or skipped
(`Chunker.items_ended_append`, `Chunker.held_take_cases`). And it ends a chunk only with its bucket
or when it is full. So without digests a bucket has as many chunks as its items fill, the last one
perhaps not completely: the quotient of the number of its items by the capacity, rounded up. Where
the items fill the last chunk exactly, it is the end of the bucket that ends it and not the
capacity, so that no empty chunk follows.

## Main results

* `Chunker.items_ended_append`: what becomes of the items that are held;
* `Chunker.Ready.chunksIn_chunks`, `Chunker.chunksIn_chunks_start`: the number of chunks of a
  bucket.
-/

namespace Reconcile

/-- Something that is no more than a part has room for fills one part. -/
theorem ceilDiv_eq_one {n capacity : Nat} (hpos : 1 ≤ n) (hle : n ≤ capacity) :
    n ⌈/⌉ capacity = 1 := by
  rw [Nat.ceilDiv_eq_add_pred_div]
  refine Nat.div_eq_of_lt_le ?_ ?_ <;> omega

/-- A full part and what comes after it. -/
theorem add_ceilDiv {capacity : Nat} (hpos : 1 ≤ capacity) (n : Nat) :
    (capacity + n) ⌈/⌉ capacity = 1 + n ⌈/⌉ capacity := by
  rw [Nat.ceilDiv_eq_add_pred_div, Nat.ceilDiv_eq_add_pred_div,
    (by omega : capacity + n + capacity - 1 = n + capacity - 1 + capacity),
    Nat.add_div_right _ hpos, Nat.add_comm]

namespace Chunker

variable {chunker : Chunker} {bucket : String} {item : Item} {items : List Item}
  {name : ObjectName}

/-! ### No item is lost -/

/-- Taking an item stays in the bucket. -/
theorem bucket_take (chunker : Chunker) (name : ObjectName) (item : Item) :
    (chunker.take name item).bucket = chunker.bucket := by
  rcases chunker.take_cases name item with ⟨-, -, h⟩ | ⟨_, -, -, -, -, h⟩ |
    ⟨_, -, -, -, -, ⟨-, h⟩ | ⟨-, h⟩⟩ <;> rw [h]

/-- Ending a chunk loses no item. -/
theorem items_flush_append (chunker : Chunker) (last : Option String) :
    (chunker.flush last).1.toList.flatMap Chunk.items ++ (chunker.flush last).2.held.toList =
        chunker.held.toList ∧
      (chunker.flush last).2.skipped = chunker.skipped := by
  rw [flush]
  cases chunker.bucket with
  | none => simp
  | some bucket => simp

/-- **Making room loses no item**: what was held is in the chunk that ends, or it is still held. -/
theorem items_ended_append (chunker : Chunker) (bucket : String) :
    (chunker.ended bucket).toList.flatMap Chunk.items ++ (chunker.room bucket).held.toList =
        chunker.held.toList ∧
      (chunker.room bucket).skipped = chunker.skipped := by
  rw [ended, room, makeRoom]
  split
  · exact chunker.items_flush_append none
  · split
    · exact chunker.items_flush_append _
    · exact ⟨rfl, rfl⟩

/-- Making room loses no item, counted. -/
theorem length_ended_add (chunker : Chunker) (bucket : String) :
    ((chunker.ended bucket).toList.map (·.items.length)).sum + (chunker.room bucket).held.size =
        chunker.held.size ∧
      (chunker.room bucket).skipped = chunker.skipped := by
  obtain ⟨hitems, hskipped⟩ := chunker.items_ended_append bucket
  have hlength := congrArg List.length hitems
  rw [List.length_append, List.length_flatMap, Array.length_toList, Array.length_toList] at hlength
  exact ⟨hlength, hskipped⟩

/-- **An item is held or skipped**, and not both. -/
theorem held_take_cases (chunker : Chunker) (name : ObjectName) (item : Item) :
    ((chunker.take name item).held = chunker.held.push item ∧
        (chunker.take name item).skipped = chunker.skipped) ∨
      (chunker.take name item).held = chunker.held ∧
        (chunker.take name item).skipped = chunker.skipped + 1 := by
  rcases chunker.take_cases name item with ⟨-, -, htake⟩ | ⟨_, -, -, -, -, htake⟩ |
    ⟨_, hheld, -, -, -, ⟨-, htake⟩ | ⟨-, htake⟩⟩
  all_goals rw [htake]
  · exact .inl ⟨rfl, rfl⟩
  · exact .inr ⟨rfl, rfl⟩
  · exact .inr ⟨rfl, rfl⟩
  · exact .inl ⟨by rw [hheld]; rfl, rfl⟩

/-- An item is held or skipped, counted. -/
theorem size_take_add (chunker : Chunker) (name : ObjectName) (item : Item) :
    (chunker.take name item).held.size + (chunker.take name item).skipped =
      chunker.held.size + chunker.skipped + 1 := by
  rcases chunker.held_take_cases name item with ⟨hheld, hskipped⟩ | ⟨hheld, hskipped⟩
  · rw [hheld, hskipped, Array.size_push, Nat.add_right_comm]
  · rw [hheld, hskipped, Nat.add_assoc]

/-! ### Chunks of a bucket -/

/-- Without digests every item is held. -/
theorem take_of_digests_eq_none (h : chunker.digests = none) (name : ObjectName) (item : Item) :
    chunker.take name item = { chunker with held := chunker.held.push item } := by
  by_cases hempty : chunker.held.isEmpty = true
  · simp only [take, if_pos hempty, skip?_of_digests_eq_none h]
  · simp only [take, if_neg hempty]

/-- Whether a chunker cuts by the buckets and its capacity alone, and holds some items, but no more
than a chunk may have. -/
structure Filling (chunker : Chunker) : Prop where
  /-- Nothing is skipped. -/
  digests_eq : chunker.digests = none
  /-- It holds an item. -/
  pos : 1 ≤ chunker.held.size
  /-- It holds no more than a chunk may have. -/
  le : chunker.held.size ≤ max chunker.capacity 1

/-- The items of a bucket. -/
def countIn (bucket : String) (items : List Item) : Nat :=
  items.countP fun item => item.bucket? = some bucket

/-- The chunks of a bucket. -/
def chunksIn (bucket : String) (chunks : List Chunk) : Nat :=
  chunks.countP fun chunk => chunk.range.bucket = bucket

/-- An item counts in its own bucket. -/
theorem countIn_cons (hname : item.name? = some name) (b : String) (items : List Item) :
    countIn b (item :: items) = countIn b items + if name.bucket = b then 1 else 0 := by
  rw [countIn, List.countP_cons, ← countIn, Item.bucket?, hname]
  simp

/-- A bucket does not come again. -/
theorem Ready.countIn_eq_zero (hready : Ready chunker bucket items) {b : String}
    (h : BucketBefore b bucket) : countIn b items = 0 := by
  refine List.countP_eq_zero.2 fun item hitem => ?_
  obtain ⟨name, hname, hbucket⟩ := hready.named item hitem
  rw [Item.bucket?, hname, Option.map_some, decide_eq_true_eq, Option.some.injEq]
  rcases hbucket with rfl | hbefore
  · exact h.ne.symm
  · exact (h.trans hbefore).ne.symm

/-- The state after an item, without digests: what room was made for, and the item. -/
theorem following_of_digests_eq_none {room : Chunker} (hroom : chunker.room name.bucket = room)
    (h : room.digests = none) (item : Item) :
    chunker.following name item = { room with held := room.held.push item, skipped := 0 } := by
  rw [following, hroom, take_of_digests_eq_none h]
  rfl

/-- **What an item does to a chunk that is being filled**: the chunk ends, since it is full or the
item is of another bucket, and the next one starts with the item; or the item joins it. -/
theorem Ready.following_cases (hready : Ready chunker bucket (item :: items))
    (hfilling : chunker.Filling) (hname : item.name? = some name) :
    (chunker.following name item).capacity = chunker.capacity ∧
      (chunker.following name item).Filling ∧
      ((∃ chunk, chunker.ended name.bucket = some chunk ∧ chunk.range.bucket = bucket ∧
          (chunker.following name item).held.size = 1 ∧
          ((name.bucket = bucket ∧ chunker.held.size = max chunker.capacity 1) ∨
            BucketBefore bucket name.bucket)) ∨
        chunker.ended name.bucket = none ∧ name.bucket = bucket ∧
          (chunker.following name item).held.size = chunker.held.size + 1) := by
  obtain ⟨hdigests, hpos, hle⟩ := hfilling
  obtain ⟨_, hname', hbucket⟩ := hready.named item List.mem_cons_self
  obtain rfl := Option.some.inj (hname.symm.trans hname')
  -- Without digests every item is held, so room is all that has to be made.
  rcases hbucket with hbucket | hbefore
  · have hcurrent : chunker.bucket = some name.bucket := hbucket ▸ hready.bucket_eq
    by_cases hfull : max chunker.capacity 1 ≤ chunker.held.size
    · obtain ⟨hended, hroom⟩ := makeRoom_of_full hcurrent hfull
      rw [following_of_digests_eq_none hroom hdigests]
      exact ⟨rfl, ⟨hdigests, le_rfl, le_max_right _ _⟩,
        .inl ⟨_, hended, hbucket, rfl, .inl ⟨hbucket, hle.antisymm hfull⟩⟩⟩
    · obtain ⟨hended, hroom⟩ := makeRoom_of_lt hcurrent hfull
      have hsize : (chunker.held.push item).size = chunker.held.size + 1 := Array.size_push _
      rw [following_of_digests_eq_none hroom hdigests]
      refine ⟨rfl, ⟨hdigests, ?_, ?_⟩, .inr ⟨hended, hbucket, hsize⟩⟩
      · exact (Nat.succ_pos _).trans_eq hsize.symm
      · exact hsize.trans_le (not_le.1 hfull)
  · obtain ⟨hended, hroom⟩ := makeRoom_of_ne hready.bucket_eq hbefore.ne
    rw [following_of_digests_eq_none hroom hdigests]
    exact ⟨rfl, ⟨hdigests, le_rfl, le_max_right _ _⟩, .inl ⟨_, hended, rfl, rfl, .inr hbefore⟩⟩

/-- **The number of chunks of each bucket**, from a chunk on that is being filled. -/
theorem Ready.chunksIn_chunks (hready : Ready chunker bucket items) (hfilling : chunker.Filling)
    (b : String) :
    chunksIn b (chunker.chunks items) =
      ((if bucket = b then chunker.held.size else 0) + countIn b items) ⌈/⌉
        max chunker.capacity 1 := by
  -- By induction on the items; the invariant says how many are held when the next one comes.
  induction items generalizing chunker bucket with
  | nil =>
      have hchunks : chunker.chunks [] =
          [⟨⟨bucket, chunker.marker, none⟩, chunker.held.toList⟩] := by
        rw [chunks, tiles, finish, flush, hready.bucket_eq]
        rfl
      rw [hchunks, chunksIn, List.countP_singleton, countIn, List.countP_nil, Nat.add_zero]
      by_cases hb : bucket = b
      · rw [if_pos (decide_eq_true hb), if_pos hb, ceilDiv_eq_one hfilling.pos hfilling.le]
      · rw [if_neg (by simp [hb]), if_neg hb, zero_ceilDiv]
  | cons item items ih =>
      obtain ⟨name, hname, -⟩ := hready.named item List.mem_cons_self
      have hfollowing := hready.following hname
      obtain ⟨hcapacity, hfilling', hcases⟩ := hready.following_cases hfilling hname
      have hrest := ih hfollowing hfilling'
      rw [hcapacity] at hrest
      rw [chunks_cons hname, countIn_cons hname, chunksIn, List.countP_append, ← chunksIn,
        ← chunksIn, hrest]
      rcases hcases with ⟨chunk, hended, hchunk, hone, ⟨hsame, hfull⟩ | hbefore⟩ |
        ⟨hended, hsame, hmore⟩
      · -- a full chunk is followed by one that starts with the item
        rw [hended, hone, hsame, chunksIn, Option.toList_some, List.countP_singleton, hchunk]
        by_cases hb : bucket = b
        · rw [if_pos hb, if_pos hb, if_pos (decide_eq_true hb), hfull,
            add_ceilDiv (le_max_right _ _), Nat.add_comm (countIn b items)]
        · rw [if_neg hb, if_neg hb, if_neg (by simp [hb]), Nat.zero_add, Nat.add_zero]
      · -- the bucket of the chunk ends, and none of its items is left
        rw [hended, hone, chunksIn, Option.toList_some, List.countP_singleton, hchunk]
        by_cases hb : bucket = b
        · subst hb
          rw [if_pos rfl, if_pos (decide_eq_true rfl), if_neg hbefore.ne.symm,
            hfollowing.countIn_eq_zero hbefore, Nat.add_zero, zero_ceilDiv]
          exact (ceilDiv_eq_one hfilling.pos hfilling.le).symm
        · rw [if_neg hb, if_neg (by simp [hb]), Nat.zero_add, Nat.zero_add, Nat.add_comm]
      · rw [hended, hmore, hsame]
        by_cases hb : bucket = b
        · rw [if_pos hb, if_pos hb, if_pos hb, Nat.add_right_comm, Nat.add_assoc]
          exact Nat.zero_add _
        · rw [if_neg hb, if_neg hb, if_neg hb]
          exact Nat.zero_add _

/-- **The number of chunks of each bucket**: as many as its items fill, without digests. -/
theorem chunksIn_chunks_start (hascending : AscendingByKey Item.key items)
    (hnamed : ∀ item ∈ items, '/' ∈ item.key.toList) (capacity : Nat) (bucket : String) :
    chunksIn bucket ((start capacity none).chunks items) =
      countIn bucket items ⌈/⌉ max capacity 1 := by
  cases items with
  | nil => exact (zero_ceilDiv _).symm
  | cons item items =>
      obtain ⟨name, hname⟩ := Item.exists_name?_eq_some_iff.2 (hnamed item List.mem_cons_self)
      have hready := ready_opening capacity none hascending hnamed hname
      have hempty : ¬max capacity 1 ≤ (#[] : Array Item).size := by
        rw [Array.size_empty]
        omega
      obtain ⟨hended, hroom⟩ :=
        @makeRoom_of_lt (opening capacity none name.bucket) name.bucket rfl hempty
      have hfirst := following_of_digests_eq_none hroom rfl item
      have hfilling : ((opening capacity none name.bucket).following name item).Filling := by
        rw [hfirst]
        exact ⟨rfl, le_rfl, le_max_right _ _⟩
      have hcount := (hready.following hname).chunksIn_chunks hfilling bucket
      rw [chunks, tiles_start_cons capacity none hname, ← chunks, chunks_cons hname, hended,
        Option.toList_none, List.nil_append, hcount, countIn_cons hname, Nat.add_comm, hfirst]
      rfl

end Chunker

end Reconcile
