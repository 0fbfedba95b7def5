import Reconcile.Proofs.ChunkCount

/-!
# What cutting makes of a list

`Proofs/Tile` follows the cutting through definitions of its own. Here a chunker is asked, call by
call, and its answers are looked at: it takes items, now and then tells how many it has skipped, and
at last ends its last chunk. `Cutting` is such a list of calls, and `Cutting.IsTiled` says what the
answers come to:

* the chunks have all items in their order but those that are skipped, which are counted;
* no chunk is larger than it may be, and no more items are ever held;
* the items of a chunk lie in its range, and the ranges of the chunks with the spans that are
  consumed between them tile the buckets of the items: each starts where the one before ends, the
  first of a bucket with the bucket, and only the last of a bucket is open;
* so each key of these buckets lies in one of them, and a skipped item in a span.

The main result is `Cutting.isTiled_of_ordered`. What is held and what is skipped follows from one
step (`Fits.answer`, `held_take_cases`) without any order of the items; the order is needed for the
ranges alone, which the tiles of `Proofs/Tile` stand for (`chunks_answers`).
-/

namespace Reconcile

/-- Where no two elements of a list have a property together and one has it, it occurs once. -/
theorem countP_eq_one {α : Type} {p : α → Bool} {list : List α}
    (hapart : list.Pairwise fun a b => ¬(p a = true ∧ p b = true))
    (hexists : ∃ a ∈ list, p a = true) :
    list.countP p = 1 := by
  induction list with
  | nil =>
      obtain ⟨_, hmem, -⟩ := hexists
      cases hmem
  | cons a list ih =>
      obtain ⟨ha, hlist⟩ := List.pairwise_cons.1 hapart
      rw [List.countP_cons]
      by_cases hpa : p a = true
      · have hzero : list.countP p = 0 :=
          List.countP_eq_zero.2 fun b hb hpb => ha b hb ⟨hpa, hpb⟩
        rw [hzero, if_pos hpa]
      · obtain ⟨b, hb, hpb⟩ := hexists
        have hb : b ∈ list := (List.mem_cons.1 hb).resolve_left fun heq => hpa (heq ▸ hpb)
        rw [ih hlist ⟨b, hb, hpb⟩, if_neg hpa]

namespace Chunker

/-! ### Calls and answers -/

/-- What can be asked of a chunker. -/
inductive Call where
  /-- To take the next item. -/
  | advance (item : Item)
  /-- To end the last chunk. -/
  | finish
  /-- How many items were skipped since this was last asked. -/
  | takeSkipped
  deriving DecidableEq

/-- What a chunker answers. -/
inductive Answer where
  /-- The chunk that ended, if one did. -/
  | ended (chunk : Option Chunk)
  /-- The item is refused. -/
  | refused (error : KeyError)
  /-- The number of items skipped. -/
  | counted (count : Nat)

/-- The item that a call is about. -/
def Call.item? : Call → Option Item
  | advance item => some item
  | finish | takeSkipped => none

/-- The chunk of an answer. -/
def Answer.chunk? : Answer → Option Chunk
  | ended chunk => chunk
  | refused _ | counted _ => none

/-- The number of an answer. -/
def Answer.count : Answer → Nat
  | counted count => count
  | ended _ | refused _ => 0

/-- The answer to a call and the state after it. -/
def answer (chunker : Chunker) : Call → Answer × Chunker
  | .advance item =>
    match chunker.advance item with
    | (.ok chunk, next) => (.ended chunk, next)
    | (.error error, next) => (.refused error, next)
  | .finish => (.ended chunker.finish.1, chunker.finish.2)
  | .takeSkipped => (.counted chunker.takeSkipped.1, chunker.takeSkipped.2)

/-- The answers to some calls, one after the other. -/
def answers (chunker : Chunker) : List Call → List Answer
  | [] => []
  | call :: calls => (chunker.answer call).1 :: (chunker.answer call).2.answers calls

/-- The state after some calls. -/
def after (chunker : Chunker) (calls : List Call) : Chunker :=
  calls.foldl (fun chunker call => (chunker.answer call).2) chunker

/-- The items that some calls are about. -/
def itemsOf (calls : List Call) : List Item :=
  calls.filterMap Call.item?

/-- The items that are skipped: those that raise the number of the skipped ones. -/
def skippedItems (chunker : Chunker) : List Call → List Item
  | [] => []
  | call :: calls =>
    (if chunker.skipped < (chunker.answer call).2.skipped then call.item?.toList else []) ++
      (chunker.answer call).2.skippedItems calls

/-- The chunks of some answers. -/
def chunksOf (answers : List Answer) : List Chunk :=
  answers.filterMap Answer.chunk?

/-- The numbers of some answers, added up. -/
def countOf (answers : List Answer) : Nat :=
  (answers.map Answer.count).sum

variable {chunker : Chunker} {item : Item} {name : ObjectName} {calls : List Call}

/-- The answer to an item whose key has a bucket. -/
theorem answer_advance (hname : item.name? = some name) :
    chunker.answer (.advance item) =
      (.ended (chunker.ended name.bucket), (chunker.room name.bucket).take name item) := by
  rw [answer, advance_eq hname]

/-- **An item whose key has no bucket is refused and changes nothing.** -/
theorem answer_advance_of_none (hname : item.name? = none) :
    chunker.answer (.advance item) = (.refused (.missingBucket item.key), chunker) := by
  rw [answer, advance, ObjectName.ofKey_of_not_mem (Item.name?_eq_none_iff.1 hname)]

/-- The last calls of a cutting: the last chunk ends, and the skipped items are asked for. -/
def closing : List Call :=
  [.finish, .takeSkipped]

/-- The chunk of an answer comes before those of the later ones. -/
theorem chunksOf_cons (answer : Answer) (answers : List Answer) :
    chunksOf (answer :: answers) = answer.chunk?.toList ++ chunksOf answers := by
  rw [chunksOf, List.filterMap_cons, ← chunksOf]
  cases answer.chunk? <;> rfl

/-- The number of an answer is added to those of the later ones. -/
theorem countOf_cons (answer : Answer) (answers : List Answer) :
    countOf (answer :: answers) = answer.count + countOf answers := by
  rw [countOf, List.map_cons, List.sum_cons, ← countOf]

/-- What is asked at the end: the chunk that is being filled, and the number of skipped items. -/
theorem answers_closing (chunker : Chunker) :
    chunksOf (chunker.answers closing) = chunker.finish.1.toList ∧
      countOf (chunker.answers closing) = chunker.skipped := by
  have hskipped : chunker.finish.2.skipped = chunker.skipped :=
    (chunker.items_flush_append none).2
  constructor
  · rw [closing, answers, chunksOf_cons]
    exact List.append_nil _
  · rw [closing, answers, countOf_cons]
    exact (Nat.zero_add _).trans hskipped

/-! ### What is held -/

/-- **A chunker holds no more than a chunk may have**, and nothing before the first item. -/
structure Fits (chunker : Chunker) : Prop where
  /-- Nothing is held before an item has come. -/
  opened : chunker.bucket = none → chunker.held = #[]
  /-- No more is held than a chunk may have. -/
  size_le : chunker.held.size ≤ max chunker.capacity 1

/-- Before the first item nothing is held. -/
theorem fits_start (capacity : Nat) (digests : Option DigestIndex) :
    (start capacity digests).Fits :=
  ⟨fun _ => rfl, Nat.zero_le _⟩

/-- Where room has been made, an item can be held. -/
theorem Fits.room (h : chunker.Fits) (bucket : String) :
    (chunker.room bucket).bucket = some bucket ∧
      (chunker.room bucket).capacity = chunker.capacity ∧
      (chunker.room bucket).held.size < max chunker.capacity 1 := by
  have hpos : (#[] : Array Item).size < max chunker.capacity 1 := by
    rw [Array.size_empty]
    omega
  cases hbucket : chunker.bucket with
  | none =>
      have hmake : chunker.makeRoom bucket = (none, chunker) := by
        rw [makeRoom, hbucket, if_neg (by simp), h.opened hbucket, if_neg hpos.not_ge]
      rw [Chunker.room, hmake]
      exact ⟨rfl, rfl, h.opened hbucket ▸ hpos⟩
  | some current =>
      by_cases hsame : current = bucket
      · rw [hsame] at hbucket
        by_cases hfull : max chunker.capacity 1 ≤ chunker.held.size
        · rw [(makeRoom_of_full hbucket hfull).2]
          exact ⟨hbucket, rfl, hpos⟩
        · rw [(makeRoom_of_lt hbucket hfull).2]
          exact ⟨hbucket, rfl, not_le.1 hfull⟩
      · rw [(makeRoom_of_ne hbucket hsame).2]
        exact ⟨rfl, rfl, hpos⟩

/-- Taking an item leaves the number of items that a chunk may have. -/
theorem capacity_take (chunker : Chunker) (name : ObjectName) (item : Item) :
    (chunker.take name item).capacity = chunker.capacity := by
  rcases chunker.take_cases name item with ⟨-, -, h⟩ | ⟨_, -, -, -, -, h⟩ |
    ⟨_, -, -, -, -, ⟨-, h⟩ | ⟨-, h⟩⟩ <;> rw [h]

/-- The chunk that ends at the end of the input is what was held. -/
theorem finish_eq (h : chunker.Fits) :
    chunker.finish.1.toList.flatMap Chunk.items = chunker.held.toList ∧
      chunker.finish.2.held = #[] ∧ chunker.finish.2.capacity = chunker.capacity := by
  rw [finish, flush]
  cases hbucket : chunker.bucket with
  | none => exact ⟨by rw [h.opened hbucket]; rfl, h.opened hbucket, rfl⟩
  | some bucket => exact ⟨by simp, rfl, rfl⟩

/-- **No call makes a chunker hold more than a chunk may have.** -/
theorem Fits.answer (h : chunker.Fits) (call : Call) :
    (chunker.answer call).2.Fits ∧ (chunker.answer call).2.capacity = chunker.capacity := by
  cases call with
  | advance item =>
      cases hname : item.name? with
      | none =>
          rw [answer_advance_of_none hname]
          exact ⟨h, rfl⟩
      | some name =>
          obtain ⟨hbucket, hcapacity, hroom⟩ := h.room name.bucket
          have hbucket' := (chunker.room name.bucket).bucket_take name item
          have hcapacity' := (chunker.room name.bucket).capacity_take name item
          rw [answer_advance hname]
          refine ⟨⟨fun hnone => ?_, ?_⟩, hcapacity'.trans hcapacity⟩
          · exact nomatch hbucket.symm.trans (hbucket'.symm.trans hnone)
          · rw [hcapacity', hcapacity]
            rcases (chunker.room name.bucket).held_take_cases name item with
              ⟨hheld, -⟩ | ⟨hheld, -⟩
            · rw [hheld, Array.size_push]
              exact hroom
            · rw [hheld]
              exact hroom.le
  | finish =>
      obtain ⟨-, hheld, hcapacity⟩ := finish_eq h
      exact ⟨⟨fun _ => hheld, by rw [Chunker.answer, hheld]; exact Nat.zero_le _⟩, hcapacity⟩
  | takeSkipped => exact ⟨⟨h.opened, h.size_le⟩, rfl⟩

/-- **No call makes a chunker hold too much**, and none changes what it may hold. -/
theorem Fits.after (h : chunker.Fits) (calls : List Call) :
    (chunker.after calls).Fits ∧ (chunker.after calls).capacity = chunker.capacity := by
  induction calls generalizing chunker with
  | nil => exact ⟨h, rfl⟩
  | cons call calls ih =>
      obtain ⟨hfits, hcapacity⟩ := h.answer call
      obtain ⟨hafter, hsame⟩ := ih hfits
      exact ⟨hafter, hsame.trans hcapacity⟩

/-- The chunk of an answer has only what was held. -/
theorem Fits.length_le_of_answer (h : chunker.Fits) {call : Call} {chunk : Chunk}
    (hchunk : (chunker.answer call).1.chunk? = some chunk) :
    chunk.items.length ≤ chunker.held.size := by
  have hsub : ∀ (ended : Option Chunk) (rest : List Item), ended = some chunk →
      ended.toList.flatMap Chunk.items ++ rest = chunker.held.toList →
        chunk.items.length ≤ chunker.held.size := by
    rintro _ rest rfl happend
    rw [← Array.length_toList, ← happend]
    simp
  cases call with
  | advance item =>
      cases hname : item.name? with
      | none =>
          rw [answer_advance_of_none hname] at hchunk
          cases hchunk
      | some name =>
          rw [answer_advance hname] at hchunk
          exact hsub (chunker.ended name.bucket) _ hchunk
            (chunker.items_ended_append name.bucket).1
  | finish =>
      refine hsub chunker.finish.1 [] hchunk ?_
      rw [List.append_nil]
      exact (finish_eq h).1
  | takeSkipped => cases hchunk

/-- No chunk of the answers has more items than it may. -/
theorem Fits.length_le_of_mem (h : chunker.Fits) {chunk : Chunk}
    (hchunk : chunk ∈ chunksOf (chunker.answers calls)) :
    chunk.items.length ≤ max chunker.capacity 1 := by
  induction calls generalizing chunker with
  | nil => cases hchunk
  | cons call calls ih =>
      obtain ⟨hnext, hcapacity⟩ := h.answer call
      rw [answers, chunksOf_cons, List.mem_append, Option.mem_toList] at hchunk
      rcases hchunk with hended | hlater
      · exact (h.length_le_of_answer hended).trans h.size_le
      · exact hcapacity ▸ ih hnext hlater

/-! ### What becomes of the items -/

/-- The item of a call comes before those of the later ones. -/
theorem itemsOf_cons (call : Call) (calls : List Call) :
    itemsOf (call :: calls) = call.item?.toList ++ itemsOf calls := by
  rw [itemsOf, List.filterMap_cons, ← itemsOf]
  cases call.item? <;> rfl

/-- Calls that take items of buckets and ask for the number of skipped ones, and do not end the last
chunk. -/
inductive Feeds : List Call → Prop
  | nil : Feeds []
  | advance {item : Item} {name : ObjectName} {calls : List Call} (hname : item.name? = some name)
      (hcalls : Feeds calls) : Feeds (.advance item :: calls)
  | takeSkipped {calls : List Call} (hcalls : Feeds calls) : Feeds (.takeSkipped :: calls)

/-- Calls that only take items with a bucket, and ask for what is skipped, feed a chunker. -/
theorem feeds_of_named (hfinish : .finish ∉ calls)
    (hnamed : ∀ item ∈ itemsOf calls, ∃ name, item.name? = some name) : Feeds calls := by
  induction calls with
  | nil => exact .nil
  | cons call calls ih =>
      rw [itemsOf_cons] at hnamed
      have hcalls := ih (fun h => hfinish (List.mem_cons_of_mem _ h))
        fun item hitem => hnamed item (List.mem_append_right _ hitem)
      cases call with
      | advance item =>
          obtain ⟨name, hname⟩ := hnamed item (List.mem_append_left _ (List.mem_singleton_self _))
          exact .advance hname hcalls
      | finish => exact absurd List.mem_cons_self hfinish
      | takeSkipped => exact .takeSkipped hcalls

/-- An item that has a bucket is not refused. -/
theorem refused_not_mem_answers (h : Feeds calls) (error : KeyError) :
    .refused error ∉ chunker.answers (calls ++ closing) := by
  induction h generalizing chunker with
  | nil => simp [closing, answers, answer]
  | advance hname _ ih =>
      rw [List.cons_append, answers, answer_advance hname]
      exact List.not_mem_cons_of_ne_of_not_mem nofun ih
  | takeSkipped _ ih => exact List.not_mem_cons_of_ne_of_not_mem nofun ih

/-- Only items that were taken are skipped, in their order. -/
theorem skippedItems_sublist (chunker : Chunker) (calls : List Call) :
    (chunker.skippedItems calls).Sublist (itemsOf calls) := by
  induction calls generalizing chunker with
  | nil => exact .refl _
  | cons call calls ih =>
      rw [skippedItems, itemsOf_cons]
      refine List.Sublist.append ?_ (ih _)
      split
      · exact .refl _
      · exact List.nil_sublist _

/-- **What an item that has a bucket comes to**: it is held and not skipped, or the other way
round. -/
theorem skippedItems_advance_cases (hname : item.name? = some name) :
    ((chunker.answer (.advance item)).2.held.toList =
          (chunker.room name.bucket).held.toList ++ [item] ∧
        (chunker.answer (.advance item)).2.skipped = chunker.skipped) ∨
      (chunker.answer (.advance item)).2.held.toList = (chunker.room name.bucket).held.toList ∧
        (chunker.answer (.advance item)).2.skipped = chunker.skipped + 1 := by
  have hkept := (chunker.items_ended_append name.bucket).2
  rw [answer_advance hname]
  rcases (chunker.room name.bucket).held_take_cases name item with
    ⟨hheld, hskipped⟩ | ⟨hheld, hskipped⟩
  · exact .inl ⟨by rw [hheld, Array.toList_push], hskipped.trans hkept⟩
  · exact .inr ⟨by rw [hheld], by rw [hskipped, hkept]⟩

/-- Nothing is skipped by asking for the number of skipped items. -/
theorem skippedItems_takeSkipped (chunker : Chunker) (calls : List Call) :
    chunker.skippedItems (.takeSkipped :: calls) = chunker.takeSkipped.2.skippedItems calls := by
  have hnone : ¬chunker.skipped < (chunker.answer .takeSkipped).2.skipped := Nat.not_lt_zero _
  rw [skippedItems, if_neg hnone]
  rfl

/-- **Every skipped item is counted once**, whenever it is asked for. -/
theorem countOf_answers (h : Feeds calls) :
    countOf (chunker.answers (calls ++ closing)) =
      chunker.skipped + (chunker.skippedItems calls).length := by
  induction h generalizing chunker with
  | nil => exact chunker.answers_closing.2
  | @advance item name calls hname _ ih =>
      have hcount : (chunker.answer (.advance item)).1.count = 0 := by
        rw [answer_advance hname]
        rfl
      rw [List.cons_append, answers, countOf_cons, ih, skippedItems, List.length_append, hcount]
      rcases @skippedItems_advance_cases chunker item name hname with
        ⟨-, hskipped⟩ | ⟨-, hskipped⟩
      · rw [hskipped, if_neg (lt_irrefl _), List.length_nil]
        omega
      · rw [hskipped, if_pos (Nat.lt_succ_self _)]
        simp only [Call.item?, Option.toList_some, List.length_singleton]
        omega
  | takeSkipped _ ih =>
      have hcount : (chunker.answer .takeSkipped).1.count = chunker.skipped := rfl
      have hzero : (chunker.answer .takeSkipped).2.skipped = 0 := rfl
      rw [List.cons_append, answers, countOf_cons, ih, skippedItems_takeSkipped, hcount, hzero,
        Nat.zero_add]
      rfl

/-- Dropping from a list, without repetition, what a part of it has. -/
theorem filter_not_mem_cons {item : Item} {items dropped : List Item} (hitem : item ∉ items)
    (hsub : dropped ⊆ items) :
    (item :: items).filter (· ∉ dropped) = item :: items.filter (· ∉ dropped) ∧
      (item :: items).filter (· ∉ item :: dropped) = items.filter (· ∉ dropped) := by
  constructor
  · exact List.filter_cons_of_pos (decide_eq_true fun h => hitem (hsub h))
  · rw [List.filter_cons_of_neg (by simp)]
    refine List.filter_congr fun other hother => ?_
    have hne : other ≠ item := fun heq => hitem (heq ▸ hother)
    simp [hne]

/-- **The chunks have all items but the skipped ones**, in their order. -/
theorem flatMap_items_answers (hfits : chunker.Fits) (h : Feeds calls)
    (hnodup : (itemsOf calls).Nodup) :
    (chunksOf (chunker.answers (calls ++ closing))).flatMap Chunk.items =
      chunker.held.toList ++ (itemsOf calls).filter (· ∉ chunker.skippedItems calls) := by
  induction h generalizing chunker with
  | nil =>
      rw [List.nil_append, chunker.answers_closing.1, (finish_eq hfits).1]
      exact (List.append_nil _).symm
  | @advance item name calls hname _ ih =>
      rw [itemsOf_cons] at hnodup
      have hlater := ih (hfits.answer (.advance item)).1 (List.nodup_append.1 hnodup).2.1
      have hitem : item ∉ itemsOf calls := (List.nodup_cons.1 hnodup).1
      obtain ⟨hkept, hdropped⟩ := filter_not_mem_cons hitem
        ((chunker.answer (.advance item)).2.skippedItems_sublist calls).subset
      have hended : (chunker.answer (.advance item)).1.chunk? = chunker.ended name.bucket := by
        rw [answer_advance hname]
        rfl
      rw [List.cons_append, answers, chunksOf_cons, List.flatMap_append, hlater, itemsOf_cons,
        skippedItems, hended, ← (chunker.items_ended_append name.bucket).1, Call.item?,
        Option.toList_some, List.singleton_append, List.append_assoc, List.append_cancel_left_eq]
      -- an item that is not skipped is held, and comes before all that are held later
      rcases @skippedItems_advance_cases chunker item name hname with
        ⟨hheld, hskipped⟩ | ⟨hheld, hskipped⟩
      · rw [hheld, hskipped, if_neg (lt_irrefl _), List.nil_append, hkept, List.append_assoc,
          List.singleton_append]
      · rw [hheld, hskipped, if_pos (Nat.lt_succ_self _), List.singleton_append, hdropped]
  | takeSkipped _ ih =>
      have hlater := ih (hfits.answer .takeSkipped).1 hnodup
      rw [List.cons_append, answers, chunksOf_cons, List.flatMap_append, hlater,
        skippedItems_takeSkipped]
      rfl

/-! ### The chunks are tiles -/

/-- A chunker that counts otherwise how many items it has skipped. -/
def recount (change : Nat → Nat) (chunker : Chunker) : Chunker :=
  { chunker with skipped := change chunker.skipped }

/-! The cutting does not depend on how many items it has skipped. -/

/-- Ending a chunk does not look at the number of skipped items. -/
theorem flush_recount (change : Nat → Nat) (chunker : Chunker) (last : Option String) :
    (chunker.recount change).flush last =
      ((chunker.flush last).1, (chunker.flush last).2.recount change) := by
  obtain ⟨_, _, _, current, _, _, _⟩ := chunker
  cases current <;> rfl

/-- Neither does ending the last one. -/
theorem finish_recount (change : Nat → Nat) (chunker : Chunker) :
    (chunker.recount change).finish =
      (chunker.finish.1, chunker.finish.2.recount change) := by
  rw [finish, finish, flush_recount]
  rfl

/-- Nor making room for an item. -/
theorem makeRoom_recount (change : Nat → Nat) (chunker : Chunker) (bucket : String) :
    (chunker.recount change).makeRoom bucket =
      ((chunker.makeRoom bucket).1, (chunker.makeRoom bucket).2.recount change) := by
  have hany : (chunker.recount change).bucket.any (· ≠ bucket) = true ↔
      chunker.bucket.any (· ≠ bucket) = true := Iff.rfl
  have hsize : max (chunker.recount change).capacity 1 ≤ (chunker.recount change).held.size ↔
      max chunker.capacity 1 ≤ chunker.held.size := Iff.rfl
  rw [makeRoom, makeRoom]
  by_cases hother : chunker.bucket.any (· ≠ bucket) = true
  · rw [if_pos hother, if_pos (hany.2 hother), flush_recount]
    rfl
  rw [if_neg hother, if_neg (hany.not.2 hother)]
  by_cases hfull : max chunker.capacity 1 ≤ chunker.held.size
  · rw [if_pos hfull, if_pos (hsize.2 hfull)]
    dsimp only
    rw [flush_recount]
    rfl
  · rw [if_neg hfull, if_neg (hsize.not.2 hfull)]

/-- So the chunk that ends before an item is the same, and so is the state in front of the item. -/
theorem ended_recount (change : Nat → Nat) (chunker : Chunker) (bucket : String) :
    (chunker.recount change).ended bucket = chunker.ended bucket ∧
      (chunker.recount change).room bucket = (chunker.room bucket).recount change := by
  rw [ended, room, makeRoom_recount]
  exact ⟨rfl, rfl⟩

/-- Whether an item is skipped does not depend on how many are. -/
theorem skip?_recount (change : Nat → Nat) (chunker : Chunker) (bucket key : String) :
    (chunker.recount change).skip? bucket key =
      ((chunker.skip? bucket key).1, (chunker.skip? bucket key).2.recount change) := by
  have hdigests : (chunker.recount change).digests = chunker.digests := rfl
  have hopen : (chunker.recount change).openThrough.any (key ≤ ·) = true ↔
      chunker.openThrough.any (key ≤ ·) = true := Iff.rfl
  rw [skip?, skip?, hdigests]
  cases chunker.digests with
  | none => rfl
  | some index =>
      dsimp only
      by_cases hspan : chunker.openThrough.any (key ≤ ·) = true
      · rw [if_pos hspan, if_pos (hopen.2 hspan)]
      · rw [if_neg hspan, if_neg (hopen.not.2 hspan)]
        rfl

/-- Once the number is asked for, it makes no difference for what comes. -/
theorem take_recount_takeSkipped (change : Nat → Nat) (chunker : Chunker) (name : ObjectName)
    (item : Item) :
    ((chunker.recount change).take name item).takeSkipped.2 =
      (chunker.take name item).takeSkipped.2 := by
  have hempty : (chunker.recount change).held.isEmpty = true ↔ chunker.held.isEmpty = true :=
    Iff.rfl
  rw [take, take]
  by_cases hheld : chunker.held.isEmpty = true
  · rw [if_pos hheld, if_pos (hempty.2 hheld), skip?_recount]
    rcases chunker.skip? name.bucket name.key with ⟨_ | _, next⟩ <;> rfl
  · rw [if_neg hheld, if_neg (hempty.not.2 hheld)]
    rfl

/-- The tiles of the items to come are the same whatever the number is. -/
theorem tiles_recount (change : Nat → Nat) (chunker : Chunker) (items : List Item) :
    (chunker.recount change).tiles items = chunker.tiles items := by
  cases items with
  | nil => rw [tiles, tiles, finish_recount]
  | cons item items =>
      rw [tiles, tiles]
      cases item.name? with
      | none => rfl
      | some name =>
          obtain ⟨hended, hroom⟩ := chunker.ended_recount change name.bucket
          dsimp only
          rw [hended, hroom, take_recount_takeSkipped]
          rfl

/-- **The chunks of the answers are the tiles that are compared.** -/
theorem chunks_answers (h : Feeds calls) :
    chunksOf (chunker.answers (calls ++ closing)) = chunker.chunks (itemsOf calls) := by
  induction h generalizing chunker with
  | nil =>
      rw [List.nil_append, chunker.answers_closing.1]
      change _ = (chunker.finish.1.toList.map Tile.compared).filterMap Tile.chunk?
      cases chunker.finish.1 <;> rfl
  | @advance item name calls hname _ ih =>
      have hrest : ((chunker.room name.bucket).take name item).takeSkipped.2.tiles (itemsOf calls) =
          ((chunker.room name.bucket).take name item).tiles (itemsOf calls) :=
        tiles_recount (fun _ => 0) _ _
      rw [List.cons_append, answers, chunksOf_cons, ih, itemsOf_cons, answer_advance hname,
        Call.item?, Option.toList_some, List.singleton_append, chunks_cons hname, following, chunks,
        chunks, hrest]
      rfl
  | takeSkipped _ ih =>
      rw [List.cons_append, answers, chunksOf_cons, ih]
      exact congrArg (List.filterMap Tile.chunk?) (chunker.tiles_recount (fun _ => 0) _)

end Chunker

/-! ### A whole cutting -/

/-- A list of items that is cut: the calls that take them and now and then ask how many were
skipped. The last chunk is ended afterwards. -/
structure Cutting where
  /-- The greatest number of items of a chunk; 0 counts as 1. -/
  capacity : Nat
  digests : Option DigestIndex
  calls : List Chunker.Call

namespace Cutting

/-- The chunker at the start. -/
def chunker (cutting : Cutting) : Chunker :=
  .start cutting.capacity cutting.digests

/-- All calls, those after the last item included. -/
def allCalls (cutting : Cutting) : List Chunker.Call :=
  cutting.calls ++ Chunker.closing

/-- What the chunker answers. -/
def answers (cutting : Cutting) : List Chunker.Answer :=
  cutting.chunker.answers cutting.allCalls

/-- The items that are cut. -/
def items (cutting : Cutting) : List Item :=
  Chunker.itemsOf cutting.calls

/-- The chunks that they are cut into. -/
def chunks (cutting : Cutting) : List Chunk :=
  Chunker.chunksOf cutting.answers

/-- The items that are skipped. -/
def skipped (cutting : Cutting) : List Item :=
  cutting.chunker.skippedItems cutting.calls

/-- The tiles: the chunks, and between them the spans that are consumed. -/
def tiles (cutting : Cutting) : List Tile :=
  cutting.chunker.tiles cutting.items

/-- Whether a cutting takes items of buckets in key order, and no chunk is ended before its end. -/
structure Ordered (cutting : Cutting) : Prop where
  /-- The cutting ends only once all items have come. -/
  unfinished : .finish ∉ cutting.calls
  /-- The items come in key order. -/
  ascending : AscendingByKey Item.key cutting.items
  /-- Each of them has a bucket. -/
  named : ∀ item ∈ cutting.items, '/' ∈ item.key.toList

/-- What a cutting comes to. -/
structure IsTiled (cutting : Cutting) : Prop where
  /-- No item is refused. -/
  accepted : ∀ error, .refused error ∉ cutting.answers
  /-- The chunks have all items but the skipped ones, in their order. -/
  items_eq : cutting.chunks.flatMap Chunk.items =
    cutting.items.filter (· ∉ cutting.skipped)
  /-- Skipped items are some of the items, in their order. -/
  skipped_sublist : cutting.skipped.Sublist cutting.items
  /-- All answers together count the skipped items. -/
  count_eq : Chunker.countOf cutting.answers = cutting.skipped.length
  /-- No chunk is larger than it may be. -/
  length_le : ∀ chunk ∈ cutting.chunks, chunk.items.length ≤ max cutting.capacity 1
  /-- At no time are more items held. -/
  size_le : ∀ calls, calls <+: cutting.allCalls →
    (cutting.chunker.after calls).held.size ≤ max cutting.capacity 1
  /-- The items of a chunk are of its bucket, after its marker and not after its last key. -/
  contains : ∀ chunk ∈ cutting.chunks, ∀ item ∈ chunk.items,
    ∃ name, item.name? = some name ∧ chunk.range.Contains name
  /-- The tiles that are compared are the chunks. -/
  chunks_eq : cutting.chunks = cutting.tiles.filterMap Tile.chunk?
  /-- The spans are answers of the index about where they start. -/
  spans : ∀ span, .skipped span ∈ cutting.tiles → ∃ index last, cutting.digests = some index ∧
    span.last = some last ∧ index.endOfSpan? span.bucket span.marker = some last
  /-- Each tile starts where the one before it ends, or with a new bucket if that one was open. -/
  tiling : (cutting.items = [] ∧ cutting.tiles = []) ∨
    ∃ bucket, Tiling bucket none (cutting.tiles.map Tile.range)
  /-- Of two chunks of a bucket, the first has an end, and the second does not start before it. -/
  apart : cutting.chunks.Pairwise fun first second => first.range.bucket = second.range.bucket →
    ∃ last start, first.range.last = some last ∧ second.range.marker = some start ∧ last ≤ start
  /-- In each bucket that occurs, a chunk runs to its end. -/
  exists_open : ∀ item ∈ cutting.items, ∀ bucket, item.bucket? = some bucket →
    ∃ chunk ∈ cutting.chunks, chunk.range.bucket = bucket ∧ chunk.range.last = none
  /-- Each key of the buckets that occur lies in one tile. -/
  covered : ∀ (item : Item) (bucket : String), item.bucket? = some bucket →
    (∃ other ∈ cutting.items, other.bucket? = some bucket) →
      cutting.tiles.countP (fun tile => tile.range.covers item) = 1
  /-- A skipped item lies in a span. -/
  skipped_covered : ∀ item ∈ cutting.skipped,
    ∃ span, .skipped span ∈ cutting.tiles ∧ span.covers item = true

variable {cutting : Cutting}

/-- A span is an answer of the index about where it starts. -/
theorem exists_answer {span : Range} (hspan : .skipped span ∈ cutting.tiles) :
    ∃ index last, cutting.digests = some index ∧ span.last = some last ∧
      index.endOfSpan? span.bucket span.marker = some last :=
  Chunker.endOfSpan?_of_mem_consumed (Chunker.mem_consumed_iff.2 hspan)

section Ordered

variable (h : cutting.Ordered)

include h

/-- Every item of an ordered cutting has a bucket. -/
theorem Ordered.exists_name {item : Item} (hitem : item ∈ cutting.items) :
    ∃ name, item.name? = some name :=
  Item.exists_name?_eq_some_iff.2 (h.named item hitem)

/-- The calls of an ordered cutting feed a chunker. -/
theorem Ordered.feeds : Chunker.Feeds cutting.calls :=
  Chunker.feeds_of_named h.unfinished fun _ => h.exists_name

/-- Its chunks are the tiles that are compared. -/
theorem Ordered.chunks_eq : cutting.chunks = cutting.tiles.filterMap Tile.chunk? :=
  Chunker.chunks_answers h.feeds

/-- A chunk comes out exactly if it is one of these tiles. -/
theorem Ordered.mem_chunks_iff {chunk : Chunk} :
    chunk ∈ cutting.chunks ↔ .compared chunk ∈ cutting.tiles := by
  rw [h.chunks_eq]
  exact Chunker.mem_chunks_iff

/-- The chunks have all items but the skipped ones. -/
theorem Ordered.items_eq : cutting.chunks.flatMap Chunk.items =
    cutting.items.filter (· ∉ cutting.skipped) :=
  Chunker.flatMap_items_answers (Chunker.fits_start _ _) h.feeds
    (h.ascending.imp fun hlt heq => absurd (heq ▸ hlt) (lt_irrefl _))

/-- Where there is something to cut, the tiles begin with a bucket. -/
theorem Ordered.tiling_cases : (cutting.items = [] ∧ cutting.tiles = []) ∨
    ∃ bucket, Tiling bucket none (cutting.tiles.map Tile.range) := by
  rcases Chunker.start_cases cutting.capacity cutting.digests h.ascending h.named with
    ⟨hnil, htiles⟩ | ⟨bucket, hready, -, htiles⟩
  · exact .inl ⟨hnil, htiles⟩
  · refine .inr ⟨bucket, ?_⟩
    rw [tiles, chunker, htiles]
    exact hready.tiling

/-- Of two chunks of a bucket, the first has an end, and the second does not start before it. -/
theorem Ordered.apart : cutting.chunks.Pairwise fun first second =>
    first.range.bucket = second.range.bucket →
      ∃ last start, first.range.last = some last ∧ second.range.marker = some start ∧
        last ≤ start := by
  rw [h.chunks_eq]
  rcases h.tiling_cases with ⟨-, hnil⟩ | ⟨bucket, htiling⟩
  · rw [hnil]
    exact .nil
  · refine (List.pairwise_map.1 htiling.pairwise_marker).filterMap _ ?_
    rintro (_ | _) (_ | _) hapart first ⟨⟩ second ⟨⟩
    exact hapart

/-- In each bucket that occurs, a chunk runs to its end. -/
theorem Ordered.exists_open {item : Item} (hitem : item ∈ cutting.items) {bucket : String}
    (hbucket : item.bucket? = some bucket) :
    ∃ chunk ∈ cutting.chunks, chunk.range.bucket = bucket ∧ chunk.range.last = none := by
  rcases h.tiling_cases with ⟨hnil, -⟩ | ⟨_, htiling⟩
  · rw [hnil] at hitem
    cases hitem
  · obtain ⟨tile, htile, hsame⟩ := (Chunker.mem_buckets_iff cutting.capacity cutting.digests
      h.ascending h.named).2 ⟨item, hitem, hbucket⟩
    obtain ⟨range, hrange, hopen⟩ := htiling.exists_open
      (List.mem_map.2 ⟨tile.range, List.mem_map_of_mem htile, hsame⟩)
    obtain ⟨tile, htile, rfl⟩ := List.mem_map.1 hrange
    cases tile with
    | compared chunk => exact ⟨chunk, h.mem_chunks_iff.2 htile, hopen⟩
    | skipped span =>
        obtain ⟨_, last, -, hlast, -⟩ := exists_answer htile
        exact nomatch hlast.symm.trans hopen.2

/-- Each key of the buckets that occur lies in one tile. -/
theorem Ordered.covered {item : Item} {bucket : String} (hbucket : item.bucket? = some bucket)
    (hoccurs : ∃ other ∈ cutting.items, other.bucket? = some bucket) :
    cutting.tiles.countP (fun tile => tile.range.covers item) = 1 := by
  refine countP_eq_one ?_ ((Chunker.exists_covers_iff cutting.capacity cutting.digests h.ascending
    h.named).2 ⟨bucket, hbucket, hoccurs⟩)
  refine (Chunker.pairwise_tiles cutting.capacity cutting.digests h.ascending h.named).imp ?_
  rintro s t hapart ⟨hs, ht⟩
  exact lt_irrefl _ (hapart item item hs ht)

/-- A skipped item lies in a span, since it is in no chunk. -/
theorem Ordered.skipped_covered {item : Item} (hitem : item ∈ cutting.skipped) :
    ∃ span, .skipped span ∈ cutting.tiles ∧ span.covers item = true := by
  have hmem : item ∈ cutting.items := (Chunker.skippedItems_sublist _ _).subset hitem
  rcases Chunker.exists_chunk_or_span cutting.capacity cutting.digests h.ascending h.named hmem with
    ⟨chunk, hchunk, hin⟩ | ⟨span, hspan, hcovers⟩
  · have hkept : item ∈ cutting.chunks.flatMap Chunk.items :=
      List.mem_flatMap.2 ⟨chunk, h.mem_chunks_iff.2 (Chunker.mem_chunks_iff.1 hchunk), hin⟩
    rw [h.items_eq, List.mem_filter, decide_eq_true_eq] at hkept
    exact absurd hitem hkept.2
  · exact ⟨span, Chunker.mem_consumed_iff.1 hspan, hcovers⟩

/-- **The cutting tiles what it cuts**, whatever its capacity and its digests are, and whenever the
skipped items are asked for.

When skipped items are asked for makes no difference to the chunks (`Ordered.chunks_eq`), so the
tiling of a plain cutting carries over; the counting is by induction on the calls. -/
theorem isTiled_of_ordered : cutting.IsTiled where
  accepted := Chunker.refused_not_mem_answers h.feeds
  items_eq := h.items_eq
  skipped_sublist := Chunker.skippedItems_sublist _ _
  count_eq := (Chunker.countOf_answers h.feeds).trans (Nat.zero_add _)
  length_le _ hchunk := (Chunker.fits_start _ _).length_le_of_mem hchunk
  size_le calls _ := by
    obtain ⟨hfits, hcapacity⟩ := (Chunker.fits_start cutting.capacity cutting.digests).after calls
    exact hfits.size_le.trans_eq (congrArg (max · 1) hcapacity)
  contains chunk hchunk item hitem := by
    rw [Chunker.items_eq cutting.capacity cutting.digests h.ascending h.named
      (h.mem_chunks_iff.1 hchunk)] at hitem
    exact Range.covers_iff.1 (List.mem_filter.1 hitem).2
  chunks_eq := h.chunks_eq
  spans _ := exists_answer
  tiling := h.tiling_cases
  apart := h.apart
  exists_open _ hitem _ := h.exists_open hitem
  covered _ _ := h.covered
  skipped_covered _ := h.skipped_covered

end Ordered

/-- Two buckets and a capacity of 0. One span holds two items, and two spans of a chain hold one
each. -/
def spanned : Cutting where
  capacity := 0
  digests := some (DigestTable.index [⟨"a", none, "2"⟩, ⟨"b", none, "1"⟩, ⟨"b", some "1", "2"⟩])
  calls := [.advance ⟨"a/1", "x"⟩, .advance ⟨"a/2", "x"⟩, .takeSkipped, .advance ⟨"a/3", "x"⟩,
    .advance ⟨"a/4", "x"⟩, .advance ⟨"b/1", "x"⟩, .advance ⟨"b/2", "x"⟩, .advance ⟨"b/3", "x"⟩]

/-- The statement holds of a cutting that consumes spans. -/
theorem isTiled_of_ordered_spanned : spanned.Ordered ∧ spanned.IsTiled :=
  have hordered : spanned.Ordered := ⟨by decide, by decide, by decide⟩
  ⟨hordered, isTiled_of_ordered hordered⟩

end Cutting

end Reconcile
