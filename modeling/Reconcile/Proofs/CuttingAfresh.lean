import Reconcile.Proofs.Cutting

/-!
# Nothing leaks from one bucket into the next

A chunker keeps what it needs of the bucket it is in: the items of the chunk that is being filled,
the marker and the span that is open. `Chunker.IsIsolated` says that none of it outlives the bucket
or the input, whatever is asked and in whatever order:

* an item whose key has no bucket is refused and changes nothing, so that all other answers are the
  same without it;
* after the last chunk has ended, and from an item of another bucket on, a chunker answers as one
  that has just been made. All that is carried over is the number of skipped items that has not been
  told yet, which is added the next time it is asked for.

The invariant is `BeginsAfresh`: a chunker that is in no bucket is as at the start, but for that
number. The main result is `Chunker.isIsolated`. The items may come in any order, and a chunker may
be asked to end its last chunk at any time and as often as one likes.
-/

namespace Reconcile

namespace Chunker

/-! ### Refused items -/

/-- Whether a call is about an item whose key has no bucket. -/
def Call.lacksBucket : Call → Bool
  | advance item => '/' ∉ item.key.toList
  | finish | takeSkipped => false

/-- Whether an answer refuses an item. -/
def Answer.isRefusal : Answer → Bool
  | refused _ => true
  | ended _ | counted _ => false

variable {capacity : Nat} {digests : Option DigestIndex} {chunker : Chunker} {call : Call}
  {calls : List Call} {item : Item} {name : ObjectName}

/-- An item is refused exactly if its key has no bucket, and the error names the key. -/
theorem answer_eq_refused_iff {error : KeyError} :
    (chunker.answer call).1 = .refused error ↔
      ∃ item, call = .advance item ∧ '/' ∉ item.key.toList ∧ error = .missingBucket item.key := by
  cases call with
  | advance item =>
      cases hname : item.name? with
      | none =>
          rw [answer_advance_of_none hname]
          constructor
          · rintro ⟨⟩
            exact ⟨item, rfl, Item.name?_eq_none_iff.1 hname, rfl⟩
          · rintro ⟨_, ⟨⟩, -, rfl⟩
            rfl
      | some name =>
          rw [answer_advance hname]
          refine ⟨nofun, ?_⟩
          rintro ⟨_, ⟨⟩, hkey, -⟩
          exact absurd (Item.exists_name?_eq_some_iff.1 ⟨name, hname⟩) hkey
  | finish => exact ⟨nofun, nofun⟩
  | takeSkipped => exact ⟨nofun, nofun⟩

/-- A chunker refuses exactly the items whose key has no bucket. -/
theorem isRefusal_answer (chunker : Chunker) (call : Call) :
    (chunker.answer call).1.isRefusal = call.lacksBucket := by
  cases call with
  | advance item =>
      cases hname : item.name? with
      | none =>
          rw [answer_advance_of_none hname]
          exact (decide_eq_true (Item.name?_eq_none_iff.1 hname)).symm
      | some name =>
          rw [answer_advance hname]
          exact (decide_eq_false (not_not.2 (Item.exists_name?_eq_some_iff.1 ⟨name, hname⟩))).symm
  | finish => rfl
  | takeSkipped => rfl

/-- **A refused item changes nothing.** -/
theorem answer_of_isRefusal (h : (chunker.answer call).1.isRefusal = true) :
    (chunker.answer call).2 = chunker := by
  cases call with
  | advance item =>
      cases hname : item.name? with
      | none => rw [answer_advance_of_none hname]
      | some name =>
          rw [answer_advance hname] at h
          cases h
  | finish => cases h
  | takeSkipped => cases h

/-- Without the calls that are refused, all other answers are the same. -/
theorem answers_filter (chunker : Chunker) (calls : List Call) :
    chunker.answers (calls.filter (!·.lacksBucket)) =
      (chunker.answers calls).filter (!·.isRefusal) := by
  induction calls generalizing chunker with
  | nil => rfl
  | cons call calls ih =>
      rw [answers, List.filter_cons, List.filter_cons, isRefusal_answer, ← ih]
      cases hlacks : call.lacksBucket with
      | true => rw [answer_of_isRefusal ((chunker.isRefusal_answer call).trans hlacks)]; rfl
      | false => rfl

/-! ### Skipped items that have not been told of -/

/-- A chunker that has skipped some more items. -/
def carrying (pending : Nat) (chunker : Chunker) : Chunker :=
  chunker.recount (pending + ·)

/-- The answers of a chunker that has skipped some more items: they are told of the next time. -/
def carry (pending : Nat) : List Answer → List Answer
  | [] => []
  | .counted count :: answers => .counted (pending + count) :: answers
  | answer :: answers => answer :: carry pending answers

/-- Taking an item keeps what has been skipped before. -/
theorem take_carrying (pending : Nat) (chunker : Chunker) (name : ObjectName) (item : Item) :
    (chunker.carrying pending).take name item = (chunker.take name item).carrying pending := by
  have hempty : (chunker.carrying pending).held.isEmpty = true ↔ chunker.held.isEmpty = true :=
    Iff.rfl
  rw [take, take]
  by_cases hheld : chunker.held.isEmpty = true
  · rw [if_pos hheld, if_pos (hempty.2 hheld), carrying, skip?_recount]
    rcases chunker.skip? name.bucket name.key with ⟨_ | _, next⟩ <;> rfl
  · rw [if_neg hheld, if_neg (hempty.not.2 hheld)]
    rfl

/-- A call that takes an item or ends the last chunk is answered alike, whatever has been skipped
before. -/
theorem answer_carrying (pending : Nat) (chunker : Chunker) (h : call ≠ .takeSkipped) :
    (chunker.carrying pending).answer call =
      ((chunker.answer call).1, (chunker.answer call).2.carrying pending) := by
  cases call with
  | advance item =>
      cases hname : item.name? with
      | none => rw [answer_advance_of_none hname, answer_advance_of_none hname]
      | some name =>
          obtain ⟨hended, hroom⟩ := chunker.ended_recount (pending + ·) name.bucket
          rw [answer_advance hname, answer_advance hname, carrying, hended, hroom]
          exact congrArg (Prod.mk _) (take_carrying pending _ name item)
  | finish => rw [answer, answer, carrying, finish_recount]; rfl
  | takeSkipped => exact absurd rfl h

/-- Only the number of skipped items is answered with a number. -/
theorem eq_takeSkipped_of_answer {count : Nat} (h : (chunker.answer call).1 = .counted count) :
    call = .takeSkipped := by
  cases call with
  | advance item =>
      cases hname : item.name? with
      | none => rw [answer_advance_of_none hname] at h; cases h
      | some name => rw [answer_advance hname] at h; cases h
  | finish => cases h
  | takeSkipped => rfl

/-- **What has been skipped before shows in one number alone**, the next that is asked for. -/
theorem answers_carrying (pending : Nat) (chunker : Chunker) (calls : List Call) :
    (chunker.carrying pending).answers calls = carry pending (chunker.answers calls) := by
  induction calls generalizing chunker with
  | nil => rfl
  | cons call calls ih =>
      rw [answers, answers]
      by_cases hcall : call = .takeSkipped
      · rw [hcall]
        rfl
      · rw [answer_carrying pending chunker hcall, ih]
        cases hanswer : (chunker.answer call).1 with
        | counted count => exact absurd (eq_takeSkipped_of_answer hanswer) hcall
        | ended chunk => rfl
        | refused error => rfl

/-! ### The bucket that is being cut -/

/-- The bucket that is being cut after a call. -/
def Call.bucketAfter (current : Option String) : Call → Option String
  | advance item => item.bucket?.or current
  | finish => none
  | takeSkipped => current

/-- The bucket that is being cut after some calls: that of the last item which has one, unless the
last chunk has ended since. -/
def lastBucket (calls : List Call) : Option String :=
  calls.foldl Call.bucketAfter none

/-- After a call, the bucket that is being cut is the one that `Call.bucketAfter` tells. -/
theorem bucket_answer (chunker : Chunker) (call : Call) :
    (chunker.answer call).2.bucket = call.bucketAfter chunker.bucket := by
  cases call with
  | advance item =>
      cases hname : item.name? with
      | none => rw [answer_advance_of_none hname, Call.bucketAfter, Item.bucket?, hname]; rfl
      | some name =>
          rw [answer_advance hname, bucket_take, Call.bucketAfter, Item.bucket?, hname]
          rfl
  | finish => rfl
  | takeSkipped => rfl

/-- Which bucket is being cut can be told from the calls alone. -/
theorem bucket_after (capacity : Nat) (digests : Option DigestIndex) (calls : List Call) :
    ((start capacity digests).after calls).bucket = lastBucket calls := by
  have hafter : ∀ chunker : Chunker,
      (chunker.after calls).bucket = calls.foldl Call.bucketAfter chunker.bucket := by
    induction calls with
    | nil => exact fun _ => rfl
    | cons call calls ih =>
        intro chunker
        rw [List.foldl_cons, ← bucket_answer]
        exact ih _
  exact hafter _

/-- **The invariant.** The settings stay, and in no bucket a chunker is as at the start, but for the
number of items that it has skipped. -/
structure BeginsAfresh (capacity : Nat) (digests : Option DigestIndex) (chunker : Chunker) :
    Prop where
  /-- It holds no more than it may, and nothing in no bucket. -/
  fits : chunker.Fits
  /-- The capacity is that of the start. -/
  capacity_eq : chunker.capacity = capacity
  /-- The digests are those of the start. -/
  digests_eq : chunker.digests = digests
  /-- In no bucket, only the number of skipped items is left of what came before. -/
  eq_start : chunker.bucket = none → chunker = (start capacity digests).carrying chunker.skipped

/-- A chunker starts as it begins afresh. -/
theorem beginsAfresh_start (capacity : Nat) (digests : Option DigestIndex) :
    (start capacity digests).BeginsAfresh capacity digests :=
  ⟨fits_start capacity digests, rfl, rfl, fun _ => rfl⟩

namespace BeginsAfresh

/-- When the last chunk has ended, a chunker is as at the start. -/
theorem finish_eq_start (h : chunker.BeginsAfresh capacity digests) :
    chunker.finish.2 = (start capacity digests).carrying chunker.skipped := by
  cases hbucket : chunker.bucket with
  | none =>
      have hstart := h.eq_start hbucket
      rw [hstart]
      rfl
  | some bucket =>
      rw [finish, flush, hbucket, ← h.capacity_eq, ← h.digests_eq]
      rfl

/-- No call breaks the invariant. -/
theorem answer (h : chunker.BeginsAfresh capacity digests) (call : Call) :
    (chunker.answer call).2.BeginsAfresh capacity digests := by
  obtain ⟨hfits, hcapacity⟩ := h.fits.answer call
  cases call with
  | advance item =>
      cases hname : item.name? with
      | none =>
          rw [answer_advance_of_none hname]
          exact h
      | some name =>
          rw [answer_advance hname] at hfits hcapacity ⊢
          refine ⟨hfits, hcapacity.trans h.capacity_eq, ?_, fun hnone => ?_⟩
          · rw [digests_take, digests_room, h.digests_eq]
          · rw [bucket_take] at hnone
            cases hnone
  | finish =>
      -- the end of a chunk leaves the chunker as at its start
      have hfinish := h.finish_eq_start
      refine ⟨hfits, hcapacity.trans h.capacity_eq, ?_, fun _ => ?_⟩
      · rw [Chunker.answer, hfinish]
        rfl
      · rw [Chunker.answer, hfinish]
        rfl
  | takeSkipped =>
      refine ⟨hfits, h.capacity_eq, h.digests_eq, fun hnone => ?_⟩
      have hstart := h.eq_start hnone
      rw [Chunker.answer, hstart]
      rfl

/-- The invariant holds after any calls. -/
theorem after (h : chunker.BeginsAfresh capacity digests) (calls : List Call) :
    (chunker.after calls).BeginsAfresh capacity digests := by
  induction calls generalizing chunker with
  | nil => exact h
  | cons call calls ih => exact ih (h.answer call)

/-- **An item of another bucket is taken as by a new chunker.** What was held before ends as a
chunk, whose range runs to the end of the bucket. -/
theorem answer_advance_of_ne (h : chunker.BeginsAfresh capacity digests) {current : String}
    (hcurrent : chunker.bucket = some current) (hname : item.name? = some name)
    (hne : current ≠ name.bucket) :
    ((start capacity digests).answer (.advance item)).1 = .ended none ∧
      chunker.answer (.advance item) =
        (.ended (some ⟨⟨current, chunker.marker, none⟩, chunker.held.toList⟩),
          ((start capacity digests).answer (.advance item)).2.carrying chunker.skipped) := by
  have hfull : ¬max capacity 1 ≤ (#[] : Array Item).size := by
    rw [Array.size_empty]
    omega
  have hfresh : (start capacity digests).makeRoom name.bucket = (none, start capacity digests) := by
    rw [makeRoom, start, if_neg (by simp), if_neg hfull]
  obtain ⟨hended, hroom⟩ := makeRoom_of_ne hcurrent hne
  have hcarrying : chunker.room name.bucket =
      ((start capacity digests).room name.bucket).carrying chunker.skipped := by
    rw [hroom, room, hfresh, ← h.capacity_eq, ← h.digests_eq]
    rfl
  constructor
  · rw [answer_advance hname, ended, hfresh]
  · rw [answer_advance hname, answer_advance hname, hended, hcarrying, take_carrying]

end BeginsAfresh

/-! ### Isolation -/

/-- **Refused items are harmless, and nothing leaks from one bucket or input into the next.** -/
structure IsIsolated (capacity : Nat) (digests : Option DigestIndex) : Prop where
  /-- An item is refused exactly if its key has no bucket. -/
  refused_iff : ∀ calls call error,
    (((start capacity digests).after calls).answer call).1 = .refused error ↔
      ∃ item, call = .advance item ∧ '/' ∉ item.key.toList ∧ error = .missingBucket item.key
  /-- A refused item changes nothing. -/
  unchanged : ∀ calls call,
    (((start capacity digests).after calls).answer call).1.isRefusal = true →
      (((start capacity digests).after calls).answer call).2 = (start capacity digests).after calls
  /-- Without the refused items all other answers are the same. -/
  answers_filter : ∀ calls,
    (start capacity digests).answers (calls.filter (!·.lacksBucket)) =
      ((start capacity digests).answers calls).filter (!·.isRefusal)
  /-- After the last chunk has ended, all answers are those of a new chunker. -/
  finished : ∀ before later,
    ((start capacity digests).after (before ++ [.finish])).answers later =
      carry ((start capacity digests).after before).takeSkipped.1
        ((start capacity digests).answers later)
  /-- From an item of another bucket on, all answers are those of a new chunker, except that the
  chunk of the bucket before ends first. -/
  entered : ∀ before item later current bucket, lastBucket before = some current →
    item.bucket? = some bucket → current ≠ bucket →
      ∃ chunk fresh, chunk.range.bucket = current ∧ chunk.range.last = none ∧
        (start capacity digests).answers (.advance item :: later) = .ended none :: fresh ∧
        ((start capacity digests).after before).answers (.advance item :: later) =
          .ended (some chunk) :: carry ((start capacity digests).after before).takeSkipped.1 fresh

/-- The last of some calls finds the chunker as the others leave it. -/
theorem after_concat (chunker : Chunker) (calls : List Call) (call : Call) :
    chunker.after (calls ++ [call]) = ((chunker.after calls).answer call).2 := by
  rw [after, List.foldl_append]
  rfl

/-- **A chunker is isolated**, with any settings.

By `BeginsAfresh` a chunker in no bucket is the one at the start but for its count, and the count
shows in one answer alone (`answers_carrying`). -/
theorem isIsolated (capacity : Nat) (digests : Option DigestIndex) :
    IsIsolated capacity digests where
  refused_iff _ _ _ := answer_eq_refused_iff
  unchanged _ _ := answer_of_isRefusal
  answers_filter := (start capacity digests).answers_filter
  finished before later := by
    have hbefore := (beginsAfresh_start capacity digests).after before
    rw [after_concat, answer, hbefore.finish_eq_start]
    exact answers_carrying _ _ later
  entered before item later current bucket hcurrent hbucket hne := by
    have hbefore := (beginsAfresh_start capacity digests).after before
    obtain ⟨name, hname, rfl⟩ := Option.map_eq_some_iff.1 hbucket
    obtain ⟨hfresh, hanswer⟩ := hbefore.answer_advance_of_ne
      ((bucket_after capacity digests before).trans hcurrent) hname hne
    rw [answers, answers, hfresh, hanswer]
    exact ⟨_, _, rfl, rfl, rfl, congrArg (List.cons _) (answers_carrying _ _ later)⟩

/-- An item that is skipped in one bucket is told of in the next. -/
example :
    (start 2 (some (DigestTable.index [⟨"a", none, "1"⟩]))).answers
        [.advance ⟨"a/1", "x"⟩, .advance ⟨"key", "x"⟩, .advance ⟨"b/1", "x"⟩, .takeSkipped] =
      [.ended none, .refused (.missingBucket "key"), .ended (some ⟨⟨"a", some "1", none⟩, []⟩),
        .counted 1] := by
  cbv

end Chunker

end Reconcile
