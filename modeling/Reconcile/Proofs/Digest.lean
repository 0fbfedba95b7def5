import Reconcile.Proofs.Range

/-!
# Following spans

`DigestIndex.climb` follows spans until one reaches an object key. `DigestIndex.climbed` lists the
spans on its way. They lie one after the other (`tiling_climbed`) and are answers of the index
(`endOfSpan?_of_mem_climbed`). A climb that does not reach the key ends before it (`isAhead_climb`);
one that does ends with a span that holds the key (`exists_span_of_climb`). A cutting climbs for a
key that does not lie in the open span (`Chunker.skip?_of_not_open`).
-/

namespace Reconcile

namespace DigestIndex

/-- The spans that are followed from a marker on until one reaches an object key. -/
def climbed (index : DigestIndex) (bucket key : String) (marker : Option String) : List Range :=
  match _h : index.next? bucket marker with
  | none => []
  | some last =>
    ⟨bucket, marker, some last⟩ ::
      if key ≤ last then [] else climbed index bucket key (some last)
  termination_by (index.terminates bucket key).wrap marker
  decreasing_by
    obtain ⟨hspan, hahead⟩ :=
      DigestIndex.next?_eq_some_iff.1 ‹index.next? bucket marker = some last›
    exact ⟨last, hspan, hahead, not_le.1 ‹¬key ≤ last›, rfl⟩

variable {index : DigestIndex} {bucket key : String} {marker : Option String}

/-- A climb follows the span at its marker, and goes on from its end unless that reaches the key. -/
theorem climb_eq (index : DigestIndex) (bucket key : String) (marker : Option String) :
    index.climb bucket key marker =
      match index.next? bucket marker with
      | none => (false, marker)
      | some last =>
        if key ≤ last then (true, some last) else index.climb bucket key (some last) := by
  rw [climb]
  split <;> rename_i h <;> rw [h]

/-- The spans of a climb are the one at its marker and, unless that reaches the key, those of the
climb from its end. -/
theorem climbed_eq (index : DigestIndex) (bucket key : String) (marker : Option String) :
    index.climbed bucket key marker =
      match index.next? bucket marker with
      | none => []
      | some last =>
        ⟨bucket, marker, some last⟩ ::
          if key ≤ last then [] else index.climbed bucket key (some last) := by
  rw [climbed]
  split <;> rename_i h <;> rw [h]

/-- Without a span the climb stays where it is. -/
theorem climb_of_none (h : index.next? bucket marker = none) :
    index.climb bucket key marker = (false, marker) ∧ index.climbed bucket key marker = [] := by
  rw [climb_eq, climbed_eq, h]
  exact ⟨rfl, rfl⟩

/-- A span that reaches the key ends the climb. -/
theorem climb_of_le {last : String} (h : index.next? bucket marker = some last)
    (hle : key ≤ last) :
    index.climb bucket key marker = (true, some last) ∧
      index.climbed bucket key marker = [⟨bucket, marker, some last⟩] := by
  rw [climb_eq, climbed_eq, h]
  exact ⟨if_pos hle, congrArg _ (if_pos hle)⟩

/-- From a span that does not reach the key the climb goes on. -/
theorem climb_of_lt {last : String} (h : index.next? bucket marker = some last)
    (hlt : last < key) :
    index.climb bucket key marker = index.climb bucket key (some last) ∧
      index.climbed bucket key marker =
        ⟨bucket, marker, some last⟩ :: index.climbed bucket key (some last) := by
  rw [climb_eq index bucket key marker, climbed_eq index bucket key marker, h]
  exact ⟨if_neg hlt.not_ge, congrArg _ (if_neg hlt.not_ge)⟩

/-- The rules of a climb: no span follows, the next span reaches the key, or it is passed. -/
theorem climb_induction (index : DigestIndex) (bucket key : String)
    {motive : Option String → Prop}
    (none : ∀ marker, index.next? bucket marker = none → motive marker)
    (reached : ∀ marker last, index.next? bucket marker = some last → key ≤ last →
      motive marker)
    (passed : ∀ marker last, index.next? bucket marker = some last → last < key →
      motive (some last) → motive marker) (marker : Option String) : motive marker := by
  induction marker using (index.terminates bucket key).induction with
  | h marker ih =>
      cases hnext : index.next? bucket marker with
      | none => exact none marker hnext
      | some last =>
          obtain ⟨hspan, hahead⟩ := next?_eq_some_iff.1 hnext
          rcases le_or_gt key last with hle | hlt
          · exact reached marker last hnext hle
          · exact passed marker last hnext hlt (ih _ ⟨last, hspan, hahead, hlt, rfl⟩)

/-- The spans that are followed lead to where the climb ends. -/
theorem tiling_climbed {ranges : List Range}
    (h : Tiling bucket (index.climb bucket key marker).2 ranges) :
    Tiling bucket marker (index.climbed bucket key marker ++ ranges) := by
  induction marker using climb_induction index bucket key with
  | none marker hnext =>
      obtain ⟨hclimb, hclimbed⟩ := climb_of_none hnext
      rw [hclimb] at h
      rwa [hclimbed]
  | reached marker last hnext hle =>
      obtain ⟨hclimb, hclimbed⟩ := climb_of_le hnext hle
      rw [hclimb] at h
      rw [hclimbed]
      exact .next (next?_eq_some_iff.1 hnext).2 h
  | passed marker last hnext hlt ih =>
      obtain ⟨hclimb, hclimbed⟩ := climb_of_lt hnext hlt
      rw [hclimb] at h
      rw [hclimbed]
      exact .next (next?_eq_some_iff.1 hnext).2 (ih h)

/-- Each span that is followed is an answer of the index. -/
theorem endOfSpan?_of_mem_climbed {span : Range} (h : span ∈ index.climbed bucket key marker) :
    span.bucket = bucket ∧ index.endOfSpan? span.bucket span.marker = span.last ∧
      span.last ≠ none := by
  induction marker using climb_induction index bucket key with
  | none marker hnext =>
      rw [(climb_of_none hnext).2] at h
      cases h
  | reached marker last hnext hle =>
      rw [(climb_of_le hnext hle).2, List.mem_singleton] at h
      subst h
      exact ⟨rfl, (next?_eq_some_iff.1 hnext).1, nofun⟩
  | passed marker last hnext hlt ih =>
      rw [(climb_of_lt hnext hlt).2, List.mem_cons] at h
      rcases h with rfl | h
      · exact ⟨rfl, (next?_eq_some_iff.1 hnext).1, nofun⟩
      · exact ih h

/-- A climb that does not reach a key stays before it. -/
theorem isAhead_climb (hahead : isAhead marker key = true)
    (h : (index.climb bucket key marker).1 = false) :
    isAhead (index.climb bucket key marker).2 key = true := by
  induction marker using climb_induction index bucket key with
  | none marker hnext =>
      rw [(climb_of_none hnext).1]
      exact hahead
  | reached marker last hnext hle =>
      rw [(climb_of_le hnext hle).1] at h
      cases h
  | passed marker last hnext hlt ih =>
      rw [(climb_of_lt hnext hlt).1] at h ⊢
      exact ih (decide_eq_true hlt) h

/-- A climb that reaches a key ends with a span that the key lies in. -/
theorem exists_span_of_climb (hahead : isAhead marker key = true)
    (h : (index.climb bucket key marker).1 = true) :
    ∃ from? last, ⟨bucket, from?, some last⟩ ∈ index.climbed bucket key marker ∧
      (index.climb bucket key marker).2 = some last ∧ isAhead from? key = true ∧ key ≤ last := by
  induction marker using climb_induction index bucket key with
  | none marker hnext =>
      rw [(climb_of_none hnext).1] at h
      cases h
  | reached marker last hnext hle =>
      obtain ⟨hclimb, hclimbed⟩ := climb_of_le hnext hle
      rw [hclimb, hclimbed]
      exact ⟨marker, last, List.mem_singleton_self _, rfl, hahead, hle⟩
  | passed marker last hnext hlt ih =>
      obtain ⟨hclimb, hclimbed⟩ := climb_of_lt hnext hlt
      rw [hclimb] at h
      obtain ⟨from?, last', hspan, hend, hahead', hle⟩ := ih (decide_eq_true hlt) h
      rw [hclimb, hclimbed]
      exact ⟨from?, last', List.mem_cons_of_mem _ hspan, hend, hahead', hle⟩

end DigestIndex

/-! ### Keys that a cutting skips -/

namespace Chunker

variable {chunker : Chunker} {index : DigestIndex} {bucket key : String}

/-- Without digests no key is skipped. -/
theorem skip?_of_digests_eq_none (h : chunker.digests = none) (bucket key : String) :
    chunker.skip? bucket key = (false, chunker) := by
  rw [skip?, h]

/-- A key in the open span is skipped. -/
theorem skip?_of_open (hindex : chunker.digests = some index)
    (hopen : chunker.openThrough.any (key ≤ ·) = true) :
    chunker.skip? bucket key = (true, chunker) := by
  rw [skip?, hindex]
  exact if_pos hopen

/-- For any other key the spans are followed from the marker on. -/
theorem skip?_of_not_open (hindex : chunker.digests = some index)
    (hopen : chunker.openThrough.any (key ≤ ·) = false) :
    chunker.skip? bucket key =
      ((index.climb bucket key chunker.marker).1,
        { chunker with
          marker := (index.climb bucket key chunker.marker).2
          openThrough := if (index.climb bucket key chunker.marker).1 then
            (index.climb bucket key chunker.marker).2 else none }) := by
  rw [skip?, hindex]
  exact if_neg (Bool.eq_false_iff.1 hopen)

/-- A key is in no open span exactly if it lies behind the end of the one that is open. -/
theorem any_openThrough_eq_false_iff : chunker.openThrough.any (key ≤ ·) = false ↔
    ∀ last, chunker.openThrough = some last → last < key := by
  rw [Option.any_eq_false]
  refine forall₂_congr fun last _ => ?_
  rw [decide_eq_false_iff_not, not_le]

end Chunker

end Reconcile
