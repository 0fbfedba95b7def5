/-!
# Digests

A digest index knows spans of keys that are the same on both replicas. Asked about a bucket and a
marker it may answer with the last object key of a span that starts right after the marker, or at
the start of the bucket if there is no marker.

Spans may follow one another. An answer is of use only if it lies after the marker it was asked
about. Such answers are followed towards an object key, and an index is *terminating* if no endless
chain of them stays before a key. Every finite table is: each answer uses up a row whose end is then
no longer ahead.
-/

namespace Reconcile

/-- Whether a marker lies before an object key; no marker lies before all of them. -/
def isAhead (marker : Option String) (key : String) : Bool :=
  match marker with
  | none => true
  | some marker => marker < key

/-- An index of spans, as a function from a bucket and a marker to the end of the span. -/
structure DigestIndex where
  /-- The end of the span that starts after a marker of a bucket. -/
  endOfSpan? : String → Option String → Option String
  /-- No bucket has an endless chain of spans, each after the one before and all before a key. -/
  terminates : ∀ bucket key, WellFounded fun next marker : Option String =>
    ∃ last, endOfSpan? bucket marker = some last ∧ isAhead marker last = true ∧ last < key ∧
      next = some last

namespace DigestIndex

/-- The end of the span that starts after a marker, if it lies after the marker. -/
def next? (index : DigestIndex) (bucket : String) (marker : Option String) : Option String :=
  (index.endOfSpan? bucket marker).filter (isAhead marker)

/-- A span is followed if the index has it and it ends ahead of its marker. -/
theorem next?_eq_some_iff {index : DigestIndex} {bucket : String} {marker : Option String}
    {last : String} :
    index.next? bucket marker = some last ↔
      index.endOfSpan? bucket marker = some last ∧ isAhead marker last = true := by
  rw [next?, Option.filter_eq_some_iff]

end DigestIndex

/-- A row of a digest table: the span of a bucket from a marker to an end. -/
structure DigestRow where
  bucket : String
  marker : Option String
  last : String
  deriving DecidableEq, Repr, Inhabited

/-- A digest table; the first row that fits answers. -/
abbrev DigestTable := List DigestRow

namespace DigestTable

/-- The end of the span that starts after a marker of a bucket. -/
def endOfSpan? (table : DigestTable) (bucket : String) (marker : Option String) :
    Option String :=
  (table.find? fun row => row.bucket = bucket ∧ row.marker = marker).map DigestRow.last

/-- The number of rows whose end lies after a marker. -/
def rowsAhead (table : DigestTable) (marker : Option String) : Nat :=
  table.countP fun row => isAhead marker row.last

/-- What is ahead of an end that is ahead of a marker is ahead of the marker. -/
theorem isAhead_trans {marker : Option String} {last key : String}
    (h₁ : isAhead marker last = true) (h₂ : isAhead (some last) key = true) :
    isAhead marker key = true := by
  cases marker with
  | none => rfl
  | some marker =>
    simp only [isAhead, decide_eq_true_eq] at *
    exact String.lt_trans h₁ h₂

/-- An answer that lies after its marker leaves fewer rows ahead. -/
theorem rowsAhead_lt {table : DigestTable} {bucket : String} {marker : Option String}
    {last : String} (hlast : table.endOfSpan? bucket marker = some last)
    (hahead : isAhead marker last = true) :
    table.rowsAhead (some last) < table.rowsAhead marker := by
  obtain ⟨row, hrow, rfl⟩ := Option.map_eq_some_iff.1 hlast
  have hmem := List.mem_of_find?_eq_some hrow
  clear hlast hrow
  unfold rowsAhead
  induction table with
  | nil => cases hmem
  | cons r table ih =>
    have hmono : List.countP (fun q : DigestRow => isAhead (some row.last) q.last) table ≤
        List.countP (fun q : DigestRow => isAhead marker q.last) table :=
      List.countP_mono_left fun q _ hq => isAhead_trans hahead hq
    rw [List.countP_cons, List.countP_cons]
    rcases List.mem_cons.1 hmem with rfl | hmem
    · have hself : isAhead (some row.last) row.last = false := by
        exact decide_eq_false (String.lt_irrefl row.last)
      rw [hself, hahead]
      simp only [Bool.false_eq_true, if_false, if_true]
      omega
    · have := ih hmem
      cases hr : isAhead (some row.last) r.last with
      | false => simp only [Bool.false_eq_true, if_false]; omega
      | true => rw [isAhead_trans hahead hr]; simp only [if_true]; omega

/-- The index that a table is. -/
def index (table : DigestTable) : DigestIndex where
  endOfSpan? := table.endOfSpan?
  terminates _ _ :=
    Subrelation.wf
      (fun ⟨_, hlast, hahead, _, hnext⟩ => by rw [hnext]; exact rowsAhead_lt hlast hahead)
      (measure table.rowsAhead).wf

end DigestTable

end Reconcile
