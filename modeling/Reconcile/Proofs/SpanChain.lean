import Reconcile.Proofs.Digest

/-!
# Chains of spans

From a marker an index leads to further ones: each is the answer for the one before, as long as
there is an answer and it lies after the marker that was asked about (`DigestIndex.markerAt`). The
markers of a chain ascend (`DigestIndex.isAhead_markerAt`), and a climb towards an object key ends
at the first of them that the key does not exceed, or else at the last one
(`DigestIndex.climb_cases`).

`SpanSearch.run` is the same climb turn by turn, as a loop that knows nothing of an end: it looks at
the open span, asks once if that ends before the key, and goes on. It gives nothing if its turns are
used up, and it records which markers it asked about. A finite table brings it to an end whatever
its rows are, since each answer that is followed uses up a row of the bucket
(`DigestTable.length_climbed_le`).

The main result is `Chunker.followsChain_consulting`.
-/

namespace Reconcile

/-! ### The markers of a chain -/

namespace DigestIndex

/-- The markers that an index leads to: each further one is the answer for the one before, as long
as there is one and it lies after that. -/
def markerAt (index : DigestIndex) (bucket : String) (start : Option String) :
    ℕ → Option (Option String)
  | 0 => some start
  | i + 1 => (markerAt index bucket start i).bind fun marker =>
      (index.next? bucket marker).map some

variable {index : DigestIndex} {bucket key : String} {start marker : Option String}

/-- A further marker is the end of a span that starts at the one before. -/
theorem markerAt_succ_eq_some_iff {i : ℕ} :
    index.markerAt bucket start (i + 1) = some marker ↔
      ∃ before last, index.markerAt bucket start i = some before ∧
        index.next? bucket before = some last ∧ marker = some last := by
  rw [markerAt, Option.bind_eq_some_iff]
  refine exists_congr fun before => ?_
  rw [Option.map_eq_some_iff, exists_and_left]
  simp only [eq_comm]

/-- Without an answer the chain has no further marker. -/
theorem markerAt_succ_of_none (h : index.next? bucket start = none) (i : ℕ) :
    index.markerAt bucket start (i + 1) = none := by
  induction i with
  | zero => rw [markerAt, markerAt, Option.bind_some, h, Option.map_none]
  | succ i ih => rw [markerAt, ih, Option.bind_none]

/-- With one the chain goes on from the answer. -/
theorem markerAt_succ_of_some {last : String} (h : index.next? bucket start = some last) (i : ℕ) :
    index.markerAt bucket start (i + 1) = index.markerAt bucket (some last) i := by
  induction i with
  | zero => rw [markerAt, markerAt, markerAt, Option.bind_some, h, Option.map_some]
  | succ i ih => rw [markerAt, ih, markerAt]

/-- **The markers of a chain ascend.** -/
theorem isAhead_markerAt {i j : ℕ} (hij : i < j) {earlier : Option String}
    (hi : index.markerAt bucket start i = some earlier)
    (hj : index.markerAt bucket start j = some marker) :
    ∃ last, marker = some last ∧ isAhead earlier last = true := by
  induction j generalizing marker with
  | zero => exact absurd hij (Nat.not_lt_zero i)
  | succ j ih =>
      obtain ⟨before, last, hbefore, hnext, rfl⟩ := markerAt_succ_eq_some_iff.1 hj
      have hahead := (next?_eq_some_iff.1 hnext).2
      refine ⟨last, rfl, ?_⟩
      rcases Nat.lt_succ_iff_lt_or_eq.1 hij with hlt | rfl
      · obtain ⟨middle, rfl, hmiddle⟩ := ih hlt hbefore
        exact DigestTable.isAhead_trans hmiddle hahead
      · obtain rfl := Option.some.inj (hi.symm.trans hbefore)
        exact hahead

/-! ### Where a climb ends -/

/-- Whether all further markers of a chain, up to a number of them, lie before a key. -/
def StaysBefore (index : DigestIndex) (bucket key : String) (start : Option String) (n : ℕ) :
    Prop :=
  ∀ i < n, ∀ last, index.markerAt bucket start (i + 1) = some (some last) → last < key

/-- Whether a further marker of a chain is the first that a key does not exceed. -/
structure ReachesFirst (index : DigestIndex) (bucket key : String) (start : Option String) (i : ℕ)
    (last : String) : Prop where
  /-- It is a marker of the chain. -/
  marker_eq : index.markerAt bucket start (i + 1) = some (some last)
  /-- It reaches the key. -/
  le : key ≤ last
  /-- None before it does. -/
  before : index.StaysBefore bucket key start i

/-- Whether a marker is the last of a chain that stays before a key. -/
structure EndsBefore (index : DigestIndex) (bucket key : String) (start : Option String) (i : ℕ)
    (marker : Option String) : Prop where
  /-- It is a marker of the chain. -/
  marker_eq : index.markerAt bucket start i = some marker
  /-- It is the last one. -/
  ends : index.markerAt bucket start (i + 1) = none
  /-- None of them reaches the key. -/
  before : ∀ n, index.StaysBefore bucket key start n

/-- A chain stays before a key if its first answer does and the chain from there on does. -/
theorem StaysBefore.cons {last : String} (hnext : index.next? bucket start = some last)
    (hlt : last < key) {n : ℕ} (h : index.StaysBefore bucket key (some last) n) :
    index.StaysBefore bucket key start (n + 1) := by
  intro i hi other hother
  rw [markerAt_succ_of_some hnext] at hother
  cases i with
  | zero =>
      rw [markerAt, Option.some.injEq, Option.some.injEq] at hother
      exact hother ▸ hlt
  | succ i => exact h i (Nat.lt_of_succ_lt_succ hi) other hother

/-- **A climb ends at the first marker that reaches the key**, or else at the last of all. -/
theorem climb_cases (index : DigestIndex) (bucket key : String) (start : Option String) :
    (∃ i last, index.ReachesFirst bucket key start i last ∧
        index.climb bucket key start = (true, some last)) ∨
      ∃ i marker, index.EndsBefore bucket key start i marker ∧
        index.climb bucket key start = (false, marker) := by
  induction start using climb_induction index bucket key with
  | none start hnext =>
      refine .inr ⟨0, start, ⟨rfl, markerAt_succ_of_none hnext 0, fun n i _ last hlast => ?_⟩,
        (climb_of_none hnext).1⟩
      rw [markerAt_succ_of_none hnext] at hlast
      cases hlast
  | reached start last hnext hle =>
      exact .inl ⟨0, last, ⟨markerAt_succ_of_some hnext 0, hle, nofun⟩,
        (climb_of_le hnext hle).1⟩
  | passed start last hnext hlt ih =>
      rw [(climb_of_lt hnext hlt).1]
      rcases ih with ⟨i, reached, hfirst, hclimb⟩ | ⟨i, marker, hends, hclimb⟩
      · exact .inl ⟨i + 1, reached, ⟨(markerAt_succ_of_some hnext _).trans hfirst.marker_eq,
          hfirst.le, hfirst.before.cons hnext hlt⟩, hclimb⟩
      · refine .inr ⟨i + 1, marker, ⟨(markerAt_succ_of_some hnext _).trans hends.marker_eq,
          (markerAt_succ_of_some hnext _).trans hends.ends, fun n => ?_⟩, hclimb⟩
        exact fun j hj => (hends.before n).cons hnext hlt j (Nat.lt_succ_of_lt hj)

/-- A climb reaches a key exactly if a further marker of the chain does. -/
theorem climb_fst_eq_true_iff : (index.climb bucket key start).1 = true ↔
    ∃ i last, index.markerAt bucket start (i + 1) = some (some last) ∧ key ≤ last := by
  rcases index.climb_cases bucket key start with ⟨i, last, hfirst, hclimb⟩ |
    ⟨i, marker, hends, hclimb⟩
  · rw [hclimb]
    exact iff_of_true rfl ⟨i, last, hfirst.marker_eq, hfirst.le⟩
  · rw [hclimb]
    refine iff_of_false Bool.false_ne_true ?_
    rintro ⟨j, last, hlast, hle⟩
    exact (hends.before (j + 1) j (Nat.lt_succ_self j) last hlast).not_ge hle

/-- A climb ends where it starts or further on. -/
theorem climb_snd_cases (index : DigestIndex) (bucket key : String) (start : Option String) :
    (index.climb bucket key start).2 = start ∨
      ∃ last, (index.climb bucket key start).2 = some last ∧ isAhead start last = true := by
  have hon : ∀ i marker, index.markerAt bucket start i = some marker →
      marker = start ∨ ∃ last, marker = some last ∧ isAhead start last = true := by
    intro i marker hmarker
    rcases Nat.eq_zero_or_pos i with rfl | hi
    · exact .inl (Option.some.inj hmarker).symm
    · exact .inr (isAhead_markerAt hi rfl hmarker)
  rcases index.climb_cases bucket key start with ⟨i, last, hfirst, hclimb⟩ |
    ⟨i, marker, hends, hclimb⟩
  · rw [hclimb]
    exact hon (i + 1) (some last) hfirst.marker_eq
  · rw [hclimb]
    exact hon i marker hends.marker_eq

end DigestIndex

/-! ### Turn by turn -/

/-- What a search for a key comes to. -/
structure SpanSearch where
  /-- Whether the key lies in the open span. -/
  reached : Bool
  /-- Where the search stands. -/
  marker : Option String
  /-- The end of the open span. -/
  openThrough : Option String
  /-- The markers that were asked about. -/
  asked : List (Option String)
  deriving DecidableEq, Repr

namespace SpanSearch

/-- A search that has asked about one more marker before. -/
def preceded (marker : Option String) (search : SpanSearch) : SpanSearch :=
  { search with asked := marker :: search.asked }

/-- Looks for a key in the open span and, while that ends before it, opens the span that starts at
the marker. There is no outcome if the turns do not suffice. -/
def run (answer : Option String → Option String) (key : String) :
    ℕ → Option String → Option String → Option SpanSearch
  | 0, _, _ => none
  | turns + 1, marker, openThrough =>
    if openThrough.any (key ≤ ·) then some ⟨true, marker, openThrough, []⟩
    else
      match (answer marker).filter (isAhead marker) with
      | none => some ⟨false, marker, none, [marker]⟩
      | some last => (run answer key turns (some last) (some last)).map (preceded marker)

variable {answer : Option String → Option String} {key : String}
  {marker openThrough : Option String}

/-- A key inside the span that is open is skipped without a query. -/
theorem run_of_open (hopen : openThrough.any (key ≤ ·) = true) (turns : ℕ) :
    run answer key (turns + 1) marker openThrough = some ⟨true, marker, openThrough, []⟩ :=
  if_pos hopen

/-- An answer that does not lie ahead ends the search at its marker, which was asked about. -/
theorem run_of_none (hopen : openThrough.any (key ≤ ·) = false)
    (h : (answer marker).filter (isAhead marker) = none) (turns : ℕ) :
    run answer key (turns + 1) marker openThrough = some ⟨false, marker, none, [marker]⟩ := by
  rw [run, if_neg (Bool.eq_false_iff.1 hopen), h]

/-- An answer ahead becomes the marker, and the search goes on from there. -/
theorem run_of_some (hopen : openThrough.any (key ≤ ·) = false) {last : String}
    (h : (answer marker).filter (isAhead marker) = some last) (turns : ℕ) :
    run answer key (turns + 1) marker openThrough =
      (run answer key turns (some last) (some last)).map (preceded marker) := by
  rw [run, if_neg (Bool.eq_false_iff.1 hopen), h]

end SpanSearch

namespace DigestIndex

variable {index : DigestIndex} {bucket key : String} {marker : Option String}

/-- The markers that a climb asks about: those where the spans that it follows start, and the one
that it ends at if that is before the key. -/
def asked (index : DigestIndex) (bucket key : String) (marker : Option String) :
    List (Option String) :=
  (index.climbed bucket key marker).map Range.marker ++
    if (index.climb bucket key marker).1 then [] else [(index.climb bucket key marker).2]

/-- All questions but one have an answer that is followed. -/
theorem length_asked_le (index : DigestIndex) (bucket key : String) (marker : Option String) :
    (index.asked bucket key marker).length ≤ (index.climbed bucket key marker).length + 1 := by
  rw [asked, List.length_append, List.length_map]
  split <;> simp

/-- Where no span starts, the marker is asked about and nothing else. -/
theorem asked_of_none (h : index.next? bucket marker = none) :
    index.asked bucket key marker = [marker] := by
  rw [asked, (climb_of_none h).1, (climb_of_none h).2]
  rfl

/-- A span that reaches the key is the last one that is asked for. -/
theorem asked_of_le {last : String} (h : index.next? bucket marker = some last)
    (hle : key ≤ last) : index.asked bucket key marker = [marker] := by
  rw [asked, (climb_of_le h hle).1, (climb_of_le h hle).2]
  rfl

/-- A span that ends before the key leads on to the markers behind it. -/
theorem asked_of_lt {last : String} (h : index.next? bucket marker = some last)
    (hlt : last < key) :
    index.asked bucket key marker = marker :: index.asked bucket key (some last) := by
  rw [asked, (climb_of_lt h hlt).1, (climb_of_lt h hlt).2]
  rfl

/-- The index is asked about the markers of the chain in turn. -/
theorem markerAt_of_asked {i : ℕ} {other : Option String}
    (h : (index.asked bucket key marker)[i]? = some other) :
    index.markerAt bucket marker i = some other := by
  have honce : ∀ (start : Option String) (i : ℕ), [start][i]? = some other →
      index.markerAt bucket start i = some other := by
    intro start i hother
    obtain ⟨rfl, rfl⟩ : i = 0 ∧ start = other := by simpa [List.getElem?_singleton] using hother
    rfl
  induction marker using climb_induction index bucket key generalizing i with
  | none marker hnext => exact honce marker i (asked_of_none hnext ▸ h)
  | reached marker last hnext hle => exact honce marker i (asked_of_le hnext hle ▸ h)
  | passed marker last hnext hlt ih =>
      rw [asked_of_lt hnext hlt] at h
      cases i with
      | zero => exact h
      | succ i => exact (markerAt_succ_of_some hnext i).trans (ih h)

/-- **A search is a climb**, as soon as it has a turn for each span that is followed and one
more. -/
theorem run_endOfSpan? {turns : ℕ} (hturns : (index.climbed bucket key marker).length < turns)
    {openThrough : Option String} (hopen : openThrough.any (key ≤ ·) = false) :
    SpanSearch.run (index.endOfSpan? bucket) key turns marker openThrough =
      some ⟨(index.climb bucket key marker).1, (index.climb bucket key marker).2,
        if (index.climb bucket key marker).1 then (index.climb bucket key marker).2 else none,
        index.asked bucket key marker⟩ := by
  induction marker using climb_induction index bucket key generalizing turns openThrough with
  | none marker hnext =>
      obtain ⟨turns, rfl⟩ : ∃ more, turns = more + 1 := ⟨turns - 1, by omega⟩
      rw [SpanSearch.run_of_none hopen hnext, asked_of_none hnext, (climb_of_none hnext).1]
      rfl
  | reached marker last hnext hle =>
      obtain ⟨hclimb, hclimbed⟩ := climb_of_le hnext hle
      rw [hclimbed, List.length_singleton] at hturns
      obtain ⟨turns, rfl⟩ : ∃ more, turns = more + 2 := ⟨turns - 2, by omega⟩
      -- the span that reaches the key is open in the next turn, which ends the search
      have hinside : (some last).any (key ≤ ·) = true := decide_eq_true hle
      rw [SpanSearch.run_of_some hopen hnext, SpanSearch.run_of_open hinside,
        asked_of_le hnext hle, hclimb]
      rfl
  | passed marker last hnext hlt ih =>
      obtain ⟨hclimb, hclimbed⟩ := climb_of_lt hnext hlt
      rw [hclimbed, List.length_cons] at hturns
      obtain ⟨turns, rfl⟩ : ∃ more, turns = more + 1 := ⟨turns - 1, by omega⟩
      have hpast : (some last).any (key ≤ ·) = false := decide_eq_false hlt.not_ge
      rw [SpanSearch.run_of_some hopen hnext, ih (Nat.lt_of_succ_lt_succ hturns) hpast,
        asked_of_lt hnext hlt, hclimb]
      rfl

end DigestIndex

namespace DigestTable

/-- The rows of a table that are about a bucket. -/
def rowsOf (table : DigestTable) (bucket : String) : DigestTable :=
  table.filter fun row => row.bucket = bucket

/-- Only the rows of a bucket answer questions about it. -/
theorem endOfSpan?_rowsOf (table : DigestTable) (bucket : String) (marker : Option String) :
    (table.rowsOf bucket).endOfSpan? bucket marker = table.endOfSpan? bucket marker := by
  rw [endOfSpan?, endOfSpan?, rowsOf, List.find?_filter]
  simp

/-- **Each span that is followed uses up a row** of the bucket, so there are no more of them. -/
theorem length_climbed_le (table : DigestTable) (bucket key : String) (marker : Option String) :
    (table.index.climbed bucket key marker).length ≤ (table.rowsOf bucket).rowsAhead marker := by
  have hlt : ∀ marker last, table.index.next? bucket marker = some last →
      (table.rowsOf bucket).rowsAhead (some last) < (table.rowsOf bucket).rowsAhead marker := by
    intro marker last hnext
    obtain ⟨hlast, hahead⟩ := DigestIndex.next?_eq_some_iff.1 hnext
    exact rowsAhead_lt ((table.endOfSpan?_rowsOf bucket marker).trans hlast) hahead
  induction marker using DigestIndex.climb_induction table.index bucket key with
  | none marker hnext =>
      rw [(DigestIndex.climb_of_none hnext).2]
      exact Nat.zero_le _
  | reached marker last hnext hle =>
      rw [(DigestIndex.climb_of_le hnext hle).2]
      exact Nat.lt_of_le_of_lt (Nat.zero_le _) (hlt marker last hnext)
  | passed marker last hnext hlast ih =>
      rw [(DigestIndex.climb_of_lt hnext hlast).2]
      exact Nat.lt_of_le_of_lt ih (hlt marker last hnext)

/-- No more spans are followed than there are rows of the bucket. -/
theorem length_climbed_le_length (table : DigestTable) (bucket key : String)
    (marker : Option String) :
    (table.index.climbed bucket key marker).length ≤ (table.rowsOf bucket).length :=
  (table.length_climbed_le bucket key marker).trans List.countP_le_length

end DigestTable

/-! ### The whole -/

namespace Chunker

/-- The state of a cutting that consults a digest table. -/
def consulting (chunker : Chunker) (table : DigestTable) : Chunker :=
  { chunker with digests := some table.index }

/-- Whether a state, when it is asked whether an object key is to be skipped, follows the chain of a
table's spans from its marker on, and comes to an end. -/
structure FollowsChain (table : DigestTable) (chunker : Chunker) (bucket key : String) : Prop where
  /-- The search turn by turn comes to what is answered, if it has one turn more than there are rows
  of the bucket. It asks about the markers of the chain in turn, once more at most than there are
  rows. -/
  ends : ∃ asked : List (Option String), asked.length ≤ (table.rowsOf bucket).length + 1 ∧
    (∀ i marker, asked[i]? = some marker →
      table.index.markerAt bucket chunker.marker i = some marker) ∧
    ∀ turns, (table.rowsOf bucket).length < turns →
      SpanSearch.run (table.endOfSpan? bucket) key turns chunker.marker chunker.openThrough =
        some ⟨(chunker.skip? bucket key).1, (chunker.skip? bucket key).2.marker,
          (chunker.skip? bucket key).2.openThrough, asked⟩
  /-- A key in the open span is skipped, and nothing changes. -/
  inside : ∀ last, chunker.openThrough = some last → key ≤ last →
    chunker.skip? bucket key = (true, chunker)
  /-- Any other key is skipped exactly if a further marker of the chain is at or after it. -/
  skipped_iff : (∀ last, chunker.openThrough = some last → last < key) →
    ((chunker.skip? bucket key).1 = true ↔
      ∃ i last, table.index.markerAt bucket chunker.marker (i + 1) = some (some last) ∧ key ≤ last)
  /-- Then the range starts at the first such marker, and the span up to it is open. -/
  first : (∀ last, chunker.openThrough = some last → last < key) →
    (chunker.skip? bucket key).1 = true →
      ∃ i last, table.index.ReachesFirst bucket key chunker.marker i last ∧
        chunker.skip? bucket key =
          (true, { chunker with marker := some last, openThrough := some last })
  /-- Else it starts at the last marker of the chain, and no span is open. -/
  last : (∀ last, chunker.openThrough = some last → last < key) →
    (chunker.skip? bucket key).1 = false →
      ∃ i marker, table.index.EndsBefore bucket key chunker.marker i marker ∧
        chunker.skip? bucket key = (false, { chunker with marker, openThrough := none })
  /-- The markers of the chain ascend. -/
  ascending : ∀ i j, i < j → ∀ earlier later,
    table.index.markerAt bucket chunker.marker i = some earlier →
    table.index.markerAt bucket chunker.marker j = some later →
      ∃ last, later = some last ∧ isAhead earlier last = true
  /-- So the range never starts before where it started. -/
  forward : (chunker.skip? bucket key).2.marker = chunker.marker ∨
    ∃ last, (chunker.skip? bucket key).2.marker = some last ∧ isAhead chunker.marker last = true

variable {chunker : Chunker} {index : DigestIndex} {bucket key : String}

/-- **The search ends**: each question but the last uses up a row. -/
theorem exists_asked {table : DigestTable} (htable : chunker.digests = some table.index)
    (bucket key : String) :
    ∃ asked : List (Option String), asked.length ≤ (table.rowsOf bucket).length + 1 ∧
      (∀ i marker, asked[i]? = some marker →
        table.index.markerAt bucket chunker.marker i = some marker) ∧
      ∀ turns, (table.rowsOf bucket).length < turns →
        SpanSearch.run (table.endOfSpan? bucket) key turns chunker.marker chunker.openThrough =
          some ⟨(chunker.skip? bucket key).1, (chunker.skip? bucket key).2.marker,
            (chunker.skip? bucket key).2.openThrough, asked⟩ := by
  have hrows := table.length_climbed_le_length bucket key chunker.marker
  cases hopen : chunker.openThrough.any (key ≤ ·) with
  | true =>
      refine ⟨[], Nat.zero_le _, nofun, fun turns hturns => ?_⟩
      obtain ⟨turns, rfl⟩ : ∃ more, turns = more + 1 := ⟨turns - 1, by omega⟩
      rw [skip?_of_open htable hopen]
      exact SpanSearch.run_of_open hopen turns
  | false =>
      refine ⟨table.index.asked bucket key chunker.marker,
        (table.index.length_asked_le bucket key chunker.marker).trans (Nat.succ_le_succ hrows),
        fun _ _ => DigestIndex.markerAt_of_asked, fun turns hturns => ?_⟩
      rw [skip?_of_not_open htable hopen]
      exact DigestIndex.run_endOfSpan? (Nat.lt_of_le_of_lt hrows hturns) hopen

/-- The range never starts before where it started. -/
theorem marker_skip?_cases (hindex : chunker.digests = some index) (bucket key : String) :
    (chunker.skip? bucket key).2.marker = chunker.marker ∨
      ∃ last, (chunker.skip? bucket key).2.marker = some last ∧
        isAhead chunker.marker last = true := by
  cases hopen : chunker.openThrough.any (key ≤ ·) with
  | true => exact .inl (by rw [skip?_of_open hindex hopen])
  | false =>
      rw [skip?_of_not_open hindex hopen]
      exact index.climb_snd_cases bucket key chunker.marker

/-- A key past the open span opens the span up to the first marker of the chain that reaches it, or
else it leads to the last marker of all. -/
theorem skip?_cases (hindex : chunker.digests = some index)
    (hpast : ∀ last, chunker.openThrough = some last → last < key) :
    (∃ i last, index.ReachesFirst bucket key chunker.marker i last ∧
        chunker.skip? bucket key =
          (true, { chunker with marker := some last, openThrough := some last })) ∨
      ∃ i marker, index.EndsBefore bucket key chunker.marker i marker ∧
        chunker.skip? bucket key = (false, { chunker with marker, openThrough := none }) := by
  rw [skip?_of_not_open hindex (any_openThrough_eq_false_iff.2 hpast)]
  rcases index.climb_cases bucket key chunker.marker with ⟨i, last, hfirst, hclimb⟩ |
    ⟨i, marker, hends, hclimb⟩
  · exact .inl ⟨i, last, hfirst, by rw [hclimb]; rfl⟩
  · exact .inr ⟨i, marker, hends, by rw [hclimb]; rfl⟩

/-- **Following spans ends and is exact**, from every state of a cutting and for every table.

A search that asks about one marker after the other is a climb (`run_endOfSpan?`), and a climb goes
forward through the chain until a marker reaches the key or no span starts at it. -/
theorem followsChain_consulting (table : DigestTable) (chunker : Chunker) (bucket key : String) :
    FollowsChain table (chunker.consulting table) bucket key := by
  have htable : (chunker.consulting table).digests = some table.index := rfl
  generalize chunker.consulting table = chunker at htable
  refine ⟨exists_asked htable bucket key, fun last hlast hle => skip?_of_open htable ?_,
    fun hpast => ?_, fun hpast hskipped => ?_, fun hpast hkept => ?_,
    fun _ _ hij _ _ hi hj => DigestIndex.isAhead_markerAt hij hi hj,
    marker_skip?_cases htable bucket key⟩
  · rw [hlast]
    exact decide_eq_true hle
  · rw [skip?_of_not_open htable (any_openThrough_eq_false_iff.2 hpast)]
    exact DigestIndex.climb_fst_eq_true_iff
  · refine (skip?_cases htable hpast).resolve_right ?_
    rintro ⟨_, _, -, hskip⟩
    rw [hskip] at hskipped
    cases hskipped
  · refine (skip?_cases htable hpast).resolve_left ?_
    rintro ⟨_, _, -, hskip⟩
    rw [hskip] at hkept
    cases hkept

/-- Rows that repeat and rows that lead in a circle: the second row for the start of the bucket is
never read, and the answer that leads back ends the search. -/
example : SpanSearch.run (DigestTable.endOfSpan?
      [⟨"b", none, "2"⟩, ⟨"b", none, "4"⟩, ⟨"b", some "2", "3"⟩, ⟨"b", some "3", "2"⟩] "b")
    "5" 5 none none = some ⟨false, some "3", none, [none, some "2", some "3"]⟩ := by
  decide

end Chunker

end Reconcile
