import Reconcile.Proofs.RepairRun

/-!
# A difference file in parts

A difference file can be cut after any line end, and its parts be repaired one after the other: the
same calls are made, and the same is left, as in one run. Only the number of a line that cannot be
read is counted within the part that it stands in.

A run goes line by line (`DifferenceFile.repairLines_cons`), and whether a line ends it is said by
the bytes of the line and not by what was repaired before. So a run on lines in two parts is shown
by induction on those of the first part.

## Main results

* `DifferenceFile.repairLines_append`, `DifferenceFile.repairLines_add`: a run on lines in parts;
* `DifferenceFile.lines_append`: the lines of parts are the lines of the whole;
* `DifferenceFile.repair_append`: a run in parts.

All of this holds of any services, so also of those that keep a record of their calls.
-/

namespace Reconcile

/-! ### Lines in parts -/

/-- A repair error, where `n` more lines stand before. -/
def RepairError.addLines (n : Nat) : RepairError → RepairError
  | .malformedEntry line => .malformedEntry (line + n)
  | error => error

/-- A fault says nothing about lines. -/
theorem Difference.addLines_of_fault {difference : Difference} {error : RepairError}
    (h : difference.fault? = some error) (n : Nat) : error.addLines n = error := by
  rw [fault?] at h
  split at h
  · rw [← Option.some.inj h]
    rfl
  · split at h
    · cases h
    · rw [← Option.some.inj h]
      rfl

namespace DifferenceFile

/-- The number of a line counts only in the error of a line that holds no difference. -/
theorem fatal?_add (number n : Nat) (bytes : List UInt8) :
    fatal? (number + n) bytes = (fatal? number bytes).map (RepairError.addLines n) := by
  rw [fatal?, fatal?]
  cases readLine bytes with
  | notText => rfl
  | malformed => rfl
  | blank => rfl
  | difference difference =>
      dsimp only
      cases hfault : difference.fault? with
      | none => rfl
      | some error => rw [Option.map_some, Difference.addLines_of_fault hfault]

section

variable {σ : Type} (services : Services σ) (cutoff : Option Instant)

/-- A run on lines in two parts: the second part is reached if the first one ends well. -/
theorem repairLines_append (number : Nat) (state : σ) (counters : RepairCounters)
    (first rest : List (List UInt8)) :
    repairLines services cutoff number state counters (first ++ rest) =
      match repairLines services cutoff number state counters first with
      | (.ok (), state, counters) =>
        repairLines services cutoff (number + first.length) state counters rest
      | failed => failed := by
  induction first generalizing number state counters with
  | nil => rfl
  | cons bytes first ih =>
      rw [List.cons_append, repairLines_cons, repairLines_cons]
      cases fatal? number bytes with
      | some error => rfl
      | none =>
          dsimp only
          rw [ih, List.length_cons, Nat.add_assoc, Nat.add_comm 1]

/-- A run that starts `n` lines further down ends with an error that is `n` lines further down. -/
theorem repairLines_add (number n : Nat) (state : σ) (counters : RepairCounters)
    (lines : List (List UInt8)) :
    repairLines services cutoff (number + n) state counters lines =
      Prod.map (Except.mapError (RepairError.addLines n)) id
        (repairLines services cutoff number state counters lines) := by
  induction lines generalizing number state counters with
  | nil => rfl
  | cons bytes rest ih =>
      rw [repairLines_cons, repairLines_cons, fatal?_add]
      cases fatal? number bytes with
      | some error => rfl
      | none =>
          rw [Option.map_none]
          dsimp only
          rw [Nat.add_right_comm, ih]

end

/-! ### The lines of a file in parts -/

/-- The bytes before a line end are read without those after it. -/
theorem splitLines_append_of_ended {first : List UInt8} (h : first.getLast? = some 0x0A)
    (current rest : List UInt8) :
    splitLines current (first ++ rest) = splitLines current first ++ lines rest ∧
      (splitLines current first).length = first.count 0x0A := by
  induction first generalizing current with
  | nil => cases h
  | cons byte first ih =>
      rw [List.cons_append, splitLines, splitLines, List.count_cons]
      rcases List.eq_nil_or_concat' first with rfl | ⟨before, last, rfl⟩
      · obtain rfl : byte = 0x0A := Option.some.inj h
        exact ⟨rfl, rfl⟩
      · have hlast : (before ++ [last]).getLast? = some 0x0A := by
          rwa [List.getLast?_cons_of_ne_nil (by simp)] at h
        split
        · next hend =>
          obtain ⟨hlines, hlength⟩ := ih hlast []
          rw [hlines, List.length_cons, hlength, beq_iff_eq.2 hend, if_pos rfl]
          exact ⟨rfl, rfl⟩
        · next hend =>
          rw [beq_false_of_ne hend, if_neg Bool.false_ne_true]
          exact ih hlast (byte :: current)

section

variable {first : List UInt8} (h : first = [] ∨ first.getLast? = some 0x0A)
include h

/-- **The lines of two parts** are the lines of the whole, if the first part ends with a line. -/
theorem lines_append (rest : List UInt8) : lines (first ++ rest) = lines first ++ lines rest := by
  rcases h with rfl | h
  · rfl
  · exact (splitLines_append_of_ended h [] rest).1

/-- Each line of such a part has its line end. -/
theorem length_lines : (lines first).length = first.count 0x0A := by
  rcases h with rfl | h
  · rfl
  · exact (splitLines_append_of_ended h [] []).2

end

variable {σ : Type}

/-- **A difference file can be repaired in parts.** Cut a file anywhere after a line end, or before
its first byte. The run on the whole makes the same calls, leaves the same state and counters and
ends in the same way as the run on the first part, followed by one on the other part if the first
one ends well; but a line that holds no difference is numbered by the line ends of the first part as
well. And the run on the whole repairs the differences before the first line that ends it, and does
nothing else.

A line end in front keeps the lines of the two parts apart (`lines_append`), and the run over lines
can be cut anywhere (`repairLines_append`). -/
theorem repair_append {first : List UInt8} (h : first = [] ∨ first.getLast? = some 0x0A)
    (rest : List UInt8) (services : Services σ) (cutoff : Option Instant) (state : σ)
    (counters : RepairCounters) :
    repair services cutoff (first ++ rest) state counters =
        (match repair services cutoff first state counters with
        | (.ok (), state, counters) =>
          let (result, left) := repair services cutoff rest state counters
          (result.mapError (RepairError.addLines (first.count 0x0A)), left)
        | (.error error, left) => (.error error, left)) ∧
      repair services cutoff (first ++ rest) state counters =
        (ending 1 (lines (first ++ rest)), Repair.repairEach services cutoff (state, counters)
          (differencesOf ((lines (first ++ rest)).takeWhile isHarmless))) := by
  refine ⟨?_, repairLines_eq services cutoff 1 state counters _⟩
  rw [repair, lines_append h, repairLines_append, length_lines h, ← repair]
  rcases repair services cutoff first state counters with ⟨error | ⟨⟩, after, counters'⟩
  · rfl
  · exact repairLines_add services cutoff 1 _ after counters' (lines rest)

/-- A blank line is cut off, and a line without its end that holds no difference is left. -/
theorem repair_append_blank :
    ([0x0A] = ([] : List UInt8) ∨ [0x0A].getLast? = some (0x0A : UInt8)) ∧
      (repair World.services none [0x78] default .zero).1 = .error (.malformedEntry 1) ∧
      (repair World.services none ([0x0A] ++ [0x78]) default .zero).1 =
        .error (.malformedEntry 2) := by
  refine ⟨.inr rfl, by decide +kernel, ?_⟩
  rw [(repair_append (.inr rfl) [0x78] World.services none default .zero).1]
  decide +kernel

end DifferenceFile

end Reconcile
