import Mathlib.Tactic.ByContra
import Mathlib.Tactic.SplitIfs
import Reconcile.Decision

/-!
# When a side is named

The rules of `decideRepair` stated as conditions: a difference counts as changed by a client exactly
if the leader does not hold what it held at the scan (`status_decideRepair_eq_updatedByClient_iff`),
and a side is named exactly if it alone is readable, the leader has not changed, and neither side is
too recent (`decideRepair_eq_repairFrom_iff`).

The cutoff has a say only in whether a side is too recent. So a later cutoff, or none, changes
nothing but that verdict (`decideRepair_eq_of_isNoLater`). `followsRules_decideRepair` has it all,
for sides in any state.
-/

namespace Reconcile

namespace Side

/-- The side across. -/
def other : Side → Side
  | follower => leader
  | leader => follower

/-- What belongs to a side, of what belongs to the follower and to the leader. -/
def pick {α : Type} (follower leader : α) : Side → α
  | .follower => follower
  | .leader => leader

end Side

/-- Only a verdict to repair has a side to repair from. -/
theorem Verdict.source?_eq_some_iff {verdict : Verdict} {side : Side} :
    verdict.source? = some side ↔ verdict = .repairFrom side := by
  cases verdict <;> simp [source?]

/-- A side that is readable has a value. -/
theorem ReplicaState.isNone_of_readable {state : ReplicaState} (h : state.readable = true) :
    state.value.isNone = false := by
  rw [readable, Bool.and_eq_true] at h
  rw [← Option.not_isSome, h.2]
  rfl

variable {follower leader : ReplicaState} {refreshed : Option String} {cutoff : Option Instant}

/-- If the leader holds what it held at the scan, only the later rules count. -/
theorem decideRepair_of_eq (h : refreshed = leader.value) :
    decideRepair follower leader refreshed cutoff =
      if leader.tooRecent cutoff || follower.tooRecent cutoff then .tooRecent
      else if follower.value.isNone && !leader.readable then .onlyUnreadableOnLeader
      else if leader.value.isNone && !follower.readable then .onlyUnreadableOnFollower
      else if !leader.readable && !follower.readable then .unreadableOnBoth
      else if leader.readable && follower.readable then .readableOnBoth
      else .repairFrom (if follower.readable then .follower else .leader) := by
  subst h
  rw [decideRepair.eq_def]
  split
  · rename_i hsome hnone
    exact nomatch hsome.symm.trans hnone
  · rename_i hnone hsome
    exact nomatch hnone.symm.trans hsome
  · rw [if_neg (fun h => h rfl)]

/-- If the leader holds something else than at the scan, a client has written. -/
theorem status_decideRepair_of_ne (h : refreshed ≠ leader.value) :
    (decideRepair follower leader refreshed cutoff).status = .updatedByClient := by
  rw [decideRepair.eq_def]
  split
  · rfl
  · rfl
  · rw [if_pos h]
    rfl

/-- **A client has written** exactly if the leader holds something else than at the scan. -/
theorem status_decideRepair_eq_updatedByClient_iff :
    (decideRepair follower leader refreshed cutoff).status = .updatedByClient ↔
      refreshed ≠ leader.value := by
  refine ⟨fun h heq => ?_, status_decideRepair_of_ne⟩
  rw [decideRepair_of_eq heq] at h
  split_ifs at h <;> cases h

/-- **A side is named** exactly if the leader has not changed, neither side is too recent, and this
side alone is readable. -/
theorem decideRepair_eq_repairFrom_iff {side : Side} :
    decideRepair follower leader refreshed cutoff = .repairFrom side ↔
      refreshed = leader.value ∧
        (∀ side : Side, (side.pick follower leader).tooRecent cutoff = false) ∧
        (side.pick follower leader).readable = true ∧
        (side.other.pick follower leader).readable = false := by
  by_cases heq : refreshed = leader.value
  · rw [decideRepair_of_eq heq, and_iff_right heq]
    have hfollower := @ReplicaState.isNone_of_readable follower
    have hleader := @ReplicaState.isNone_of_readable leader
    have hrecent : (∀ side : Side, (side.pick follower leader).tooRecent cutoff = false) ↔
        leader.tooRecent cutoff = false ∧ follower.tooRecent cutoff = false :=
      ⟨fun h => ⟨h .leader, h .follower⟩, fun h side => by cases side; exacts [h.2, h.1]⟩
    rw [hrecent, ← Bool.or_eq_false_iff]
    cases leader.tooRecent cutoff || follower.tooRecent cutoff with
    | true => simp
    | false =>
        rw [if_neg Bool.false_ne_true, and_iff_right rfl]
        cases hf : follower.readable <;> cases hl : leader.readable <;> cases side <;>
          simp [Side.pick, Side.other, hf, hl, hfollower, hleader]
        -- only where neither side is readable it matters which values are there
        all_goals split_ifs <;> simp
  · refine iff_of_false (fun h => ?_) fun h => heq h.1
    have hstatus := @status_decideRepair_of_ne follower leader refreshed cutoff heq
    rw [h] at hstatus
    cases hstatus

/-! ### Cutoffs -/

/-- Whether a cutoff is no later than another one. No cutoff counts as later than any. -/
def IsNoLater : Option Instant → Option Instant → Prop
  | _, none => True
  | none, some _ => False
  | some limit, some later => limit ≤ later

/-- A side is not too recent if it is not readable or has not been modified since the cutoff. -/
theorem ReplicaState.tooRecent_eq_false_iff {state : ReplicaState} :
    state.tooRecent cutoff = false ↔ ∀ limit modified, cutoff = some limit →
      state.readable = true → state.lastModified = some modified → ¬limit ≤ modified := by
  rw [tooRecent.eq_def]
  cases cutoff <;> cases state.lastModified <;> simp

/-- What is too recent for a cutoff is so for an earlier one. -/
theorem ReplicaState.tooRecent_of_isNoLater {state : ReplicaState} {later : Option Instant}
    (h : IsNoLater cutoff later) (hrecent : state.tooRecent later = true) :
    state.tooRecent cutoff = true := by
  rw [tooRecent.eq_def] at hrecent
  split at hrecent
  next limit modified hmodified =>
    obtain ⟨hreadable, hle⟩ := Bool.and_eq_true_iff.1 hrecent
    cases cutoff with
    | none => cases h
    | some earlier =>
        have hearlier : earlier ≤ modified := Instant.le_trans h (of_decide_eq_true hle)
        rw [tooRecent.eq_def, hmodified]
        exact Bool.and_eq_true_iff.2 ⟨hreadable, decide_eq_true hearlier⟩
  · cases hrecent

/-- If the leader holds something else than at the scan, the cutoff does not count. -/
theorem decideRepair_congr_of_ne (h : refreshed ≠ leader.value) (later : Option Instant) :
    decideRepair follower leader refreshed later =
      decideRepair follower leader refreshed cutoff := by
  rw [decideRepair.eq_def, decideRepair.eq_def]
  split
  · rfl
  · rfl
  · rw [if_pos h, if_pos h]

/-- **A later cutoff changes no verdict** but that a side is too recent. -/
theorem decideRepair_eq_of_isNoLater {later : Option Instant} (h : IsNoLater cutoff later)
    (hrecent : (decideRepair follower leader refreshed cutoff).status ≠ .tooRecent) :
    decideRepair follower leader refreshed later =
      decideRepair follower leader refreshed cutoff := by
  by_cases heq : refreshed = leader.value
  · have hold : (leader.tooRecent cutoff || follower.tooRecent cutoff) = false := by
      refine Bool.eq_false_iff.2 fun htrue => hrecent ?_
      rw [decideRepair_of_eq heq, if_pos htrue]
      rfl
    have hlater : (leader.tooRecent later || follower.tooRecent later) = false := by
      refine Bool.eq_false_iff.2 fun htrue => Bool.eq_false_iff.1 hold ?_
      rw [Bool.or_eq_true] at htrue ⊢
      exact htrue.imp (ReplicaState.tooRecent_of_isNoLater h)
        (ReplicaState.tooRecent_of_isNoLater h)
    rw [decideRepair_of_eq heq, decideRepair_of_eq heq, hold, hlater]
  · exact decideRepair_congr_of_ne heq later

/-! ### The rules -/

/-- How a difference is decided, by the two sides and what the leader holds now. -/
structure FollowsRules (follower leader : ReplicaState) (refreshed : Option String) : Prop where
  /-- It is repaired from a side exactly if the leader holds what it held at the scan, this side is
  the only readable one, and no readable side was modified at the cutoff or after it. -/
  repaired : ∀ cutoff side,
    (decideRepair follower leader refreshed cutoff).status = .autoRepair ∧
        (decideRepair follower leader refreshed cutoff).source? = some side ↔
      refreshed = leader.value ∧
        (∀ other : Side, (other.pick follower leader).readable = true ↔ other = side) ∧
        ∀ limit modified (other : Side), cutoff = some limit →
          (other.pick follower leader).readable = true →
          (other.pick follower leader).lastModified = some modified → ¬limit ≤ modified
  /-- A side is named for a repair and for nothing else. -/
  named : ∀ cutoff, (decideRepair follower leader refreshed cutoff).source?.isSome = true ↔
    (decideRepair follower leader refreshed cutoff).status = .autoRepair
  /-- A client has written exactly if the leader holds something else than at the scan. -/
  updated : ∀ cutoff, (decideRepair follower leader refreshed cutoff).status = .updatedByClient ↔
    refreshed ≠ leader.value
  /-- A later cutoff decides otherwise only where a side was too recent. -/
  relaxed : ∀ cutoff later, IsNoLater cutoff later →
    decideRepair follower leader refreshed later ≠ decideRepair follower leader refreshed cutoff →
    (decideRepair follower leader refreshed cutoff).status = .tooRecent

/-- Exactly one side is readable if it is and the one across is not. -/
theorem readable_iff_eq_side {side : Side} :
    (∀ other : Side, (other.pick follower leader).readable = true ↔ other = side) ↔
      (side.pick follower leader).readable = true ∧
        (side.other.pick follower leader).readable = false := by
  constructor
  · intro h
    refine ⟨(h side).2 rfl, Bool.eq_false_iff.2 fun hother => ?_⟩
    have hside := (h side.other).1 hother
    cases side <;> cases hside
  · rintro ⟨hside, hother⟩ other
    by_cases heq : other = side
    · exact iff_of_true (heq ▸ hside) heq
    · have hacross : other = side.other := by cases other <;> cases side <;> trivial
      rw [hacross, hother]
      exact iff_of_false Bool.false_ne_true (hacross ▸ heq)

/-- **Every difference is decided by the rules**, whatever its sides say of themselves.

The rules are tried in turn, so to repair from a side none before that may apply;
`decideRepair_eq_repairFrom_iff` has them all. -/
theorem followsRules_decideRepair (follower leader : ReplicaState) (refreshed : Option String) :
    FollowsRules follower leader refreshed where
  repaired cutoff side := by
    have hstatus : (decideRepair follower leader refreshed cutoff).status = .autoRepair ∧
          (decideRepair follower leader refreshed cutoff).source? = some side ↔
        decideRepair follower leader refreshed cutoff = .repairFrom side := by
      rw [Verdict.source?_eq_some_iff, and_iff_right_iff_imp]
      intro hverdict
      rw [hverdict]
      rfl
    have hrecent : (∀ other : Side, (other.pick follower leader).tooRecent cutoff = false) ↔
        ∀ limit modified (other : Side), cutoff = some limit →
          (other.pick follower leader).readable = true →
          (other.pick follower leader).lastModified = some modified → ¬limit ≤ modified := by
      simp only [ReplicaState.tooRecent_eq_false_iff]
      exact ⟨fun h limit modified other => h other limit modified,
        fun h other limit modified => h limit modified other⟩
    rw [hstatus, decideRepair_eq_repairFrom_iff, hrecent, readable_iff_eq_side]
    exact and_congr_right fun _ => and_comm
  named cutoff := Verdict.isSome_source?_iff _
  updated _ := status_decideRepair_eq_updatedByClient_iff
  relaxed _ _ h hne := by
    by_contra hrecent
    exact hne (decideRepair_eq_of_isNoLater h hrecent)

end Reconcile
