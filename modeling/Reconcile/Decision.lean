import Reconcile.Metadata

/-!
# What to do about a difference

A difference is repaired by itself only if exactly one of its sides is *readable*: its metadata is
there and all blobs that hold the object's data are. Before that it is left alone if the leader
has changed since the scan, or if a readable side was modified too recently.

`decide` gives a `Verdict`, which says what was found. The status it counts under, its wording and
the side to repair from are functions of it, so that a side is named only where one is written.
-/

namespace Reconcile

/-- One of the two replicas. -/
inductive Side where
  | follower
  | leader
  deriving DecidableEq, Repr

/-- What a difference is counted as. -/
inductive RepairStatus where
  /-- Exactly one side is readable. -/
  | autoRepair
  /-- Both sides are readable, so that someone has to choose. -/
  | manualRepair
  /-- Neither side is readable. -/
  | notRepairable
  /-- The leader has changed since the scan. -/
  | updatedByClient
  /-- A readable side was modified too recently. -/
  | tooRecent
  deriving DecidableEq, Repr

/-- What was found out about a difference. -/
inductive Verdict where
  /-- The leader has the key, and had not at the scan. -/
  | appearedOnLeader
  /-- The leader has another value than at the scan. -/
  | changedOnLeader
  /-- The leader no longer has the key. -/
  | vanishedFromLeader
  | tooRecent
  /-- The follower lacks the key, and the leader's side is not readable. -/
  | onlyUnreadableOnLeader
  /-- The leader lacks the key, and the follower's side is not readable. -/
  | onlyUnreadableOnFollower
  | unreadableOnBoth
  | readableOnBoth
  /-- Only this side is readable. -/
  | repairFrom (side : Side)
  deriving DecidableEq, Repr

namespace Verdict

/-- What a verdict is counted as. -/
def status : Verdict → RepairStatus
  | .appearedOnLeader | .changedOnLeader | .vanishedFromLeader => .updatedByClient
  | .tooRecent => .tooRecent
  | .onlyUnreadableOnLeader | .onlyUnreadableOnFollower | .unreadableOnBoth => .notRepairable
  | .readableOnBoth => .manualRepair
  | .repairFrom _ => .autoRepair

/-- The wording of a verdict. -/
def message : Verdict → String
  | .appearedOnLeader => "changed on leader's view (exists but expected to be missing)"
  | .changedOnLeader => "changed on leader's view (metadata changed)"
  | .vanishedFromLeader => "changed on leader's view (missing but expected to exist)"
  | .tooRecent => "last-modified too recent, not repairing"
  | .onlyUnreadableOnLeader => "absent from follower's view and not readable from leader's view"
  | .onlyUnreadableOnFollower => "absent from leader's view and not readable from follower's view"
  | .unreadableOnBoth => "not readable from neither leader's view nor follower's view"
  | .readableOnBoth =>
    "readable from both leader's view and follower's view but metadata is different"
  | .repairFrom .follower => "readable from follower's view only"
  | .repairFrom .leader => "readable from leader's view only"

/-- The side whose value is to be written, if one is. -/
def source? : Verdict → Option Side
  | .repairFrom side => some side
  | _ => none

/-- A side is named exactly for an automatic repair. -/
theorem isSome_source?_iff (verdict : Verdict) :
    verdict.source?.isSome ↔ verdict.status = .autoRepair := by
  cases verdict <;> simp [source?, status]

end Verdict

/-- What is known of one side of a difference. -/
structure ReplicaState where
  /-- The value at the scan, if there was one. -/
  value : Option String
  /-- When that value was last modified, if it says so. -/
  lastModified : Option Instant
  /-- Whether all blobs that hold the data are there. -/
  blobsPresent : Bool
  deriving DecidableEq, Repr

namespace ReplicaState

/-- The state of a side of which the value and the blobs were looked at. A value that is missing
has no blobs that could be there. -/
def observed (value : Option String) (blobsPresent : Bool) : ReplicaState :=
  { value
    lastModified := (value.bind Metadata.parse?).bind Metadata.lastModifiedAt?
    blobsPresent := blobsPresent && value.isSome }

/-- Whether the side can be repaired from: its value and all its blobs are there. -/
def readable (state : ReplicaState) : Bool :=
  state.blobsPresent && state.value.isSome

/-- Whether the side is readable and was modified at the cutoff or after it. Without a cutoff, or
without a time of modification, nothing is too recent. -/
def tooRecent (state : ReplicaState) (cutoff : Option Instant) : Bool :=
  match cutoff, state.lastModified with
  | some limit, some modified => state.readable && decide (limit ≤ modified)
  | _, _ => false

end ReplicaState

/-- Decides what to do about a difference, from the two sides as they were at the scan and the
leader's value as it is now. The first rule that fits counts: the leader has changed, a side is
too recent, nothing is readable, both are readable, one is. -/
def decideRepair (follower leader : ReplicaState) (refreshed : Option String)
    (cutoff : Option Instant) : Verdict :=
  match refreshed, leader.value with
  | some _, none => .appearedOnLeader
  | none, some _ => .vanishedFromLeader
  | refreshed, scanned =>
    if refreshed ≠ scanned then .changedOnLeader
    else if leader.tooRecent cutoff || follower.tooRecent cutoff then .tooRecent
    else if follower.value.isNone && !leader.readable then .onlyUnreadableOnLeader
    else if leader.value.isNone && !follower.readable then .onlyUnreadableOnFollower
    else if !leader.readable && !follower.readable then .unreadableOnBoth
    else if leader.readable && follower.readable then .readableOnBoth
    else .repairFrom (if follower.readable then .follower else .leader)

end Reconcile
