import Reconcile.Decision
import Reconcile.Difference
import Reconcile.Net.Error

/-!
# Repairing one difference

A repair looks at the blobs of both sides, reads the leader's value once more and, for one version
of an object, the object itself. Then it decides what to do. If one side is to be written, its
value at the scan goes to the leader unchanged; for a version it then goes to the object as well,
provided that the object is missing or is at this very version.

A lookup that fails leaves the leader as it is. So does a key or a metadata text that cannot be
read, before anything is looked up.
-/

namespace Reconcile

/-- What a blob store says of a blob. -/
inductive BlobStatus where
  | present
  | missing
  deriving DecidableEq, Repr

/-- The leader and the blob store, as calls on a state of type `σ`. -/
structure Services (σ : Type) where
  /-- Reads the text of an object. -/
  get : ObjectName → σ → Except NetError (Option String) × σ
  /-- Writes the text of an object. -/
  put : ObjectName → String → σ → Except NetError Unit × σ
  /-- Looks for a blob. -/
  probe : String → σ → Except NetError BlobStatus × σ

/-- Why a repair run ends early. -/
inductive RepairError where
  /-- A line holds no difference. -/
  | malformedEntry (line : Nat)
  /-- A value holds no metadata. -/
  | malformedMetadata (name : ObjectName)
  /-- A key names no object. -/
  | key (error : KeyError)
  /-- The input cannot be read. -/
  | io (reason : String)
  deriving DecidableEq, Repr

/-- The wording of a repair error, up to what is wrong with the JSON text. -/
def RepairError.message : RepairError → String
  | .malformedEntry line => "malformed difference record on line " ++ toString line
  | .malformedMetadata name => "malformed metadata for " ++ name.render
  | .key error => "invalid key: " ++ error.message
  | .io reason => "I/O error: " ++ reason

/-- What a repair comes to. -/
inductive RepairOutcome where
  /-- Nothing was to be written. -/
  | skipped (status : RepairStatus)
  /-- The value of a side was written; `withMaster`: to the object of a version as well. -/
  | repaired (source : Side) (withMaster : Bool)
  /-- A call to the leader failed. -/
  | failed
  deriving DecidableEq, Repr

/-- What repairs have been counted as. -/
structure RepairCounters where
  /-- Automatic repairs, those that failed included. -/
  autoRepair : Nat
  /-- Automatic repairs that failed. -/
  autoRepairError : Nat
  manualRepair : Nat
  notRepairable : Nat
  updatedByClient : Nat
  tooRecent : Nat
  /-- Differences that could not be looked up. -/
  lookupError : Nat
  deriving DecidableEq, Repr, Inhabited

namespace RepairCounters

/-- Before the first repair. -/
def zero : RepairCounters :=
  ⟨0, 0, 0, 0, 0, 0, 0⟩

/-- Counts a status. -/
def record (counters : RepairCounters) : RepairStatus → RepairCounters
  | .autoRepair => { counters with autoRepair := counters.autoRepair + 1 }
  | .manualRepair => { counters with manualRepair := counters.manualRepair + 1 }
  | .notRepairable => { counters with notRepairable := counters.notRepairable + 1 }
  | .updatedByClient => { counters with updatedByClient := counters.updatedByClient + 1 }
  | .tooRecent => { counters with tooRecent := counters.tooRecent + 1 }

/-- Counts a lookup that failed. -/
def recordLookupError (counters : RepairCounters) : RepairCounters :=
  { counters with lookupError := counters.lookupError + 1 }

/-- Counts an automatic repair that failed. -/
def recordWriteError (counters : RepairCounters) : RepairCounters :=
  { counters with autoRepairError := counters.autoRepairError + 1 }

end RepairCounters

namespace Services

variable {σ : Type}

/-- Whether all blobs of a list are there. The first that is not, or that cannot be looked for,
ends the search. -/
def allPresent (services : Services σ) : List String → σ → Bool × σ
  | [], state => (true, state)
  | blob :: blobs, state =>
    match services.probe blob state with
    | (.ok .present, state) => services.allPresent blobs state
    | (_, state) => (false, state)

/-- Whether all blobs of some metadata are there; those of missing metadata are not. -/
def blobsPresent (services : Services σ) (metadata : Option Metadata) (state : σ) : Bool × σ :=
  match metadata with
  | none => (false, state)
  | some metadata => services.allPresent metadata.blobs state

/-- For one version of an object, the object key that a repair has to write as well: that of the
object, if the object is missing or is at this version. -/
def masterToWrite? (services : Services σ) (name : ObjectName) (state : σ) :
    Except NetError (Option String) × σ :=
  match name.masterKey?, name.versionId? with
  | some master, some version =>
    match services.get (name.sibling master) state with
    | (.error error, state) => (.error error, state)
    | (.ok none, state) => (.ok (some master), state)
    | (.ok (some text), state) =>
      match Metadata.parse? text with
      | some metadata =>
        (.ok (if metadata.versionId = some version then some master else none), state)
      | none => (.ok none, state)
  | _, _ => (.ok none, state)

end Services

namespace Repair

variable {σ : Type}

/-- The metadata of one side of a difference. -/
def metadataOf (name : ObjectName) : Option Item → Except RepairError (Option Metadata)
  | none => .ok none
  | some item =>
    match Metadata.parse? item.value with
    | some metadata => .ok (some metadata)
    | none => .error (.malformedMetadata name)

/-- What a repair finds out before it decides. -/
structure Lookup where
  followerPresent : Bool
  leaderPresent : Bool
  /-- The leader's value as it is now. -/
  refreshed : Except NetError (Option String)
  /-- The object key that the repair has to write as well. -/
  master : Except NetError (Option String)

/-- Looks everything up, also after a failure. -/
def lookUp (services : Services σ) (name : ObjectName) (follower leader : Option Metadata)
    (state : σ) : Lookup × σ :=
  let (followerPresent, state) := services.blobsPresent follower state
  let (leaderPresent, state) := services.blobsPresent leader state
  let (refreshed, state) := services.get name state
  let (master, state) := services.masterToWrite? name state
  (⟨followerPresent, leaderPresent, refreshed, master⟩, state)

/-- The verdict on a difference, from what the leader holds now and which blobs are there. -/
def verdict (difference : Difference) (lookup : Lookup) (refreshed : Option String)
    (cutoff : Option Instant) : Verdict :=
  decideRepair (.observed difference.followerValue? lookup.followerPresent)
    (.observed difference.leaderValue? lookup.leaderPresent) refreshed cutoff

/-- The text that one side of a difference holds. -/
def sideValue? (difference : Difference) : Side → Option String
  | .follower => difference.followerValue?
  | .leader => difference.leaderValue?

/-- Writes a text to an object and, if there is one, to the master key of its bucket. Stops at the
first failure. -/
def write (services : Services σ) (name : ObjectName) (master : Option String) (text : String)
    (state : σ) : Except NetError Unit × σ :=
  match services.put name text state with
  | (.error error, state) => (.error error, state)
  | (.ok (), state) =>
    match master with
    | none => (.ok (), state)
    | some key => services.put (name.sibling key) text state

/-- Acts on a verdict. -/
def act (services : Services σ) (name : ObjectName) (difference : Difference) (verdict : Verdict)
    (master : Option String) (state : σ) (counters : RepairCounters) :
    RepairOutcome × σ × RepairCounters :=
  let counters := counters.record verdict.status
  match verdict.source? with
  | none => (.skipped verdict.status, state, counters)
  | some side =>
    match sideValue? difference side with
    | none => (.skipped verdict.status, state, counters)
    | some text =>
      match write services name master text state with
      | (.ok (), state) => (.repaired side master.isSome, state, counters)
      | (.error _, state) => (.failed, state, counters.recordWriteError)

/-- Repairs one difference, if it can be repaired by itself. -/
def entry (services : Services σ) (cutoff : Option Instant) (difference : Difference) (state : σ)
    (counters : RepairCounters) : Except RepairError RepairOutcome × σ × RepairCounters :=
  match ObjectName.ofKey difference.key with
  | .error error => (.error (.key error), state, counters)
  | .ok name =>
    match metadataOf name difference.follower, metadataOf name difference.leader with
    | .error error, _ => (.error error, state, counters)
    | _, .error error => (.error error, state, counters)
    | .ok follower, .ok leader =>
      let (lookup, state) := lookUp services name follower leader state
      match lookup.refreshed, lookup.master with
      | .ok refreshed, .ok master =>
        let (outcome, state, counters) :=
          act services name difference (verdict difference lookup refreshed cutoff) master state
            counters
        (.ok outcome, state, counters)
      | _, _ => (.ok .failed, state, counters.recordLookupError)

end Repair

end Reconcile
