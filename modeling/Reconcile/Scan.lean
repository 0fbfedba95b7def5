import Reconcile.Comparison
import Reconcile.FollowerDb
import Reconcile.Listing

/-!
# Scans

A scan compares all items of a follower with the leader and delivers the differences in key order.
It cuts the items into chunks, lists the leader's items of each chunk's range page by page, and
compares the two; each chunk is compared completely before the next item is read.

Whoever receives the differences may go away, and from then on none can be delivered. A scan ends
with the first failure: of the follower, of a key without a bucket, of a listing, or of a
delivery. What it delivered before stays delivered.
-/

namespace Reconcile

/-- The sizes that a scan works with. -/
structure ScanSettings where
  /-- The greatest number of items held on each side. -/
  bufferSize : Nat
  /-- The number of items asked for in one page of a listing. -/
  pageSize : Nat
  deriving DecidableEq, Repr, Inhabited

/-- The sizes that are used unless others are set. -/
def ScanSettings.standard : ScanSettings :=
  ⟨1000, 1000⟩

/-- Why a scan ends early. -/
inductive ScanError where
  /-- A listing of the leader failed. -/
  | net (error : NetError)
  /-- A key of the follower names no object. -/
  | key (error : KeyError)
  /-- The follower cannot be read. -/
  | database (error : DatabaseError)
  /-- Nobody receives the differences any more. -/
  | sinkClosed
  deriving DecidableEq, Repr

/-- The wording of a scan error. -/
def ScanError.message : ScanError → String
  | .net error => "leader listing failed: " ++ error.message
  | .key error => "malformed local key: " ++ error.message
  | .database error => "follower database error: " ++ error.message
  | .sinkClosed => "difference sink closed"

/-- What scans have counted. -/
structure Progress where
  /-- Items read from followers. -/
  keysScanned : Nat
  /-- Items skipped thanks to digests. -/
  keysSkipped : Nat
  /-- Keys found on a follower only. -/
  onlyOnFollower : Nat
  /-- Keys found on the leader only. -/
  onlyOnLeader : Nat
  /-- Keys found on both sides with different values. -/
  differingValue : Nat
  /-- Ranges whose comparison was started. -/
  rangeQueries : Nat
  deriving DecidableEq, Repr, Inhabited

namespace Progress

/-- Before the first item. -/
def zero : Progress :=
  ⟨0, 0, 0, 0, 0, 0⟩

/-- The number of differences found. -/
def differences (progress : Progress) : Nat :=
  progress.onlyOnFollower + progress.onlyOnLeader + progress.differingValue

/-- Counts one difference. -/
def record (progress : Progress) : DifferenceKind → Progress
  | .onlyOnFollower => { progress with onlyOnFollower := progress.onlyOnFollower + 1 }
  | .onlyOnLeader => { progress with onlyOnLeader := progress.onlyOnLeader + 1 }
  | .differingValue => { progress with differingValue := progress.differingValue + 1 }

end Progress

/-- Where the differences of a scan go, with what has been counted. -/
structure Output where
  progress : Progress
  /-- The differences delivered so far. -/
  delivered : Array Difference
  /-- How many more differences will be received; without a number all will. -/
  room : Option Nat
  deriving DecidableEq, Repr

namespace Output

/-- An output that has received nothing yet. -/
def start (progress : Progress) (room : Option Nat) : Output :=
  ⟨progress, #[], room⟩

/-- Counts a difference and delivers it. A difference that cannot be delivered is counted too. -/
def emit (output : Output) (difference : Difference) : Except ScanError Unit × Output :=
  let counted := { output with progress := output.progress.record difference.kind }
  match output.room with
  | none => (.ok (), { counted with delivered := output.delivered.push difference })
  | some 0 => (.error .sinkClosed, counted)
  | some (room + 1) =>
    (.ok (), { counted with delivered := output.delivered.push difference, room := some room })

/-- Counts and delivers differences up to the first that cannot be delivered. -/
def emitAll (output : Output) : List Difference → Except ScanError Unit × Output
  | [] => (.ok (), output)
  | difference :: rest =>
    match output.emit difference with
    | (.ok (), output) => output.emitAll rest
    | (.error error, output) => (.error error, output)

/-- Counts items that were read. -/
def countScanned (output : Output) : Output :=
  { output with
    progress := { output.progress with keysScanned := output.progress.keysScanned + 1 } }

/-- Counts items that were skipped. -/
def countSkipped (output : Output) (n : Nat) : Output :=
  { output with
    progress := { output.progress with keysSkipped := output.progress.keysSkipped + n } }

/-- Counts a range whose comparison starts. -/
def countRange (output : Output) : Output :=
  { output with
    progress := { output.progress with rangeQueries := output.progress.rangeQueries + 1 } }

end Output

namespace Comparison

/-- Takes a page of the leader's items and delivers the differences found. -/
def takePage (comparison : Comparison) (output : Output) :
    List Item → Except ScanError Comparison × Output
  | [] => (.ok comparison, output)
  | item :: page =>
    let (found, comparison) := comparison.push item
    match output.emitAll found with
    | (.ok (), output) => comparison.takePage output page
    | (.error error, output) => (.error error, output)

/-- Takes all pages of a listing that are still to come and ends the comparison. -/
def takeListing {σ : Type} (comparison : Comparison) (leader : Leader σ) (listing : Listing)
    (state : σ) (output : Output) : Except ScanError Unit × σ × Output :=
  match _h : listing.next leader state with
  | (.error error, _, state) => (.error (.net error), state, output)
  | (.ok none, _, state) =>
    let (result, output) := output.emitAll comparison.finish
    (result, state, output)
  | (.ok (some page), following, after) =>
    match comparison.takePage output page with
    | (.ok comparison, output) => comparison.takeListing leader following after output
    | (.error error, output) => (.error error, after, output)
  termination_by listing.pagesLeft leader state
  decreasing_by exact Listing.pagesLeft_lt ‹listing.next leader state = _›

end Comparison

/-- Compares a chunk with the leader's items of its range. -/
def Chunk.compare {σ : Type} (chunk : Chunk) (leader : Leader σ) (settings : ScanSettings)
    (state : σ) (output : Output) : Except ScanError Unit × σ × Output :=
  (Comparison.start settings.bufferSize chunk.items).takeListing leader
    (Listing.start chunk.range settings.pageSize) state output.countRange

namespace Scan

/-- Compares a chunk, if there is one. -/
def compare? {σ : Type} (leader : Leader σ) (settings : ScanSettings) (state : σ)
    (output : Output) : Option Chunk → Except ScanError Unit × σ × Output
  | none => (.ok (), state, output)
  | some chunk => chunk.compare leader settings state output

/-- Scans the items that are left, then the end of the source. -/
def scanFrom {σ : Type} (leader : Leader σ) (settings : ScanSettings)
    (fault : Option DatabaseError) (chunker : Chunker) (state : σ) (output : Output) :
    List Item → Except ScanError Unit × σ × Output
  | [] =>
    match fault with
    | some error => (.error (.database error), state, output)
    | none => compare? leader settings state output chunker.finish.1
  | item :: items =>
    let output := output.countScanned
    match chunker.advance item with
    | (.error error, _) => (.error (.key error), state, output)
    | (.ok chunk, chunker) =>
      let (skipped, chunker) := chunker.takeSkipped
      match compare? leader settings state (output.countSkipped skipped) chunk with
      | (.ok (), state, output) => scanFrom leader settings fault chunker state output items
      | failed => failed

/-- Scans all items of a source. -/
def run {σ : Type} (leader : Leader σ) (settings : ScanSettings) (digests : Option DigestIndex)
    (source : ItemSource) (state : σ) (output : Output) : Except ScanError Unit × σ × Output :=
  scanFrom leader settings source.fault (.start settings.bufferSize digests) state output
    source.items

end Scan

end Reconcile
