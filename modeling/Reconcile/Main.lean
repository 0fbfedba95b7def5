import Reconcile.Net.Message
import Reconcile.Program
import Std.Internal.UV.DNS
import Std.Internal.UV.TCP
import Std.Internal.UV.Timer
import Std.Time.DateTime.Timestamp

/-!
# The command line

Looks at what a run can see, carries the run out, and does what it comes to. A run is a function of
the replies of its servers. It is carried out with the replies known so far; if one request more
then arrives, that request is sent, and the run is carried out again with the reply to it.

A follower database is a directory with a file of items, one a line, of which later ones replace
earlier ones of the same key.
-/

namespace Reconcile.Main

open Std.Internal.UV

/-! ### Sending requests -/

/-- Waits for a result, but not for longer than so many milliseconds. -/
def await {α : Type} (limit : Nat) (promise : IO.Promise (Except IO.Error α)) : IO α := do
  let timer ← Timer.mk (UInt64.ofNat limit) false
  let ring ← timer.next
  let late : Except IO.Error α := .error (IO.userError "no answer in time")
  let result ← IO.waitAny [promise.result!, ring.result!.map fun _ => late]
  timer.stop
  IO.ofExcept result

/-- The address of a host. -/
def resolve (limit : Nat) (host : String) (port : Nat) : IO Std.Net.SocketAddress := do
  let addresses : Array Std.Net.IPAddr ← await limit (← DNS.getAddrInfo host "" 0)
  match addresses.toList.head? with
  | some (Std.Net.IPAddr.v4 address) => return .v4 ⟨address, UInt16.ofNat port⟩
  | some (Std.Net.IPAddr.v6 address) => return .v6 ⟨address, UInt16.ofNat port⟩
  | none => throw (IO.userError "no address")

/-- Receives what a server sends until it closes the connection. -/
partial def receive (limit : Nat) (socket : TCP.Socket) (before : ByteArray) : IO ByteArray := do
  match ← await limit (← socket.recv? 65536) with
  | some bytes => receive limit socket (before ++ bytes)
  | none => return before

/-- Sends a request and waits for the reply. -/
def exchange (settings : Settings) (request : Request) : IO Reply := do
  match Message.envelope? request with
  | none => return .silence
  | some envelope =>
    try
      let socket ← TCP.Socket.new
      let address ← resolve settings.connectLimit envelope.host envelope.port
      await settings.connectLimit (← socket.connect address)
      await settings.requestLimit (← socket.send #[⟨envelope.bytes.toArray⟩])
      let answer ← receive settings.requestLimit socket .empty
      return Message.reply request answer.toList
    catch _ => return .silence

/-- Whether a reply leads to another attempt, if one is left. -/
def isTransient : Reply → Bool
  | .answer status _ cut _ =>
    cut || !isAnswerStatus status || NetError.isTransientStatus status
  | .silence => true

/-- Attempts at a request: how many have been made one after the other, and the last reply. -/
structure Attempts where
  request : Request
  count : Nat
  last : Reply

/-- How many attempts a request continues: it is made once more after a reply that allows for it. -/
def Attempts.before (attempts : Option Attempts) (request : Request) : Nat :=
  match attempts with
  | some attempts =>
    if attempts.request == request && isTransient attempts.last then attempts.count else 0
  | none => 0

/-- The attempts after one more request and the reply to it. -/
def Attempts.step (attempts : Option Attempts) (entry : Arrival × Reply) : Option Attempts :=
  let (arrival, reply) := entry
  if arrival.follows then attempts.map ({ · with last := reply })
  else some ⟨arrival.request, before attempts arrival.request + 1, reply⟩

/-- Carries out a run, sending the requests that it makes. -/
partial def carryOut (surroundings : Surroundings) (settings : Settings)
    (replies : Array Reply) : IO Outcome := do
  let outcome := Program.run { surroundings with network := .ofReplies replies.toList }
  let arrivals := outcome.network.arrivals
  match arrivals[replies.size]? with
  | none => return outcome
  | some arrival =>
    let attempts := (arrivals.toList.zip replies.toList).foldl Attempts.step none
    let count := Attempts.before attempts arrival.request
    if !arrival.follows && 0 < count then
      IO.sleep (UInt32.ofNat (settings.retryPolicy.delayBefore count))
    carryOut surroundings settings (replies.push (← exchange settings arrival.request))

/-! ### Looking at the disk -/

/-- The file of a database that holds its items. -/
def itemsFile (path : String) : String :=
  path ++ "/items"

/-- Whether a directory is there. -/
def isDirectory (path : String) : IO Bool := do
  try
    (← IO.FS.realPath path).isDir
  catch _ => return false

/-- The paths of the directories that a path leads through. -/
def parents (path : String) : List String :=
  let names := path.splitOn "/"
  (List.range (names.length - 1)).map fun n =>
    let parent := "/".intercalate (names.take (n + 1))
    if parent.isEmpty then "/" else parent

/-- Looks at what a path leads to and leads through. -/
def lookAt (disk : Disk) (path : String) : IO Disk := do
  let directories ← (path :: parents path).filterM fun path =>
    if path.isEmpty then return false else isDirectory path
  let disk := { disk with directories := disk.directories ++ directories }
  try
    let content ← IO.FS.readBinFile path
    return { disk with files := (path, content.toList) :: disk.files }
  catch _ => return disk

/-- Opens a database. One that is not there is made. -/
def openDatabase (disk : Disk) (path : String) : IO Disk := do
  IO.FS.createDirAll path
  let lines ← try pure (← IO.FS.lines (itemsFile path)).toList catch _ => pure []
  let db := FollowerDb.ofItems (lines.filterMap Item.parse?)
  return { disk with databases := (path, db) :: disk.databases }

/-- Looks at all that a run may see of the disk. -/
def lookAround (arguments : Arguments) : IO (Disk × Settings) := do
  let disk ← arguments.config.toList.foldlM lookAt ⟨[], [], []⟩
  match Program.loadSettings disk arguments.config with
  | .error _ => return (disk, .empty)
  | .ok settings =>
    match arguments.command with
    | .diff options =>
      let settings := Program.withScanOptions settings options
      let disk ← settings.output.toList.foldlM lookAt disk
      match Program.scanJob settings with
      | .error _ => return (disk, settings)
      | .ok job => return (← job.databases.foldlM openDatabase disk, settings)
    | .repair options =>
      return (← options.input.toList.foldlM lookAt disk,
        Program.withRepairOptions settings options)

/-! ### The whole -/

/-- The variable for the filter of messages. -/
def filterVariable : String :=
  "LOG_FILTER"

/-- The variables that may give values of options, with what they hold. -/
def readEnvironment : IO (List (String × String)) := do
  let options := Arguments.scanOptions ++ Arguments.repairOptions
  (options.filterMap (·.fallback)).filterMapM fun name => do
    return (← IO.getEnv name).map fun value => (name, value)

/-- The standard input of a repair that reads it. -/
def readInput (arguments : Arguments) : IO (List UInt8) := do
  match arguments.command with
  | .repair options =>
    if options.input.isSome then return []
    else return (← (← IO.getStdin).readBinToEnd).toList
  | .diff _ => return []

/-- The present. -/
def readClock : IO Instant := do
  let now ← Std.Time.Timestamp.now
  let nanos := now.toNanosecondsSinceUnixEpoch.val
  return ⟨nanos / 1000000000, (nanos % 1000000000).toNat⟩

/-- Counters as they are shown. -/
def renderCounts : Counts → String
  | .scans progress =>
    s!"keys_scanned={progress.keysScanned} keys_skipped={progress.keysSkipped} " ++
      s!"only_on_follower={progress.onlyOnFollower} only_on_leader={progress.onlyOnLeader} " ++
      s!"differing_value={progress.differingValue} range_queries={progress.rangeQueries}"
  | .repairs counters =>
    s!"auto_repair={counters.autoRepair} auto_repair_error={counters.autoRepairError} " ++
      s!"manual_repair={counters.manualRepair} not_repairable={counters.notRepairable} " ++
      s!"updated_by_client={counters.updatedByClient} too_recent={counters.tooRecent} " ++
      s!"lookup_error={counters.lookupError}"

/-- Does what a run comes to. -/
def settle (outcome : Outcome) : IO UInt32 := do
  if let some (path, content) := outcome.created then
    let handle ← IO.FS.Handle.mk path .writeNew
    handle.write ⟨content.toArray⟩
  if let some summary := outcome.summary then
    IO.println (summary.message ++ " " ++ renderCounts summary.counts)
  if let .error error := outcome.result then
    IO.eprintln ("Error: " ++ "\n  caused by: ".intercalate error.report)
  return UInt32.ofNat outcome.exitCode

/-- Runs the program with some words. -/
def runWith (words : List String) : IO UInt32 := do
  let environment ← readEnvironment
  let logFilter ← IO.getEnv filterVariable
  let now ← readClock
  let surroundings : Surroundings :=
    { words, environment, input := [], disk := ⟨[], [], []⟩, now, network := .unreachable, logFilter
      scanTarget := "scan", repairTarget := "repair" }
  match Arguments.parse environment words with
  | .error _ => settle (Program.run surroundings)
  | .ok arguments =>
    let (disk, settings) ← lookAround arguments
    let surroundings := { surroundings with disk, input := ← readInput arguments }
    settle (← carryOut surroundings settings #[])

end Reconcile.Main

/-- The program. -/
def main (words : List String) : IO UInt32 :=
  Reconcile.Main.runWith words
