import Reconcile.Arguments
import Reconcile.Disk
import Reconcile.Log
import Reconcile.Net.BlobClient
import Reconcile.Net.MetadataClient
import Reconcile.Repair.File
import Reconcile.Settings

/-!
# The program

A run of the program as a function of what it can see: its words and variables, its files and
databases, the time, and the network. `Program.run` gives what it comes to: the failure that ends
it, if one does, the counters reported last, and the difference file that was written.

A scan goes through the databases one after the other and writes the differences of all of them to
one new file. A repair reads a difference file and repairs what it holds.
-/

namespace Reconcile

/-- What a run can see. -/
structure Surroundings where
  /-- The words behind the program's name. -/
  words : List String
  environment : List (String × String)
  /-- The standard input. -/
  input : List UInt8
  disk : Disk
  now : Instant
  network : Network
  /-- The filter for messages that goes before that of the settings. -/
  logFilter : Option String
  /-- The target of the messages of scans. -/
  scanTarget : String
  /-- The target of the messages of repairs. -/
  repairTarget : String

/-- Why a run ends with a failure. -/
inductive ProgramError where
  /-- The words are wrong. -/
  | usage
  /-- The file of settings cannot be read. -/
  | unreadableSettings (path : String)
  /-- The file of settings holds none. -/
  | malformedSettings
  | noMetadataEndpoint
  | noBlobEndpoint
  | noOutput
  | noDatabase
  | cannotCreate (path : String) (error : FileError)
  | metadataEndpoint (error : NetError)
  | blobStore (error : NetError)
  | cutoff (error : DateError)
  | scan (database : String) (error : ScanError)
  | repair (error : RepairError)
  deriving DecidableEq, Repr

/-! ### Reports -/

/-- The wording of a failed call and of its causes. -/
def NetError.report : NetError → List String
  | .url error => [NetError.message (.url error), error.message]
  | .retriesExhausted attempts last =>
    NetError.message (.retriesExhausted attempts last) :: last.report
  | error => [error.message]

/-- The wording of a database error and of its causes. -/
def DatabaseError.report : DatabaseError → List String
  | .notText error => [DatabaseError.message (.notText error), error.message]
  | .io reason => [DatabaseError.message (.io reason), reason]

/-- The wording of a scan error and of its causes. -/
def ScanError.report : ScanError → List String
  | .net error => ScanError.message (.net error) :: error.report
  | .key error => [ScanError.message (.key error), error.message]
  | .database error => ScanError.message (.database error) :: error.report
  | .sinkClosed => [ScanError.message .sinkClosed]

/-- The wording of a repair error and of its causes. -/
def RepairError.report : RepairError → List String
  | .key error => [RepairError.message (.key error), error.message]
  | .io reason => [RepairError.message (.io reason), reason]
  | error => [error.message]

namespace ProgramError

/-- The wording of a failure and of its causes. -/
def report : ProgramError → List String
  | .usage => ["wrong arguments"]
  | .unreadableSettings path => ["failed to load config", "failed to read " ++ path]
  | .malformedSettings => ["failed to load config"]
  | .noMetadataEndpoint => ["no bucketd endpoint (--bucketd or BUCKETD_HOSTPORT)"]
  | .noBlobEndpoint => ["no sproxyd endpoint (--sproxyd or SPROXYD_HOSTPORT)"]
  | .noOutput => ["no output file (--output or DIFF_OUTPUT_FILE)"]
  | .noDatabase => ["no database to scan (--database or DATABASES)"]
  | .cannotCreate path error => ["failed to create " ++ path, error.message]
  | .metadataEndpoint error => "invalid bucketd endpoint" :: error.report
  | .blobStore error => "failed to get sproxyd alias" :: error.report
  | .cutoff error => [error.message]
  | .scan database error => ("scan of " ++ database ++ " failed") :: error.report
  | .repair error => "repair failed" :: error.report

/-- The exit code of a run that ends with a failure. -/
def exitCode : ProgramError → Nat
  | .usage => 2
  | _ => 1

end ProgramError

/-- What a run has counted. -/
inductive Counts where
  | scans (progress : Progress)
  | repairs (counters : RepairCounters)
  deriving DecidableEq, Repr

/-- What a run reports at its end. -/
structure Summary where
  message : String
  counts : Counts
  deriving DecidableEq, Repr

/-- What a run comes to. -/
structure Outcome where
  result : Except ProgramError Unit
  summary : Option Summary
  /-- The file that was created, with what it holds. -/
  created : Option (String × List UInt8)
  network : Network

/-- The exit code of a run. -/
def Outcome.exitCode (outcome : Outcome) : Nat :=
  match outcome.result with
  | .ok () => 0
  | .error error => error.exitCode

namespace Program

/-! ### Settings -/

/-- Reads settings from a file, if there is one for them. -/
def loadSettings (disk : Disk) : Option String → Except ProgramError Settings
  | none => .ok .empty
  | some path =>
    match (disk.read path).toOption.map Utf8.decode with
    | some (.ok text) =>
      match Settings.parse? text with
      | some settings => .ok settings
      | none => .error .malformedSettings
    | _ => .error (.unreadableSettings path)

/-- Settings with what a scan is told set over them. -/
def withScanOptions (settings : Settings) (options : ScanOptions) : Settings :=
  { settings with
    databases := if options.databases.isEmpty then settings.databases else options.databases
    output := options.output.or settings.output
    metadataEndpoint := options.metadataEndpoint.or settings.metadataEndpoint
    parallelScans := options.parallelScans.or settings.parallelScans
    progressInterval := options.progressInterval.or settings.progressInterval }

/-- Settings with what a repair is told set over them. -/
def withRepairOptions (settings : Settings) (options : RepairOptions) : Settings :=
  { settings with
    metadataEndpoint := options.metadataEndpoint.or settings.metadataEndpoint
    blobEndpoint := options.blobEndpoint.or settings.blobEndpoint
    olderThan := options.olderThan.or settings.olderThan }

/-- A value that has to be set. -/
def required {α : Type} (value : Option α) (error : ProgramError) : Except ProgramError α :=
  match value with
  | some value => .ok value
  | none => .error error

/-- An outcome before anything was done. -/
def refused (surroundings : Surroundings) (error : ProgramError) : Outcome :=
  ⟨.error error, none, none, surroundings.network⟩

/-- A report, if messages of its target are logged. -/
def summarize (surroundings : Surroundings) (settings : Settings) (target message : String)
    (counts : Counts) : Option Summary :=
  if Log.shows surroundings.logFilter settings.logLevel target .info then some ⟨message, counts⟩
  else none

/-! ### Scans -/

/-- Scans one database after the other up to the first that fails. -/
def scanAll (leader : Leader Network) (settings : ScanSettings) (disk : Disk)
    (network : Network) (output : Output) :
    List String → Except ProgramError Unit × Network × Output
  | [] => (.ok (), network, output)
  | path :: paths =>
    match Scan.run leader settings none (disk.database path).source network output with
    | (.ok (), network, output) => scanAll leader settings disk network output paths
    | (.error error, network, output) => (.error (.scan path error), network, output)

/-- What a scan needs. -/
structure ScanJob where
  endpoint : String
  output : String
  databases : List String

/-- Finds what a scan needs in the settings. -/
def scanJob (settings : Settings) : Except ProgramError ScanJob := do
  let endpoint ← required settings.metadataEndpoint .noMetadataEndpoint
  let output ← required settings.output .noOutput
  let databases := settings.databases.filter fun path => !FollowerDb.isSystem path
  if databases.isEmpty then .error .noDatabase else .ok ⟨endpoint, output, databases⟩

/-- Scans the databases of the settings. -/
def diff (surroundings : Surroundings) (settings : Settings) : Outcome :=
  match scanJob settings with
  | .error error => refused surroundings error
  | .ok job =>
    match surroundings.disk.canCreate job.output with
    | .error error => refused surroundings (.cannotCreate job.output error)
    | .ok () =>
      match MetadataClient.ofEndpoint job.endpoint settings.retryPolicy with
      | .error error =>
        { refused surroundings (.metadataEndpoint error) with created := some (job.output, []) }
      | .ok client =>
        let (result, network, output) :=
          scanAll client.leader settings.scanSettings surroundings.disk surroundings.network
            (.start .zero none) job.databases
        let message := if result.isOk then "completed scan" else "scan failed"
        { result
          summary := summarize surroundings settings surroundings.scanTarget message
            (.scans output.progress)
          created := some (job.output, DifferenceFile.write output.delivered.toList)
          network }

/-! ### Repairs -/

/-- The metadata service and the blob store on a network as what a repair works with. -/
def services (leader : MetadataClient) (blobs : BlobClient) : Services Network :=
  ⟨leader.get, leader.put, blobs.probe⟩

/-- What a repair needs. -/
structure RepairJob where
  leaderEndpoint : String
  blobEndpoint : String
  cutoff : Instant

/-- Finds what a repair needs in the settings. -/
def repairJob (settings : Settings) (now : Instant) : Except ProgramError RepairJob := do
  let leaderEndpoint ← required settings.metadataEndpoint .noMetadataEndpoint
  let blobEndpoint ← required settings.blobEndpoint .noBlobEndpoint
  let cutoff ← (settings.cutoff now).mapError ProgramError.cutoff
  return ⟨leaderEndpoint, blobEndpoint, cutoff⟩

/-- The bytes that a repair reads. -/
def repairInput (surroundings : Surroundings) : Option String → Except RepairError (List UInt8)
  | none => .ok surroundings.input
  | some path => (surroundings.disk.read path).mapError fun error => .io error.message

/-- Repairs what a difference file holds. -/
def repair (surroundings : Surroundings) (settings : Settings) (input : Option String) :
    Outcome :=
  match repairJob settings surroundings.now with
  | .error error => refused surroundings error
  | .ok job =>
    match MetadataClient.ofEndpoint job.leaderEndpoint settings.retryPolicy with
    | .error error => refused surroundings (.metadataEndpoint error)
    | .ok leader =>
      match BlobClient.connect job.blobEndpoint settings.retryPolicy surroundings.network with
      | (.error error, network) =>
        { refused surroundings (.blobStore error) with network }
      | (.ok blobs, network) =>
        let (result, network, counters) : Except RepairError Unit × Network × RepairCounters :=
          match repairInput surroundings input with
          | .error error => (.error error, network, .zero)
          | .ok bytes =>
            DifferenceFile.repair (services leader blobs) (some job.cutoff) bytes network .zero
        let message := if result.isOk then "completed repair" else "repair aborted"
        { result := result.mapError ProgramError.repair
          summary := summarize surroundings settings surroundings.repairTarget message
            (.repairs counters)
          created := none
          network }

/-! ### The whole -/

/-- Carries out what the program is told. -/
def execute (surroundings : Surroundings) (arguments : Arguments) : Outcome :=
  match loadSettings surroundings.disk arguments.config with
  | .error error => refused surroundings error
  | .ok settings =>
    match arguments.command with
    | .diff options => diff surroundings (withScanOptions settings options)
    | .repair options =>
      repair surroundings (withRepairOptions settings options) options.input

/-- Runs the program. -/
def run (surroundings : Surroundings) : Outcome :=
  match Arguments.parse surroundings.environment surroundings.words with
  | .error .help => ⟨.ok (), none, none, surroundings.network⟩
  | .error .wrong => refused surroundings .usage
  | .ok arguments => execute surroundings arguments

end Program

end Reconcile
