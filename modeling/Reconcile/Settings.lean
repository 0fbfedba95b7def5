import Reconcile.Instant
import Reconcile.Net.Retry
import Reconcile.Scan
import Reconcile.Text.Blank
import Reconcile.Text.Quoted
import Reconcile.Toml.Document
import Reconcile.Word

/-!
# Settings

What can be set in a file, in TOML: a section for each part of the program, and everything
optional. `Settings` holds what is set, so that a command line can set over it; what holds in the
end is given by functions that fill in what is used otherwise.

A section may be given as a table or as an array of its fields in order. Names that mean nothing
are ignored.
-/

namespace Reconcile

/-- What is set. -/
structure Settings where
  /-- Where the leader's metadata service is found. -/
  metadataEndpoint : Option String
  /-- Where the blob store is found. -/
  blobEndpoint : Option String
  /-- The follower databases to scan. -/
  databases : List String
  /-- The difference file to create. -/
  output : Option String
  bufferSize : Option Nat
  pageSize : Option Nat
  /-- The number of databases scanned at the same time. -/
  parallelScans : Option Nat
  /-- The seconds between two reports of progress. -/
  progressInterval : Option Nat
  /-- The time before which an object has to be modified last to be repaired. -/
  olderThan : Option String
  maxAttempts : Option Nat
  baseDelay : Option Nat
  maxDelay : Option Nat
  /-- The time for a whole request, in milliseconds. -/
  requestTimeout : Option Nat
  /-- The time for opening a connection, in milliseconds. -/
  connectTimeout : Option Nat
  /-- Which messages are logged. -/
  logLevel : String
  deriving DecidableEq, Repr, Inhabited

namespace Settings

/-- The level of logging unless another is set. -/
def standardLogLevel : String :=
  "info"

/-- Nothing is set. -/
def empty : Settings where
  metadataEndpoint := none
  blobEndpoint := none
  databases := []
  output := none
  bufferSize := none
  pageSize := none
  parallelScans := none
  progressInterval := none
  olderThan := none
  maxAttempts := none
  baseDelay := none
  maxDelay := none
  requestTimeout := none
  connectTimeout := none
  logLevel := standardLogLevel

/-! ### Reading -/

open Toml (Value Members)

/-- The fields of a section in the order of their names. Of an array, items after the last field
do not count. A date is a section without fields. -/
def fields? (names : List String) : Value → Option (List (Option Value))
  | .table _ members => some (names.map (Members.get? members))
  | .array items => some ((List.range names.length).map (items[·]?))
  | .tables items =>
    some ((List.range names.length).map fun i => (items[i]?).map (Value.table .header))
  | .moment => some (names.map fun _ => none)
  | _ => none

/-- The fields of a section of a document; those of a missing one are missing. -/
def section? (document : Members) (name : String) (names : List String) :
    Option (List (Option Value)) :=
  match document.get? name with
  | none => some (names.map fun _ => none)
  | some value => fields? names value

/-- A field that may be missing. -/
def optional? {α : Type} (read? : Value → Option α) : Option Value → Option (Option α)
  | none => some none
  | some value => (read? value).map some

/-- Reads a text. -/
def text? : Value → Option String
  | .string text => some text
  | _ => none

/-- Reads a number that is not negative. -/
def count? : Value → Option Nat
  | .integer (.ofNat n) => some n
  | _ => none

/-- Reads a number of attempts, which has at most 32 bits. -/
def attempts? (value : Value) : Option Nat :=
  (count? value).filter (· < wordSize 32)

/-- Reads a list of texts. -/
def texts? : Value → Option (List String)
  | .array items => items.mapM text?
  | _ => none

/-- Reads the section of scans into settings. -/
def readScans? (document : Members) (settings : Settings) : Option Settings := do
  match ← section? document "diff"
      ["databases", "output", "max_buffer_size", "listing_page_size", "parallel_scans",
        "progress_interval_secs"] with
  | [databases, output, bufferSize, pageSize, parallelScans, progressInterval] =>
    some
      { settings with
        databases := (← optional? texts? databases).getD settings.databases
        output := ← optional? text? output
        bufferSize := ← optional? count? bufferSize
        pageSize := ← optional? count? pageSize
        parallelScans := ← optional? count? parallelScans
        progressInterval := ← optional? count? progressInterval }
  | _ => none

/-- Reads the section of retries into settings. -/
def readRetries? (document : Members) (settings : Settings) : Option Settings := do
  match ← section? document "retry" ["max_attempts", "base_delay_ms", "max_delay_ms"] with
  | [maxAttempts, baseDelay, maxDelay] =>
    some
      { settings with
        maxAttempts := ← optional? attempts? maxAttempts
        baseDelay := ← optional? count? baseDelay
        maxDelay := ← optional? count? maxDelay }
  | _ => none

/-- Reads the section of requests into settings. -/
def readRequests? (document : Members) (settings : Settings) : Option Settings := do
  match ← section? document "http" ["request_timeout_ms", "connect_timeout_ms"] with
  | [requestTimeout, connectTimeout] =>
    some
      { settings with
        requestTimeout := ← optional? count? requestTimeout
        connectTimeout := ← optional? count? connectTimeout }
  | _ => none

/-- Reads a section of one field of text. -/
def single? (document : Members) (name field : String) : Option (Option String) := do
  match ← section? document name [field] with
  | [value] => optional? text? value
  | _ => none

/-- The settings in a document. -/
def ofDocument? (document : Members) : Option Settings := do
  let settings :=
    { empty with
      metadataEndpoint := ← single? document "bucketd" "endpoint"
      blobEndpoint := ← single? document "sproxyd" "endpoint"
      olderThan := ← single? document "repair" "older_than"
      logLevel := (← single? document "log" "level").getD standardLogLevel }
  let settings ← readScans? document settings
  let settings ← readRetries? document settings
  readRequests? document settings

/-- Reads settings from the text of a file. -/
def parse? (text : String) : Option Settings :=
  (Toml.parse? text).bind ofDocument?

/-! ### What holds in the end -/

/-- The policy of all calls. -/
def retryPolicy (settings : Settings) : RetryPolicy where
  maxAttempts := settings.maxAttempts.getD RetryPolicy.standard.maxAttempts
  baseDelay := settings.baseDelay.getD RetryPolicy.standard.baseDelay
  maxDelay := settings.maxDelay.getD RetryPolicy.standard.maxDelay

/-- The sizes of scans. -/
def scanSettings (settings : Settings) : ScanSettings where
  bufferSize := settings.bufferSize.getD ScanSettings.standard.bufferSize
  pageSize := settings.pageSize.getD ScanSettings.standard.pageSize

/-- The number of scans at the same time, which is not 0. -/
def scansAtOnce (settings : Settings) : Nat :=
  max (settings.parallelScans.getD 4) 1

/-- The seconds between two reports of progress, which are not 0. -/
def reportInterval (settings : Settings) : Nat :=
  max (settings.progressInterval.getD 10) 1

/-- The milliseconds for a whole request. -/
def requestLimit (settings : Settings) : Nat :=
  settings.requestTimeout.getD 30000

/-- The milliseconds for opening a connection. -/
def connectLimit (settings : Settings) : Nat :=
  settings.connectTimeout.getD 5000

end Settings

/-! ### The cutoff of repairs -/

/-- A text that is no date and time. -/
structure DateError where
  text : String
  deriving DecidableEq, Repr

/-- The wording of a date error. -/
def DateError.message (error : DateError) : String :=
  Quoted.quote error.text ++ " is an invalid date"

/-- Reads a date and time with blanks around it. -/
def parseTimestamp (text : String) : Except DateError Instant :=
  match Instant.parse? (Blank.trim text) with
  | some instant => .ok instant
  | none => .error ⟨text⟩

/-- The days before the present that repairs leave alone unless a time is set. -/
def freshDays : Nat :=
  7

/-- The time at which or after which an object may not be modified to be repaired. -/
def Settings.cutoff (settings : Settings) (now : Instant) : Except DateError Instant :=
  match settings.olderThan with
  | some text => parseTimestamp text
  | none => .ok (now.daysBefore freshDays)

end Reconcile
