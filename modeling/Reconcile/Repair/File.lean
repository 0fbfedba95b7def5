import Reconcile.Repair
import Reconcile.Text.Blank
import Reconcile.Text.Utf8

/-!
# Difference files

A difference file holds one difference a line, as JSON. `DifferenceFile.write` makes one of the
differences of a scan, and `DifferenceFile.repair` repairs what a file holds, line by line. Blank
lines are passed over, but counted. The first line that is no text or no difference ends the run,
and so does a difference whose key or metadata cannot be read; what was repaired before stays
repaired. A call that fails does not end the run.
-/

namespace Reconcile.DifferenceFile

/-- The line that holds a difference, with its end. -/
def line (difference : Difference) : List Char :=
  difference.print ++ ['\n']

/-- The file that holds some differences. -/
def write (differences : List Difference) : List UInt8 :=
  Utf8.encode (differences.flatMap line)

/-- Cuts bytes at the line ends. `current` holds the bytes of the line so far, last first. A line
without an end counts unless it is empty. -/
def splitLines (current : List UInt8) : List UInt8 → List (List UInt8)
  | [] => if current.isEmpty then [] else [current.reverse]
  | byte :: rest =>
    if byte = 0x0A then current.reverse :: splitLines [] rest
    else splitLines (byte :: current) rest

/-- The lines of a file. -/
def lines (input : List UInt8) : List (List UInt8) :=
  splitLines [] input

/-- What a line holds. -/
inductive Line where
  | blank
  | difference (difference : Difference)
  /-- Text that is no difference. -/
  | malformed
  /-- Bytes that are no text. -/
  | notText
  deriving DecidableEq, Repr

/-- Reads a line. Blanks around a difference do not count. -/
def readLine (bytes : List UInt8) : Line :=
  match Utf8.decode bytes with
  | .error _ => .notText
  | .ok text =>
    let trimmed := Blank.trim text
    if trimmed.isEmpty then .blank
    else
      match Difference.parse? trimmed with
      | some difference => .difference difference
      | none => .malformed

/-- The wording of a failure to read bytes as text. -/
def notTextReason : String :=
  "stream did not contain valid UTF-8"

variable {σ : Type}

/-- Repairs the differences of some lines; `number` is that of the first one. -/
def repairLines (services : Services σ) (cutoff : Option Instant) (number : Nat) (state : σ)
    (counters : RepairCounters) :
    List (List UInt8) → Except RepairError Unit × σ × RepairCounters
  | [] => (.ok (), state, counters)
  | bytes :: rest =>
    match readLine bytes with
    | .notText => (.error (.io notTextReason), state, counters)
    | .malformed => (.error (.malformedEntry number), state, counters)
    | .blank => repairLines services cutoff (number + 1) state counters rest
    | .difference difference =>
      match Repair.entry services cutoff difference state counters with
      | (.error error, state, counters) => (.error error, state, counters)
      | (.ok _, state, counters) =>
        repairLines services cutoff (number + 1) state counters rest

/-- Repairs the differences of a file. -/
def repair (services : Services σ) (cutoff : Option Instant) (input : List UInt8) (state : σ)
    (counters : RepairCounters) : Except RepairError Unit × σ × RepairCounters :=
  repairLines services cutoff 1 state counters (lines input)

end Reconcile.DifferenceFile
