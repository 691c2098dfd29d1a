/-
# FusionSensors.Replay.Record -- recorded samples

A recording has one JSON record a line; blank lines are skipped. Loading stops
at the first line that is not a record, is not UTF-8, or holds more values
than a sample.
-/
import FusionSensors.Config
import FusionSensors.Sample
import FusionSensors.Text.Blank

namespace FusionSensors.Replay

set_option autoImplicit false

/-- Why a replay fails. -/
inductive Failure where
  | refused (cause : Fault)
  | notOpened (path reason : String)
  | notRead (reason : String)
  | badLine (path : String) (number : Nat) (defect : Json.Defect)
  | nothingToReplay
  deriving DecidableEq, Repr

/-- The wording of a failure, from the outermost message to the innermost. -/
def Failure.chain : Failure → List String
  | .refused cause => [cause.message]
  | .notOpened path reason => ["opening " ++ path, reason]
  | .notRead reason => [reason]
  | .badLine path number defect => [path ++ ":" ++ shown number, defect.message]
  | .nothingToReplay => ["either --input or --synthetic is required"]

/-- A recorded sample. -/
structure Record where
  timestamp : Int
  period : Int
  values : List Single
  deriving DecidableEq, Repr

namespace Record

def schema : Json.Schema Record where
  name := "FusionRecord"
  blank := ⟨0, 0, []⟩
  filled := false
  members :=
    [ .of "timestamp" .int64 Record.timestamp fun v r => { r with timestamp := v },
      .of "pollrate_ns" .int64 Record.period fun v r => { r with period := v },
      .of "processed" (.list .single) Record.values fun v r => { r with values := v } ]

/-- The sample of a record. -/
def sample (record : Record) : Except Fault Sample :=
  Sample.ofValues record.values record.timestamp record.period

end Record

/-- The sample of a line, none for a blank line. -/
def sampleOfLine (path : String) (number : Nat) (line : String) : Except Failure (Option Sample) :=
  if Text.isBlankLine line.toList then .ok none
  else
    match Json.Reader.whole Record.schema.read line with
    | .error defect => .error (.badLine path number defect)
    | .ok record =>
      match record.sample with
      | .error fault => .error (.refused fault)
      | .ok sample => .ok (some sample)

/-- The samples of lines, the first of which has the given number. -/
def samplesOfLines (path : String) : Nat → List (Option String) → Except Failure (List Sample)
  | _, [] => .ok []
  | _, none :: _ => .error (.notRead File.notText)
  | number, some line :: rest => do
    let sample ← sampleOfLine path number line
    return sample.toList ++ (← samplesOfLines path (number + 1) rest)

/-- The samples of the recording at a path. -/
def loadRecords (path : String) : File → Except Failure (List Sample)
  | .absent reason => .error (.notOpened path reason)
  | .unreadable reason => .error (.notRead reason)
  | .content bytes => samplesOfLines path 1 (Text.fileLines bytes)

end FusionSensors.Replay
