/-
# FusionSensors.Main -- the replay program

Reads the files that the command line names, runs the replay, writes its
events to standard output and what is worth knowing to standard error. The
exit code is 0, 1 after a failure, and 2 for a command line that is not to be
understood.
-/
import FusionSensors.Replay.Run

open FusionSensors FusionSensors.Replay

namespace FusionSensors.Replay

set_option autoImplicit false

/-- Finds what a path leads to. -/
def findFile (path : String) : IO File := do
  try
    return .content (← IO.FS.readBinFile path)
  catch
    | .noFileOrDirectory .. => return .missing
    | .inappropriateType .. => return .directory
    | error => return .absent (toString error)

/-- The notes of normal operation: from the level of information up. -/
def isShown (note : Note) : Bool :=
  match note.level with
  | .trace | .debug => false
  | .info | .warn | .error => true

/-- A failure as text: the outermost message, then its causes. -/
def failureText (failure : Failure) : String :=
  match failure.chain with
  | [] => "Error"
  | message :: [] => "Error: " ++ message
  | message :: causes =>
    "Error: " ++ message ++ "\n\nCaused by:" ++
      String.join (causes.map fun cause => "\n    " ++ cause)

end FusionSensors.Replay

/-- The replay program. -/
def main (words : List String) : IO UInt32 := do
  match Arguments.parse words with
  | none =>
    IO.eprintln ("usage: replay [--input PATH | --synthetic COUNT] [--rate-hz HZ]" ++
      " [--config PATH] [--delay-ns NS]")
    return 2
  | some arguments =>
    let mut found : List (String × File) := []
    for path in arguments.config.toList ++ arguments.input.toList do
      found := (path, ← findFile path) :: found
    let files := fun path => (found.lookup path).getD .missing
    let ⟨result, notes⟩ := run arguments files
    for note in notes do
      if isShown note then IO.eprintln note.line
    match result with
    | .ok lines =>
      for line in lines do
        IO.println line
      return 0
    | .error failure =>
      IO.eprintln (failureText failure)
      return 1
