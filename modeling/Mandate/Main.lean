import Mandate.Binary64
import Mandate.CommandLine.Session
import Std.Time.Format

/-!
# The command line program

Reads the files that the arguments name, takes the time and an id, and carries the session out.
-/

namespace Mandate.CommandLine

/-- The text of a file, if it can be read. -/
def readFile? (path : String) : IO (Option String) := do
  try
    return some (← IO.FS.readFile path)
  catch _ =>
    return none

/-- The files at some paths. -/
def readFiles (paths : List String) : IO Files := do
  let texts ← paths.mapM fun path => return (path, ← readFile? path)
  return fun path => (texts.lookup path).join

/-- The present time and a random id. -/
def takeStamp : IO Stamp := do
  let time ← Std.Time.Timestamp.now
  let text := (Std.Time.DateTime.ofTimestamp time .UTC).toISO8601String
  let bytes ← IO.getRandomBytes 16
  return ⟨(Instant.ofText? text).getD .epoch, (AuditId.ofRandom? bytes.toList).getD .zero⟩

end Mandate.CommandLine

open Mandate Mandate.CommandLine in
/-- Carries out one session and ends with its status. -/
def main (args : List String) : IO UInt32 := do
  let files ← readFiles (paths Float args)
  let ending := session Float files (← takeStamp) args
  IO.print ending.output
  match ending.error with
  | some reason => IO.eprintln ("Error: " ++ reason)
  | none => if ending.status = 2 then IO.eprint usage
  return ending.status.toUInt32
