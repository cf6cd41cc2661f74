import DraftPool.Cli.Run
import Std.Time.DateTime.Timestamp

/-
The program's entry point.
-/

namespace DraftPool.Cli

/-- The system error number inside an input or output error, if it has one. -/
def errorNumber : IO.Error → Option UInt32
  | .inappropriateType _ code _ | .otherError code _ | .illegalOperation code _
  | .invalidArgument _ code _ | .noFileOrDirectory _ code _ | .alreadyExists _ code _ => some code
  | _ => none

/-- What is on the disk at a path: reading a directory fails with error number 21. -/
def probe (path : String) : IO Entry := do
  try
    let bytes ← IO.FS.readBinFile path
    return match String.fromUTF8? bytes with
      | some text => .text text
      | none => .bytes
  catch e =>
    return if errorNumber e == some 21 then .directory else .missing

/-- Carries out a run on the disk and the system clock. -/
def Run.carryOut : Run → IO Outcome
  | .done outcome => pure outcome
  | .look path next => do Run.carryOut (next (← probe path))
  | .makeDirs path next => do
    try IO.FS.createDirAll path catch _ => pure ()
    Run.carryOut next
  | .clock next => do
    let now ← Std.Time.Timestamp.now
    Run.carryOut (next (Instant.ofNanos now.toNanosecondsSinceUnixEpoch.val))

end DraftPool.Cli

/-- Runs the command line and exits with its status. -/
def main (args : List String) : IO UInt32 := do
  let outcome ← (DraftPool.Cli.run .offline args).carryOut
  IO.print outcome.stdout
  IO.eprint outcome.stderr
  return outcome.code.toUInt32
