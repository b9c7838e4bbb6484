import Rehearsal.CommandLine.Report
import Std.Time.DateTime.Timestamp

/-!
# The program

Reads arguments and environment, carries out the command, and looks for files as they are asked for.
-/

namespace Rehearsal

/-- The file under a path, if it can be read. -/
def readFile? (path : String) : IO (Option Bytes) := do
  try return some (← IO.FS.readBinFile path).toList
  catch _ => return none

/-- Carry out a command, with one more file each time until no further one is asked for. -/
partial def carryOut (environment : String → Option String) (fresh : Fresh) (command : Command)
    (known : Assoc (Option Bytes)) : IO Report := do
  let report := command.report environment (fun path => (known.get? path).join) fresh
  match report.unread with
  | none => return report
  | some path =>
    if known.contains path then return report
    else carryOut environment fresh command (known.insert path (← readFile? path))

/-- The present time, and random numbers that begin with it. -/
def present : IO Fresh := do
  let nanos := (← Std.Time.Timestamp.now).toNanosecondsSinceUnixEpoch.val
  let now : Timestamp :=
    ⟨nanos / Timestamp.nanosPerSecond, (nanos % Timestamp.nanosPerSecond).toNat⟩
  return { state := UInt64.ofNat nanos.toNat, now }

end Rehearsal

open Rehearsal in
def main (args : List String) : IO UInt32 := do
  let names := [Config.resourceDirVariable, Config.timeoutVariable, Config.logVariable]
  let environment : Assoc (Option String) :=
    .ofList (← names.mapM fun name => return (name, ← IO.getEnv name))
  let report ←
    match Command.ofArguments? args with
    | none => pure Command.usageReport
    | some command =>
      carryOut (fun name => (environment.get? name).join) (← present) command .empty
  IO.print report.output
  IO.eprint report.errors
  return UInt32.ofNat report.code
