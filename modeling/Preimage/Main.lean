import Preimage.CommandLine.Execution
import Std.Time

/-! The program. It hands its arguments and standard input to the library, and prints what comes
back, with the time of day before each line of the log. -/
namespace Preimage.CommandLine

/-- Standard input up to its end, if the request looks at it. -/
def readInput (arguments : List String) : IO Bytes := do
  match Request.ofArguments arguments with
  | some (.run _ command) =>
    if command.readsInput then return (← (← IO.getStdin).readBinToEnd).data.toList else return []
  | _ => return []

def timestamp : IO String := do
  let now ← Std.Time.Timestamp.now
  return (Std.Time.DateTime.ofTimestamp now .UTC).format "uuuu-MM-dd'T'HH:mm:ss.SSS'Z'"

end Preimage.CommandLine

open Preimage.CommandLine in
def main (arguments : List String) : IO UInt32 := do
  let report := execute arguments (← readInput arguments)
  for line in report.logged do
    IO.eprintln s!"[{← timestamp}] {line}"
  IO.eprint report.complaint
  IO.print report.output
  if report.status = 2 then
    IO.eprintln "usage: presign [-v] encode|decode|validate|schema [options]"
  return report.status.toUInt32
