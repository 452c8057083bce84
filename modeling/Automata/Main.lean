import Automata.Cli.Report

/-! The command line program: tests words against the automaton that a file describes. -/

namespace Automata

def findSource (path : String) : IO Source := do
  try
    return .content (← IO.FS.readBinFile path).toList
  catch
    | .noFileOrDirectory .. => return .missing
    | .permissionDenied .. => return .denied
    | _ => return .directory

end Automata

open Automata in
def main (args : List String) : IO UInt32 := do
  let source ← match Cli.Request.ofArguments args with
    | .run o => findSource o.file
    | _ => pure .missing
  let report := Cli.run args (← IO.getEnv "RUST_LOG") fun _ => source
  IO.print report.output
  IO.eprint report.errors
  return report.code.toUInt32
