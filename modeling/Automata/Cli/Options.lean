import Automata.Log.Event

/-! Options of the command line. -/

namespace Automata.Cli

inductive Flag
  | quiet
  | verbose
  | debug
  | trace
  | print
  deriving DecidableEq, Repr

structure Options where
  flags : List Flag
  file : String
  words : List String
  deriving DecidableEq, Repr

def Options.ceiling (o : Options) : Log.Ceiling :=
  if .quiet ∈ o.flags then none
  else if .trace ∈ o.flags then some .trace
  else if .debug ∈ o.flags then some .debug
  else if .verbose ∈ o.flags then some .info
  else some .warn

end Automata.Cli
