import Automata.Cli.Options

/-! Arguments of the command line. The first flag that is unknown, given twice or asks for help decides. -/

namespace Automata.Cli

inductive Request
  | run (o : Options)
  | help
  | unusable
  deriving DecidableEq, Repr

inductive Switch
  | flag (f : Flag)
  | help
  deriving DecidableEq, Repr

def Switch.ofLetter? : Char → Option Switch
  | 'q' => some (.flag .quiet)
  | 'v' => some (.flag .verbose)
  | 'd' => some (.flag .debug)
  | 't' => some (.flag .trace)
  | 'h' => some .help
  | _ => none

def Switch.ofName? : String → Option Switch
  | "quiet" => some (.flag .quiet)
  | "verbose" => some (.flag .verbose)
  | "debug" => some (.flag .debug)
  | "trace" => some (.flag .trace)
  | "print" => some (.flag .print)
  | "help" => some .help
  | _ => none

def switchesOf (arg : String) : List (Option Switch) :=
  match arg.toList with
  | '-' :: '-' :: name => [Switch.ofName? (String.ofList name)]
  | '-' :: c :: cs => (c :: cs).map Switch.ofLetter?
  | _ => []

namespace Request

def takeSwitch (flags : List Flag) : Option Switch → Except Request (List Flag)
  | some (.flag f) => if f ∈ flags then .error .unusable else .ok (flags ++ [f])
  | some .help => .error .help
  | none => .error .unusable

/-- The flags and the other arguments, each in order, unless a flag decides. -/
def separate (flags : List Flag) : List String → Except Request (List Flag × List String)
  | [] => return (flags, [])
  | arg :: args =>
    if arg = "--" then return (flags, args)
    else do
      let here ← (switchesOf arg).foldlM takeSwitch flags
      let (all, others) ← separate here args
      return (all, if (switchesOf arg).isEmpty then arg :: others else others)

def ofArguments (args : List String) : Request :=
  match separate [] args with
  | .ok (flags, file :: words) => .run ⟨flags, file, words⟩
  | .ok (_, []) => .unusable
  | .error r => r

end Request

def helpText : String :=
  "Tests words against a non-deterministic finite automaton\n\n" ++
  "Usage: nfa [OPTIONS] <FILENAME> [WORDS]...\n\n" ++
  "Arguments:\n" ++
  "  <FILENAME>  File containing the automaton\n" ++
  "  [WORDS]...  Words to test, the empty word is written \"\"\n\n" ++
  "Options:\n" ++
  "  -q, --quiet    Set the verbosity to quiet\n" ++
  "  -v, --verbose  Set the verbosity to verbose\n" ++
  "  -d, --debug    Set the verbosity to debug\n" ++
  "  -t, --trace    Set the verbosity to trace\n" ++
  "      --print    Print the automaton before testing the words\n" ++
  "  -h, --help     Print help\n"

end Automata.Cli
