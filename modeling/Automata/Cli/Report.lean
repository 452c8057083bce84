import Automata.Cli.Arguments
import Automata.Cli.Records

/-! The command line with its own logger. -/

namespace Automata.Cli

def run (args : List String) (spec : Option String) (find : String → Source) : Report :=
  match Request.ofArguments args with
  | .run o => report filteredLogger o spec (find o.file)
  | .help => ⟨0, helpText, ""⟩
  | .unusable => ⟨2, "", "usage: nfa [-q] [-v] [-d] [-t] [--print] FILE [WORD]...\n"⟩

end Automata.Cli
