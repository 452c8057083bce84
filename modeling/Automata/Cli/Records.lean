import Automata.Cli.Program
import Automata.Log.Filter
import Automata.Text.Control
import Automata.Text.Lines

/-! The logger of the command line. Records are written without their times. -/

namespace Automata.Cli

def padded (width : Nat) (text : String) : String := text.pushn ' ' (width - text.length)

/-- A record as it is written: its later lines are indented, and what a terminal would act upon is left
out. -/
def record (e : Event) : String :=
  Text.visible ("[" ++ padded 5 e.level.name ++ " " ++ e.origin ++ "] " ++
    "\n    ".intercalate (Text.parts '\n' e.message) ++ "\n")

def complaint (message : String) : String := "warning: " ++ message ++ ", ignoring it\n"

def filteredLogger : Logger := fun ceiling spec =>
  let (filter, complaints) := spec.elim (.all ceiling, []) (Log.Filter.all ceiling).amend
  { opening := ⟨"", String.join (complaints.map complaint)⟩
    record := fun _ e => if filter.admits e then ⟨"", record e⟩ else {} }

theorem filteredLogger_errorsOnly : filteredLogger.ErrorsOnly := fun _ _ =>
  { opening := rfl
    record := fun _ e => by
      unfold filteredLogger
      dsimp only
      split <;> rfl }

end Automata.Cli
