import Automata.Builder
import Automata.Source
import Automata.Text.Blank
import Automata.Text.Numeral

/-!
# Descriptions of automata

The first line that counts holds the accept state, which may be repeated. Every later one is a transition:
`symbol source target`, or `source target` for an epsilon move. With a symbol, the target may be a dash for
the sink. The first bad line decides the error.
-/

namespace Automata

inductive ReadError
  /-- No line has a token. -/
  | missingAccept
  /-- A transition of one token. -/
  | incompleteTransition (line : Nat)
  /-- A transition of more than three tokens. -/
  | illFormedTransition (line : Nat)
  /-- The builder refuses a step of the line, or the whole at the end, which counts as line 0. -/
  | build (e : BuildError) (line : Nat)
  | file (e : FileError)
  | numeral (e : NumeralError) (line : Nat)
  deriving DecidableEq, Repr

namespace ReadError

def message : ReadError → String
  | .missingAccept => "The file is empty or only contains white characters."
  | .incompleteTransition line => s!"Line {line}: missing the src or the dest state."
  | .illFormedTransition line => s!"Line {line}: too much elements."
  | .build e line => s!"Line {line}: NFAError {e.message}"
  | .file e => s!"IO error: {e.message}"
  | .numeral e line => s!"Line {line}: parse error {e.message}"

def cause? : ReadError → Option String
  | .build e _ => some e.message
  | .file e => some e.message
  | .numeral e _ => some e.message
  | _ => none

end ReadError

namespace Description

def tokens (line : String) : List String :=
  ((Text.segments Text.isBlank (line.toList.takeWhile (· ≠ '#'))).filter (· ≠ [])).map String.ofList

/-- The lines that count, with their numbers. A line that cannot be read counts. -/
def significant (lines : List Line) : List (Nat × Except FileError (List String)) :=
  (lines.zipIdx 1).filterMap fun (line, n) =>
    match line with
    | .error e => some (n, .error e)
    | .ok line => if tokens line = [] then none else some (n, .ok (tokens line))

def stateOf (line : Nat) (token : String) : Except (Failure ReadError) Nat :=
  (Text.readNumeral token).mapError fun e => .error (.numeral e line)

def atLine {α : Type} (line : Nat) (outcome : Except (Failure BuildError) α) :
    Except (Failure ReadError) α :=
  outcome.mapError (Failure.map (.build · line))

/-- A builder that knows the accept state. All tokens are read before two of them are compared. -/
def readAccept (line : Nat) : List String → Except (Failure ReadError) Builder
  | [] => .ok {}
  | token :: others => do
    let accept ← stateOf line token
    let b ← atLine line (Builder.step {} (.accept accept))
    let others ← others.mapM (stateOf line)
    atLine line (b.run (others.map .accept))

def transition (line : Nat) : List String → Except (Failure ReadError) Step
  | [y, src, dest] => do
    let src ← stateOf line src
    if dest = "-" then return .sinkMove y src else return .move y src (← stateOf line dest)
  | [src, dest] => do return .epsilonMove (← stateOf line src) (← stateOf line dest)
  | [_] => .error (.error (.incompleteTransition line))
  | _ => .error (.error (.illFormedTransition line))

def readTransition (b : Builder) (line : Nat × Except FileError (List String)) :
    Except (Failure ReadError) Builder := do
  let tokens ← line.2.mapError fun e => .error (.file e)
  atLine line.1 (b.step (← transition line.1 tokens))

def readLines (lines : List Line) : Except (Failure ReadError) Automaton :=
  match significant lines with
  | [] => .error (.error .missingAccept)
  | (n, first) :: rest => do
    let tokens ← first.mapError fun e => .error (.file e)
    let b ← readAccept n tokens
    let b ← rest.foldlM readTransition b
    atLine 0 b.finish

end Description

namespace Automaton

def read (text : String) : Except (Failure ReadError) Automaton :=
  Description.readLines (linesOfText text)

def readSource (source : Source) : Except (Failure ReadError) Automaton :=
  Description.readLines source.lines

end Automaton

end Automata
