import Automata.Automaton.Basic

/-!
# Building an automaton in steps

A builder counts the states up to the highest one that a step mentions, and every one of them gets a row.
-/

namespace Automata

inductive Step
  | accept (state : Nat)
  /-- A symbol joins the alphabet without any transition. -/
  | symbol (y : Symbol)
  | move (y : Symbol) (src dest : Nat)
  | sinkMove (y : Symbol) (src : Nat)
  | epsilonMove (src dest : Nat)
  deriving DecidableEq, Repr

inductive BuildError
  | missingAccept
  /-- The accept state was set before and is now set to another state. -/
  | duplicateAccept (old new : Nat)
  /-- The empty symbol stands where a symbol that consumes input is needed. -/
  | epsilonSymbol
  | invalid (v : Invalid)
  deriving DecidableEq, Repr

def BuildError.message : BuildError → String
  | .missingAccept => "Missing accept state."
  | .duplicateAccept old new => s!"Duplicated accept state ({old} and {new})."
  | .epsilonSymbol => "Epsilon can not be used as a consuming symbol."
  | .invalid v => v.message

structure Builder where
  alphabet : Alphabet := ∅
  rows : Std.ExtTreeMap Nat Row := ∅
  accept : Option Nat := none
  /-- One more than the highest state mentioned. -/
  states : Nat := 0

namespace Builder

def mention (b : Builder) (s : Nat) : Except (Failure BuildError) Builder :=
  if s + 1 < stateLimit then .ok { b with states := max b.states (s + 1) }
  else .error (.fault .stateOverflow)

def mentionTarget (b : Builder) : Target → Except (Failure BuildError) Builder
  | .state n => b.mention n
  | .sink => .ok b

def addTarget (b : Builder) (src : Nat) (y : Symbol) (t : Target) : Builder :=
  { b with rows := b.rows.insert src ((b.rows.getD src ∅).add y t) }

def addTransition (b : Builder) (src : Nat) (y : Symbol) (t : Target) :
    Except (Failure BuildError) Builder := do
  let b ← b.mention src
  let b ← b.mentionTarget t
  return b.addTarget src y t

def addSymbol (b : Builder) (y : Symbol) : Except (Failure BuildError) Builder :=
  if y = Symbol.epsilon then .error (.error .epsilonSymbol)
  else .ok { b with alphabet := b.alphabet.insert y }

def setAccept (b : Builder) (s : Nat) : Except (Failure BuildError) Builder :=
  match b.accept with
  | none => { b with accept := some s }.mention s
  | some old => if old = s then b.mention s else .error (.error (.duplicateAccept old s))

def step (b : Builder) : Step → Except (Failure BuildError) Builder
  | .accept s => b.setAccept s
  | .symbol y => b.addSymbol y
  | .move y src dest => do (← b.addSymbol y).addTransition src y (.state dest)
  | .sinkMove y src => do (← b.addSymbol y).addTransition src y .sink
  | .epsilonMove src dest => b.addTransition src Symbol.epsilon (.state dest)

def run (b : Builder) (steps : List Step) : Except (Failure BuildError) Builder :=
  steps.foldlM step b

def table (b : Builder) : Table := Array.ofFn fun s : Fin b.states => b.rows.getD s ∅

def finish (b : Builder) : Except (Failure BuildError) Automaton :=
  match b.accept with
  | none => .error (.error .missingAccept)
  | some s =>
    if b.states ≤ rowLimit then
      (Automaton.make b.alphabet b.table s).mapError fun v => .error (.invalid v)
    else .error (.fault .capacityOverflow)

end Builder

def Automaton.build (steps : List Step) : Except (Failure BuildError) Automaton := do
  (← Builder.run {} steps).finish

end Automata
