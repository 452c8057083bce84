import Automata.Pattern.Basic

/-! The weight of a pattern is the room that the states of an automaton for it would take. Patterns above a
limit are refused. -/

namespace Automata.Pattern

def weightLimit : Nat := 10485760

def stateWeight : Nat := 32

def consumes : Pattern → Bool
  | .empty | .anchor _ => false
  | .literal _ | .set _ => true
  | .seq p q | .alt p q => p.consumes || q.consumes
  | .repeated p _ most => p.consumes && most ≠ some 0
  | .group p => p.consumes

/-- A set is one state with eight units for every run of characters. Characters beyond ASCII need a few
states for the bytes of their encoding. -/
def setWeight (s : CharSet) : Nat :=
  match s.asciiRuns? with
  | some runs => 2 * stateWeight + 8 * runs
  | none => 9 * stateWeight + 136

def branchWeight : Nat := stateWeight + 8

def weight : Pattern → Nat
  | .empty | .anchor _ => stateWeight
  | .literal c => c.utf8Size * stateWeight
  | .set s => setWeight s
  | .seq p q => p.weight + q.weight
  | .alt p q => p.weight + q.weight + branchWeight
  | .repeated p least most =>
    let least := if p.consumes then least else min least 1
    match most with
    | none => max least 1 * p.weight + branchWeight
    | some most =>
      let most := if p.consumes then most else min most 1
      least * p.weight + (most - least) * (p.weight + branchWeight) + stateWeight
  | .group p => p.weight + 2 * stateWeight

def needsScripts : Pattern → Bool
  | .anchor a => a = .scriptBoundary
  | .empty | .literal _ | .set _ => false
  | .seq p q | .alt p q => p.needsScripts || q.needsScripts
  | .repeated p _ most => p.needsScripts && most ≠ some 0
  | .group p => p.needsScripts

end Automata.Pattern
