import Automata.Search

/-! What is worth a log record: levels, from the gravest to the finest, and events. -/

namespace Automata

namespace Log

inductive Level
  | error
  | warn
  | info
  | debug
  | trace
  deriving DecidableEq, Repr

def Level.rank : Level → Nat
  | .error => 1
  | .warn => 2
  | .info => 3
  | .debug => 4
  | .trace => 5

def Level.name : Level → String
  | .error => "ERROR"
  | .warn => "WARN"
  | .info => "INFO"
  | .debug => "DEBUG"
  | .trace => "TRACE"

abbrev Ceiling := Option Level

def Ceiling.admits : Ceiling → Level → Bool
  | none, _ => false
  | some top, level => level.rank ≤ top.rank

end Log

inductive Event
  | visiting (v : Visit)
  | concatenated (left right states : Nat)
  | joined (left right states : Nat)
  | repeated (inner states : Nat)
  | opening (path : String)
  | described (states : Nat)
  | loaded (path : String) (states : Nat)
  deriving DecidableEq, Repr

namespace Event

def level : Event → Log.Level
  | .visiting _ => .trace
  | .loaded .. => .info
  | _ => .debug

def origin : Event → String
  | .visiting _ => "thompson_nfa::nfa::core"
  | .concatenated .. | .joined .. | .repeated .. => "thompson_nfa::nfa::combinators"
  | .opening _ | .described _ => "thompson_nfa::nfa::reader"
  | .loaded .. => "nfa"

def message : Event → String
  | .visiting v =>
    "Exploring state " ++ toString v.state ++ " with remaining input \"" ++ String.ofList v.rest ++ "\""
  | .concatenated left right states =>
    s!"Concatenated automata with {left} and {right} states into {states} states"
  | .joined left right states =>
    s!"Disjunction of automata with {left} and {right} states into {states} states"
  | .repeated inner states => s!"Repetition of an automaton with {inner} states into {states} states"
  | .opening path => "Reading NFA from " ++ path
  | .described states => s!"Read NFA with {states} states"
  | .loaded path states => s!"Loaded {path} with {states} states"

end Event

/-- A computation that may fail and keeps its events, also those before a failure. The latest event comes
first. -/
abbrev Logged (ε : Type) := ExceptT (Failure ε) (StateM (List Event))

namespace Logged

def emit {ε : Type} (e : Event) : Logged ε Unit := modify (e :: ·)

def accepts {ε : Type} (a : Automaton) (word : String) : Logged ε Bool := do
  let outcome := a.search word
  modify (outcome.trail.map .visiting ++ ·)
  return outcome.found

def report {ε α : Type} (m : Logged ε α) : Except (Failure ε) α × List Event :=
  let (result, events) := m.run.run []
  (result, events.reverse)

end Logged

end Automata
