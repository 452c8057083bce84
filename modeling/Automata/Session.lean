import Automata.Automaton.Render
import Automata.Expr

/-! A session gives names to automata. A definition that fails leaves the name as it was. -/

namespace Automata

inductive Query
  | accepts (name word : String)
  | value (name : String)
  | rendering (name : String)
  | equal (left right : String)
  | targets (name : String) (state : Nat) (y : Symbol)

inductive Command
  | define (name : String) (value : Expr)
  | ask (q : Query)

inductive Reply
  | defined (a : Automaton)
  | automaton (a : Automaton)
  | truth (b : Bool)
  | text (t : String)
  | states (ns : List Nat)
  | failed (e : Failure EvalError)

structure Session where
  automata : Std.ExtTreeMap String Automaton := ∅

namespace Session

def find (s : Session) (name : String) : Except (Failure EvalError) Automaton :=
  match s.automata[name]? with
  | some a => .ok a
  | none => .error (.error (.unknownName name))

def ask (s : Session) : Query → Except (Failure EvalError) Reply
  | .accepts name word => return .truth ((← s.find name).accepts word)
  | .value name => return .automaton (← s.find name)
  | .rendering name => return .text (← s.find name).render
  | .equal left right => return .truth ((← s.find left) = (← s.find right))
  | .targets name state y => do
    match (← s.find name).targets? state y with
    | some ns => return .states ns
    | none => throw (.fault .noSuchState)

def answer (s : Session) : Command → Reply × Session
  | .define name value =>
    match value.value (s.automata[·]?) with
    | .ok a => (.defined a, { s with automata := s.automata.insert name a })
    | .error e => (.failed e, s)
  | .ask q =>
    match s.ask q with
    | .ok reply => (reply, s)
    | .error e => (.failed e, s)

def run (s : Session) : List Command → List Reply
  | [] => []
  | command :: commands =>
    let (reply, next) := s.answer command
    reply :: next.run commands

end Session

end Automata
