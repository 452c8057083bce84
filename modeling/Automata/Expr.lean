import Automata.Construction.Basic
import Automata.Description
import Automata.Log.Event

/-! Expressions for automata. Operands are evaluated from left to right and the first failure is the
result. -/

namespace Automata

inductive Expr
  | parts (alphabet : Alphabet) (table : Table) (accept : Nat)
  | built (steps : List Step)
  | described (text : String)
  | symbol (y : Symbol)
  | epsilon
  | concat (x y : Expr)
  | disjunction (x y : Expr)
  | repetition (x : Expr)
  | name (n : String)

inductive EvalError
  | build (e : BuildError)
  | read (e : ReadError)
  | unknownName (n : String)
  deriving DecidableEq, Repr

abbrev Eval := Logged EvalError

namespace Eval

def ofBuild (outcome : Except (Failure BuildError) Automaton) : Eval Automaton :=
  liftM (outcome.mapError (Failure.map EvalError.build))

def ofFault (outcome : Except Fault Automaton) : Eval Automaton :=
  liftM (outcome.mapError fun f => (.fault f : Failure EvalError))

def ofRead (outcome : Except (Failure ReadError) Automaton) : Eval Automaton := do
  let a ← liftM (outcome.mapError (Failure.map EvalError.read))
  Logged.emit (.described a.size)
  return a

end Eval

def Expr.eval (names : String → Option Automaton) : Expr → Eval Automaton
  | .parts alphabet table accept =>
    Eval.ofBuild ((Automaton.make alphabet table accept).mapError fun v => .error (.invalid v))
  | .built steps => Eval.ofBuild (Automaton.build steps)
  | .described text => Eval.ofRead (Automaton.read text)
  | .symbol y => Eval.ofBuild (Automaton.symbol y)
  | .epsilon => return Automaton.epsilon
  | .concat x y => do
    let a ← x.eval names
    let b ← y.eval names
    let c ← Eval.ofFault (a.concat b)
    Logged.emit (.concatenated a.size b.size c.size)
    return c
  | .disjunction x y => do
    let a ← x.eval names
    let b ← y.eval names
    let c ← Eval.ofFault (a.disjunction b)
    Logged.emit (.joined a.size b.size c.size)
    return c
  | .repetition x => do
    let a ← x.eval names
    let c ← Eval.ofFault a.repetition
    Logged.emit (.repeated a.size c.size)
    return c
  | .name n =>
    match names n with
    | some a => return a
    | none => throw (.error (.unknownName n))

def Expr.value (names : String → Option Automaton) (x : Expr) : Except (Failure EvalError) Automaton :=
  (x.eval names).report.1

def Expr.test (names : String → Option Automaton) (x : Expr) (words : List String) :
    Eval (Automaton × List Bool) := do
  let a ← x.eval names
  return (a, ← words.mapM (Logged.accepts a))

end Automata
