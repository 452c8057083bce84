import Automata.Automaton.Render
import Automata.Cli.Diagnostic
import Automata.Cli.Options

/-!
# What a run of the command line does

Events are handed to a logger. Which of them it records, how and on which stream is not settled here: the
logger is a parameter.
-/

namespace Automata.Cli

structure Streams where
  output : String := ""
  errors : String := ""
  deriving DecidableEq, Repr

instance : Append Streams := ⟨fun s t => ⟨s.output ++ t.output, s.errors ++ t.errors⟩⟩

/-- What a logger writes when it is set up, and for each event. The number of events before it stands for
all that changes during a run, such as the time. -/
structure Recorder where
  opening : Streams
  record : Nat → Event → Streams

/-- Sets up a recorder for the ceiling of the flags and the text, if any, that can amend it. -/
abbrev Logger := Log.Ceiling → Option String → Recorder

/-- Nothing that is recorded goes to the output. -/
structure Recorder.ErrorsOnly (r : Recorder) : Prop where
  opening : r.opening.output = ""
  record : ∀ n e, (r.record n e).output = ""

def Logger.ErrorsOnly (l : Logger) : Prop := ∀ ceiling spec, (l ceiling spec).ErrorsOnly

inductive Action
  | log (e : Event)
  | print (text : String)

def Recorder.perform (r : Recorder) (n : Nat) : List Action → Streams
  | [] => {}
  | .log e :: later => r.record n e ++ r.perform (n + 1) later
  | .print text :: later => ⟨text, ""⟩ ++ r.perform n later

-- ---------------------------------------------------------------------------
-- Actions
-- ---------------------------------------------------------------------------

def load (path : String) (source : Source) : Logged ReadError Automaton := do
  Logged.emit (.opening path)
  let a ← liftM (Automaton.readSource source)
  Logged.emit (.described a.size)
  Logged.emit (.loaded path a.size)
  return a

def verdictLine (word : String) (accepted : Bool) : String :=
  Text.quote word ++ ": " ++ (if accepted then "accepted" else "rejected") ++ "\n"

/-- The search of a word is logged before its verdict is printed. -/
def test (a : Automaton) (word : String) : List Action :=
  let outcome := a.search word
  outcome.trail.reverse.map (.log ∘ .visiting) ++ [.print (verdictLine word outcome.found)]

def trial (o : Options) (source : Source) : Except (Failure ReadError) Unit × List Action :=
  let (result, events) := (load o.file source).report
  match result with
  | .error e => (.error e, events.map .log)
  | .ok a =>
    (.ok (), events.map .log ++ (if .print ∈ o.flags then [.print a.render] else []) ++ o.words.flatMap (test a))

-- ---------------------------------------------------------------------------
-- Reports
-- ---------------------------------------------------------------------------

structure Report where
  code : Nat
  output : String
  errors : String
  deriving DecidableEq, Repr

/-- The report on a file and some words, given what amends the flags. The reason of a failure comes last
among the errors. -/
def report (logger : Logger) (o : Options) (spec : Option String) (source : Source) : Report :=
  let (result, actions) := trial o source
  let recorder := logger o.ceiling spec
  let streams := recorder.opening ++ recorder.perform 0 actions
  match result with
  | .ok () => ⟨0, streams.output, streams.errors⟩
  | .error (.error e) => ⟨1, streams.output, streams.errors ++ "Error: " ++ e.diagnostic ++ "\n"⟩
  | .error (.fault _) => ⟨101, streams.output, streams.errors⟩

end Automata.Cli
