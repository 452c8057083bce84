import Automata.Cli.Program
import Automata.Proofs.Encoding
import Automata.Proofs.Evaluation
import Automata.Proofs.Quoting

/-!
# What the command line reports

With a logger that leaves the output alone, the exit code and the output are those of the file and the words
(`Cli.report_eq`). The words can be read back, because they are quoted.
-/

namespace Automata.Cli

-- ---------------------------------------------------------------------------
-- Actions and what they print
-- ---------------------------------------------------------------------------

theorem Streams.output_append (s t : Streams) : (s ++ t).output = s.output ++ t.output := rfl

def Action.printed : Action → String
  | .log _ => ""
  | .print text => text

theorem Recorder.ErrorsOnly.output_perform {r : Recorder} (h : r.ErrorsOnly) (n : Nat) (actions : List Action) :
    (r.perform n actions).output = String.join (actions.map Action.printed) := by
  induction actions generalizing n with
  | nil => rfl
  | cons action later ih =>
    cases action with
    | log e => simp [perform, Streams.output_append, h.record, ih, Action.printed, String.join_cons]
    | print text => simp [perform, Streams.output_append, ih, Action.printed, String.join_cons]

open Logged in
theorem load_gives (path : String) (source : Source) :
    (load path source).Gives (Automaton.readSource source) := by
  rw [load]
  generalize Automaton.readSource source = result
  have h := (gives_emit (ε := ReadError) (.opening path)).bind fun _ => (gives_liftM result).bind fun a =>
    (gives_emit (.described a.size)).bind fun _ => (gives_emit (.loaded path a.size)).bind fun _ =>
      gives_pure a
  cases result <;> exact h

def output (o : Options) (a : Automaton) : String :=
  (if .print ∈ o.flags then a.render else "") ++
    String.join (o.words.map fun w => verdictLine w (a.accepts w))

def shown (o : Options) : Except (Failure ReadError) Automaton → Nat × String
  | .ok a => (0, output o a)
  | .error (.error _) => (1, "")
  | .error (.fault _) => (101, "")

theorem join_printed_log (events : List Event) :
    String.join ((events.map Action.log).map Action.printed) = "" := by
  induction events with
  | nil => rfl
  | cons e events ih => simpa [String.join_cons, Action.printed] using ih

theorem join_printed_test (a : Automaton) (word : String) :
    String.join ((test a word).map Action.printed) = verdictLine word (a.accepts word) := by
  rw [test, List.map_append, String.join_append, ← List.map_map, join_printed_log]
  simp [Action.printed, String.join_cons, Automaton.accepts]

theorem join_printed_words (a : Automaton) (words : List String) :
    String.join ((words.flatMap (test a)).map Action.printed) =
      String.join (words.map fun w => verdictLine w (a.accepts w)) := by
  induction words with
  | nil => rfl
  | cons w words ih =>
    rw [List.flatMap_cons, List.map_append, String.join_append, join_printed_test, ih, List.map_cons,
      String.join_cons]

theorem join_printed_render (o : Options) (a : Automaton) :
    String.join ((if .print ∈ o.flags then [Action.print a.render] else []).map Action.printed) =
      if .print ∈ o.flags then a.render else "" := by
  split
  · simp [Action.printed, String.join_cons]
  · rfl

theorem report_eq {logger : Logger} (h : logger.ErrorsOnly) (o : Options) (spec : Option String)
    (source : Source) : ((report logger o spec source).code, (report logger o spec source).output) =
      shown o (Automaton.readSource source) := by
  have hresult := (load_gives o.file source).report_eq
  have hrecorder := h o.ceiling spec
  unfold report trial
  generalize (load o.file source).report = outcome at hresult
  obtain ⟨result, events⟩ := outcome
  dsimp only at hresult
  subst hresult
  cases Automaton.readSource source with
  | ok a =>
    simp only [Streams.output_append, hrecorder.opening, hrecorder.output_perform, List.map_append,
      String.join_append, join_printed_log, join_printed_render, join_printed_words, String.empty_append]
    rfl
  | error e =>
    cases e <;>
      simp only [Streams.output_append, hrecorder.opening, hrecorder.output_perform, join_printed_log,
        String.empty_append, shown]

-- ---------------------------------------------------------------------------
-- Lines of the output
-- ---------------------------------------------------------------------------

def IsLine (text : String) : Prop := ∃ content : String, text = content ++ "\n" ∧ '\n' ∉ content.toList

theorem isLine_verdictLine (word : String) (accepted : Bool) : IsLine (verdictLine word accepted) := by
  refine ⟨_, rfl, ?_⟩
  simp only [String.toList_append, List.mem_append, not_or]
  refine ⟨⟨Text.lineEnd_not_mem_quote word, by decide⟩, ?_⟩
  cases accepted <;> decide

theorem verdictLine_append_inj {f : String → Bool} {w w' : String} {x y : List Char}
    (h : (verdictLine w (f w)).toList ++ x = (verdictLine w' (f w')).toList ++ y) : w = w' ∧ x = y := by
  have hquote : (Text.quote w).toList ++ ((": " ++ (if f w then "accepted" else "rejected") ++ "\n").toList ++ x) =
      (Text.quote w').toList ++ ((": " ++ (if f w' then "accepted" else "rejected") ++ "\n").toList ++ y) := by
    simpa [verdictLine] using h
  obtain ⟨rfl, -⟩ := Text.quote_append_inj hquote
  exact ⟨rfl, List.append_cancel_left h⟩

theorem join_verdictLines_inj {f : String → Bool} {ws ws' : List String}
    (h : String.join (ws.map fun w => verdictLine w (f w)) =
      String.join (ws'.map fun w => verdictLine w (f w))) : ws = ws' := by
  have hne : ∀ w (x : List Char), (verdictLine w (f w)).toList ++ x ≠ [] := by
    simp [verdictLine, Text.toList_quote]
  rw [← String.toList_inj, String.toList_join, String.toList_join, List.flatMap_map, List.flatMap_map] at h
  induction ws generalizing ws' with
  | nil =>
    cases ws' with
    | nil => rfl
    | cons w' ws' => exact absurd h.symm (hne w' _)
  | cons w ws ih =>
    cases ws' with
    | nil => exact absurd h (hne w _)
    | cons w' ws' =>
      rw [List.flatMap_cons, List.flatMap_cons] at h
      obtain ⟨rfl, hrest⟩ := verdictLine_append_inj h
      rw [ih hrest]

-- ---------------------------------------------------------------------------
-- Reports
-- ---------------------------------------------------------------------------

/-- The logger writes nothing to the output. Without an automaton there is exit code 1 and no output. With one
there is exit code 0, and the output is the automaton in its written form, if that is asked for, and one
line with the verdict on each word; no other words have the same output. In both cases nothing depends
on the logger, on the flags for it or on what amends them. -/
theorem report_faithful {logger : Logger} (h : logger.ErrorsOnly) (o : Options) (spec : Option String)
    (source : Source) :
    (∀ e, Automaton.readSource source = .error (.error e) →
      (report logger o spec source).code = 1 ∧ (report logger o spec source).output = "") ∧
    (∀ a, Automaton.readSource source = .ok a → (report logger o spec source).code = 0 ∧
      (∃ lines, lines = o.words.map (fun w => verdictLine w (a.accepts w)) ∧
        (∀ line ∈ lines, IsLine line) ∧ (report logger o spec source).output =
          (if .print ∈ o.flags then a.render else "") ++ String.join lines) ∧
      ∀ (logger' : Logger) o' spec', logger'.ErrorsOnly → (.print ∈ o'.flags ↔ .print ∈ o.flags) →
        (report logger' o' spec' source).output = (report logger o spec source).output →
        o'.words = o.words) ∧
    ∀ (logger' : Logger) o' spec', logger'.ErrorsOnly → o'.words = o.words →
      (.print ∈ o'.flags ↔ .print ∈ o.flags) →
      (report logger' o' spec' source).code = (report logger o spec source).code ∧
        (report logger' o' spec' source).output = (report logger o spec source).output := by
  obtain ⟨hcode, houtput⟩ := Prod.mk.inj (report_eq h o spec source)
  have hother : ∀ (logger' : Logger) o' spec', logger'.ErrorsOnly →
      (report logger' o' spec' source).code = (shown o' (Automaton.readSource source)).1 ∧
        (report logger' o' spec' source).output = (shown o' (Automaton.readSource source)).2 :=
    fun logger' o' spec' h' => Prod.mk.inj (report_eq h' o' spec' source)
  rw [hcode, houtput]
  refine ⟨fun e he => ?_, fun a ha => ?_, fun logger' o' spec' h' hwords hprint => ?_⟩
  · rw [he]
    exact ⟨rfl, rfl⟩
  · rw [ha]
    refine ⟨rfl, ⟨_, rfl, ?_, rfl⟩, fun logger' o' spec' h' hprint heq => ?_⟩
    · rw [List.forall_mem_map]
      exact fun w _ => isLine_verdictLine w _
    · rw [(hother logger' o' spec' h').2, ha] at heq
      simp only [shown, output, hprint] at heq
      exact join_verdictLines_inj ((String.append_right_inj _).mp heq)
  · rw [(hother logger' o' spec' h').1, (hother logger' o' spec' h').2]
    cases Automaton.readSource source with
    | ok a => simp [shown, output, hwords, hprint]
    | error e => cases e <;> exact ⟨rfl, rfl⟩

/-- A logger that puts a time before each record. The text `off` is the only one that it looks at. -/
def timedLogger (time : Nat → String) : Logger := fun ceiling spec =>
  { opening := {}
    record := fun n e =>
      if spec ≠ some "off" ∧ ceiling.admits e.level then
        ⟨"", "[" ++ time n ++ " " ++ e.level.name.pushn ' ' (5 - e.level.name.length) ++ " " ++ e.origin ++ "] " ++
          e.message ++ "\n"⟩
      else {} }

theorem timedLogger_errorsOnly (time : Nat → String) : (timedLogger time).ErrorsOnly := fun ceiling spec =>
  { opening := rfl
    record := fun n e => by
      unfold timedLogger
      dsimp only
      split <;> rfl }

/-- One of these words looks like lines of the output. The second run is logged in full, at another time. -/
theorem report_faithful_imitation :
    let logger := timedLogger fun _ => "2026-01-01T00:00:00Z"
    let logger' := timedLogger fun n => if n < 3 then "2026-01-02T11:59:59Z" else "2026-01-02T12:00:00Z"
    let o : Options := ⟨[.print], "nfa.txt", ["a", "a\": accepted\n\"a", "", "a"]⟩
    let o' : Options := ⟨[.trace, .print], "nfa.txt", ["a", "a\": accepted\n\"a", "", "a"]⟩
    let source : Source := .content (Text.utf8 "1\na 0 1")
    logger.ErrorsOnly ∧ logger'.ErrorsOnly ∧
    (Automaton.readSource .missing = .error (.error (.file .missing)) ∧
      (report logger o none .missing).code = 1 ∧ (report logger o none .missing).output = "") ∧
    (∃ a, Automaton.readSource source = .ok a ∧ (report logger o (some "off") source).code = 0 ∧
      (∃ lines, lines = o.words.map (fun w => verdictLine w (a.accepts w)) ∧
        (∀ line ∈ lines, IsLine line) ∧ (report logger o (some "off") source).output =
          (if .print ∈ o.flags then a.render else "") ++ String.join lines)) ∧
    (.print ∈ o'.flags ↔ .print ∈ o.flags) ∧
    ((report logger' o' none source).code = (report logger o (some "off") source).code ∧
      (report logger' o' none source).output = (report logger o (some "off") source).output) ∧
    o'.words = o.words := by
  intro logger logger' o o' source
  have h : logger.ErrorsOnly := timedLogger_errorsOnly _
  have h' : logger'.ErrorsOnly := timedLogger_errorsOnly _
  have hmissing : Automaton.readSource .missing = .error (.error (.file .missing)) := rfl
  obtain ⟨a, ha⟩ : ∃ a, Automaton.readSource source = .ok a := by
    rw [Automaton.readSource, Source.lines_utf8]
    exact ⟨_, rfl⟩
  have hprint : .print ∈ o'.flags ↔ .print ∈ o.flags := by decide
  obtain ⟨-, hok, hsame⟩ := report_faithful h o (some "off") source
  obtain ⟨hcode, hlines, hwords⟩ := hok a ha
  have houtput := hsame logger' o' none h' rfl hprint
  exact ⟨h, h', ⟨hmissing, (report_faithful h o none .missing).1 _ hmissing⟩, ⟨a, ha, hcode, hlines⟩, hprint,
    houtput, hwords logger' o' none h' hprint houtput.2⟩

end Automata.Cli
