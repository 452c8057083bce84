import Automata.Description
import Automata.Proofs.Building

/-! How building and reading fail. `FailsOnly P outcome` is closed under sequencing, so the failures of a
long computation are found by looking at its steps. -/

namespace Automata

def FailsOnly {ε α : Type} (P : ε → Prop) (outcome : Except ε α) : Prop :=
  ∀ e, outcome = .error e → P e

section
variable {ε ε' α β : Type} {P : ε → Prop} {outcome : Except ε α}

theorem failsOnly_ok (a : α) : FailsOnly P (.ok a) := nofun

theorem failsOnly_error {e : ε} (h : P e) : FailsOnly P (.error e : Except ε α) := by
  rintro _ ⟨⟩
  exact h

theorem FailsOnly.mapError {Q : ε' → Prop} (h : FailsOnly P outcome) (g : ε → ε')
    (hg : ∀ e, P e → Q (g e)) : FailsOnly Q (outcome.mapError g) := by
  cases outcome with
  | ok a => exact failsOnly_ok a
  | error e => exact failsOnly_error (hg e (h e rfl))

theorem FailsOnly.bind {k : α → Except ε β} (h : FailsOnly P outcome) (hk : ∀ a, FailsOnly P (k a)) :
    FailsOnly P (outcome >>= k) := by
  cases outcome with
  | ok a => exact hk a
  | error e => exact failsOnly_error (h e rfl)

theorem FailsOnly.mono {Q : ε → Prop} (h : FailsOnly P outcome) (hPQ : ∀ e, P e → Q e) :
    FailsOnly Q outcome :=
  fun e he => hPQ e (h e he)

theorem failsOnly_foldlM {k : β → α → Except ε β} (hk : ∀ b a, FailsOnly P (k b a)) (l : List α) (b : β) :
    FailsOnly P (l.foldlM k b) := by
  induction l generalizing b with
  | nil => exact failsOnly_ok b
  | cons a l ih =>
    rw [List.foldlM_cons]
    exact (hk b a).bind ih

theorem failsOnly_mapM {k : β → Except ε α} (hk : ∀ b, FailsOnly P (k b)) (l : List β) :
    FailsOnly P (l.mapM k) := by
  induction l with
  | nil => exact failsOnly_ok []
  | cons b l ih =>
    rw [List.mapM_cons]
    exact (hk b).bind fun a => ih.bind fun as => failsOnly_ok (a :: as)

theorem exists_of_bind_eq_ok {k : α → Except ε β} {b : β} (h : outcome >>= k = .ok b) :
    ∃ a, outcome = .ok a ∧ k a = .ok b := by
  cases outcome with
  | ok a => exact ⟨a, rfl, h⟩
  | error e => cases h

end

-- ---------------------------------------------------------------------------
-- Faults of builders
-- ---------------------------------------------------------------------------

/-- An error, or one of the faults that are named. -/
def Failure.FaultIn {ε : Type} (P : Fault → Prop) : Failure ε → Prop
  | .error _ => True
  | .fault f => P f

def Fault.Overflow (f : Fault) : Prop := f = .stateOverflow ∨ f = .capacityOverflow

section
variable {ε ε' α : Type} {P : Fault → Prop}

theorem Failure.FaultIn.imp {Q : Fault → Prop} {e : Failure ε} (h : e.FaultIn P) (hPQ : ∀ {f}, P f → Q f) :
    e.FaultIn Q := by
  cases e with
  | error e => trivial
  | fault f => exact hPQ h

theorem failsOnly_mapError (g : ε' → ε) (result : Except ε' α) :
    FailsOnly (Failure.FaultIn P) (result.mapError fun e => (.error (g e) : Failure ε)) := by
  cases result with
  | ok a => exact failsOnly_ok a
  | error e => exact failsOnly_error trivial

theorem FailsOnly.map {outcome : Except (Failure ε) α} (h : FailsOnly (Failure.FaultIn P) outcome)
    (g : ε → ε') : FailsOnly (Failure.FaultIn P) (outcome.mapError (Failure.map g)) :=
  h.mapError _ fun e he => by cases e <;> exact he

end

namespace Builder

theorem failsOnly_step (b : Builder) (step : Step) :
    FailsOnly (Failure.FaultIn (· = .stateOverflow)) (b.step step) := by
  rw [step_eq]
  cases b.refusal? step with
  | some e => exact failsOnly_error trivial
  | none =>
    dsimp only
    split
    · exact failsOnly_ok _
    · exact failsOnly_error rfl

theorem failsOnly_run (b : Builder) (steps : List Step) :
    FailsOnly (Failure.FaultIn (· = .stateOverflow)) (b.run steps) :=
  failsOnly_foldlM failsOnly_step steps b

theorem failsOnly_finish (b : Builder) : FailsOnly (Failure.FaultIn (· = .capacityOverflow)) b.finish := by
  unfold finish
  split
  · exact failsOnly_error trivial
  · split
    · exact failsOnly_mapError _ _
    · exact failsOnly_error rfl

end Builder

theorem Automaton.failsOnly_build (steps : List Step) :
    FailsOnly (Failure.FaultIn Fault.Overflow) (build steps) :=
  ((Builder.failsOnly_run {} steps).mono fun _ h => h.imp .inl).bind fun b =>
    b.failsOnly_finish.mono fun _ h => h.imp .inr

-- ---------------------------------------------------------------------------
-- Failures of lines
-- ---------------------------------------------------------------------------

namespace Description

/-- A failure that comes from a line, not from the lack of one, and no fault but a state out of range. -/
def OfLine (e : Failure ReadError) : Prop :=
  e ≠ .error .missingAccept ∧ e.FaultIn (· = .stateOverflow)

section
variable {e : ReadError} {α : Type} {outcome : Except (Failure BuildError) α}

theorem ofLine_error (h : e ≠ .missingAccept) : OfLine (.error e) :=
  ⟨fun heq => h (Failure.error.inj heq), trivial⟩

theorem failsOnly_file (tokens : Except FileError (List String)) :
    FailsOnly OfLine (tokens.mapError fun e => .error (.file e)) := by
  cases tokens with
  | ok tokens => exact failsOnly_ok tokens
  | error e => exact failsOnly_error (ofLine_error nofun)

theorem failsOnly_stateOf (n : Nat) (token : String) : FailsOnly OfLine (stateOf n token) := by
  unfold stateOf
  cases Text.readNumeral token with
  | ok s => exact failsOnly_ok s
  | error e => exact failsOnly_error (ofLine_error nofun)

theorem failsOnly_atLine (h : FailsOnly (Failure.FaultIn (· = .stateOverflow)) outcome) (n : Nat) :
    FailsOnly OfLine (atLine n outcome) := by
  refine h.mapError _ ?_
  rintro (e | f) he
  · exact ofLine_error nofun
  · exact ⟨nofun, he⟩

theorem failsOnly_readAccept (n : Nat) (tokens : List String) : FailsOnly OfLine (readAccept n tokens) := by
  cases tokens with
  | nil => exact failsOnly_ok _
  | cons token others =>
    refine (failsOnly_stateOf n token).bind fun accept => ?_
    refine (failsOnly_atLine (Builder.failsOnly_step _ _) n).bind fun b => ?_
    refine (failsOnly_mapM (failsOnly_stateOf n) others).bind fun states => ?_
    exact failsOnly_atLine (Builder.failsOnly_run b _) n

theorem failsOnly_transition (n : Nat) (tokens : List String) : FailsOnly OfLine (transition n tokens) := by
  unfold transition
  split
  · refine (failsOnly_stateOf n _).bind fun src => ?_
    split
    · exact failsOnly_ok _
    · exact (failsOnly_stateOf n _).bind fun dest => failsOnly_ok _
  · exact (failsOnly_stateOf n _).bind fun src => (failsOnly_stateOf n _).bind fun dest => failsOnly_ok _
  · exact failsOnly_error (ofLine_error nofun)
  · exact failsOnly_error (ofLine_error nofun)

theorem failsOnly_readTransition (b : Builder) (line : Nat × Except FileError (List String)) :
    FailsOnly OfLine (readTransition b line) := by
  refine (failsOnly_file line.2).bind fun tokens => ?_
  refine (failsOnly_transition line.1 tokens).bind fun step => ?_
  exact failsOnly_atLine (Builder.failsOnly_step b step) line.1

theorem OfLine.overflow {f : Failure ReadError} (h : OfLine f) : f.FaultIn Fault.Overflow :=
  h.2.imp .inl

theorem failsOnly_readLines (lines : List Line) :
    FailsOnly (Failure.FaultIn Fault.Overflow) (readLines lines) := by
  unfold readLines
  split
  · exact failsOnly_error trivial
  · rename_i n first rest _
    have hlines : FailsOnly OfLine _ :=
      (failsOnly_file first).bind fun tokens => (failsOnly_readAccept n tokens).bind fun b =>
        failsOnly_foldlM failsOnly_readTransition rest b
    simp only [← bind_assoc] at hlines ⊢
    exact (hlines.mono fun _ => OfLine.overflow).bind fun b =>
      (b.failsOnly_finish.mono fun _ h => h.imp .inr).map _

end

end Description

end Automata
