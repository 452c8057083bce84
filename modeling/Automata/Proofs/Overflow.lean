import Automata.Proofs.Reading

/-!
# Descriptions that break off

Reading breaks off in two ways (`Automaton.read_eq_fault_iff`): on the way, when it gets to the last state
number of 64 bits, and at the end, when all lines are good but one of their states is too high for a table.
-/

namespace Automata

namespace Description

section
variable {n : Nat} {tokens : List String} {text : String}

theorem foldlM_readTransition_eq_fault {lines : List (Nat × List String)} {steps : List Step}
    (h : List.Forall₂ (fun line step => Means line.2 step) lines steps) {b : Builder} {f : Fault}
    (hrun : b.run steps = .error (.fault f)) :
    (lines.map fun line => (line.1, .ok line.2)).foldlM readTransition b = .error (.fault f) := by
  induction h generalizing b with
  | nil => cases hrun
  | @cons line step lines steps hline _ ih =>
    rw [Builder.run, List.foldlM_cons] at hrun
    rw [List.map_cons, List.foldlM_cons]
    cases hstep : b.step step with
    | error e =>
      rw [hstep] at hrun
      cases hrun
      change (transition line.1 line.2 >>= fun step => atLine line.1 (b.step step)) >>= _ = _
      rw [hline.transition_eq, ok_bind, hstep]
      rfl
    | ok next =>
      rw [hstep] at hrun
      rw [readTransition_eq_ok hline hstep]
      exact ih hrun

theorem readAccept_eq_fault {token : String} {others : List String}
    (h : Text.Denotes token (stateLimit - 1)) :
    readAccept n (token :: others) = .error (.fault .stateOverflow) := by
  rw [readAccept, stateOf_eq_ok h]
  rfl

theorem read_eq_fault_of_accept {token : String} {others : List String} {later : List (Nat × List String)}
    (hentries : entries text = (n, token :: others) :: later) (h : Text.Denotes token (stateLimit - 1)) :
    Automaton.read text = .error (.fault .stateOverflow) := by
  rw [read_eq, hentries]
  dsimp only
  rw [readAccept_eq_fault h]
  rfl

theorem BreaksOff.read_eq {lines : List (Nat × List String)} (h : BreaksOff lines)
    (hentries : entries text = lines) : Automaton.read text = .error (.fault .stateOverflow) := by
  cases h with
  | accept htoken => exact read_eq_fault_of_accept hentries htoken
  | @transition n p m first tokens before later steps step haccept hsteps hmeans hmem =>
    by_cases hp : p + 1 < stateLimit
    · have hlines : List.Forall₂ (fun line step => Means line.2 step) (before ++ [(m, tokens)])
          (steps ++ [step]) := List.rel_append hsteps (.cons hmeans .nil)
      have htokens : ∀ line ∈ before ++ [(m, tokens)], ∀ token ∈ line.2, token ≠ "" := by
        intro line hline
        have hin : line ∈ entries text := by
          rw [hentries, List.append_cons]
          exact List.mem_cons_of_mem _ (List.mem_append_left _ hline)
        exact ne_empty_of_mem_entries hin
      have hdone : ∀ s, .accept s ∈ List.replicate first.length (Step.accept p) → s = p := fun s hs =>
        Step.accept.inj (List.eq_of_mem_replicate hs)
      obtain ⟨b, htracks, hread⟩ := exists_read_accept hentries haccept hp
      have hrun : b.run (steps ++ [step]) = .error (.fault .stateOverflow) :=
        htracks.run_eq_stateOverflow (accept_eq_of_means hdone hlines) (symbol?_ne_of_means hlines htokens)
          ⟨step, by simp, _, hmem, Nat.le_of_eq rfl⟩
      rw [hread, List.append_cons, List.map_append, List.foldlM_append,
        foldlM_readTransition_eq_fault hlines hrun]
      rfl
    · obtain ⟨token, others, rfl⟩ := List.exists_cons_of_ne_nil haccept.1
      have htoken : Text.Denotes token p := haccept.2 token List.mem_cons_self
      refine read_eq_fault_of_accept hentries ?_
      by_contra hlast
      exact hp (succ_lt_of_denotes htoken fun heq => hlast (heq ▸ htoken))

/-- What a text is read as. Two of these outcomes are no answer: reading breaks off. -/
inductive Outcome (text : String) : Except (Failure ReadError) Automaton → Prop
  | stateOverflow : BreaksOff (entries text) → Outcome text (.error (.fault .stateOverflow))
  | error {e : ReadError} :
      ¬BreaksOff (entries text) → Judged (entries text) (.error e) → Outcome text (.error (.error e))
  | capacityOverflow {steps : List Step} :
      ¬BreaksOff (entries text) → Judged (entries text) (.ok steps) → ¬Step.HaveRoom steps →
      Outcome text (.error (.fault .capacityOverflow))
  | ok {steps : List Step} {a : Automaton} :
      ¬BreaksOff (entries text) → Judged (entries text) (.ok steps) → Step.HaveRoom steps →
      a.BuiltFrom steps → Outcome text (.ok a)

theorem outcome_read (text : String) : Outcome text (Automaton.read text) := by
  by_cases hover : BreaksOff (entries text)
  · rw [hover.read_eq rfl]
    exact .stateOverflow hover
  · obtain ⟨verdict, hverdict⟩ :=
      exists_judged fun line (hline : line ∈ entries text) => ne_nil_of_mem_entries hline
    cases verdict with
    | error e =>
      rw [hverdict.read_eq_error rfl hover]
      exact .error hover hverdict
    | ok steps =>
      by_cases hroom : Step.HaveRoom steps
      · obtain ⟨a, hread, ha⟩ := hverdict.read_eq_ok rfl hover hroom
        rw [hread]
        exact .ok hover hverdict hroom ha
      · rw [hverdict.read_eq_capacityOverflow rfl hover hroom]
        exact .capacityOverflow hover hverdict hroom

end

end Description

/-- Reading breaks off in two cases. On the way, it gets to a line that needs the last number of 64 bits as a
state; at the end, all lines are good, but one of their states is too high for a table. -/
theorem Automaton.read_eq_fault_iff (text : String) (f : Fault) :
    read text = .error (.fault f) ↔
      f = .stateOverflow ∧ Description.BreaksOff (Description.entries text) ∨
      f = .capacityOverflow ∧ ¬Description.BreaksOff (Description.entries text) ∧
        ∃ steps, Description.Judged (Description.entries text) (.ok steps) ∧ ¬Step.HaveRoom steps := by
  constructor
  · intro h
    have houtcome := Description.outcome_read text
    rw [h] at houtcome
    cases houtcome with
    | stateOverflow hover => exact .inl ⟨rfl, hover⟩
    | capacityOverflow hover hverdict hroom => exact .inr ⟨rfl, hover, _, hverdict, hroom⟩
  · rintro (⟨rfl, hover⟩ | ⟨rfl, hover, steps, hverdict, hroom⟩)
    · exact hover.read_eq rfl
    · exact hverdict.read_eq_capacityOverflow rfl hover hroom

/-- The second token is no numeral, but reading breaks off before it gets there. -/
theorem Automaton.read_last_state_eq_fault :
    read "18446744073709551615 x" = .error (.fault .stateOverflow) := by
  rfl

end Automata
