import Automata.Builder
import Automata.Proofs.Tables

/-!
# What a builder collects

`Builder.Tracks b steps` says what a builder that recorded `steps` knows. One more step keeps it
(`Tracks.record`), and if there is room for the rows, what is built has the steps and nothing else
(`Tracks.finish`).
-/

namespace Automata

namespace Step

def states : Step → List Nat
  | .accept s => [s]
  | .symbol _ => []
  | .move _ src dest => [src, dest]
  | .sinkMove _ src => [src]
  | .epsilonMove src dest => [src, dest]

def symbol? : Step → Option Symbol
  | .symbol y | .move y _ _ | .sinkMove y _ => some y
  | .accept _ | .epsilonMove _ _ => none

def transition? : Step → Option (Nat × Symbol × Target)
  | .move y src dest => some (src, y, .state dest)
  | .sinkMove y src => some (src, y, .sink)
  | .epsilonMove src dest => some (src, Symbol.epsilon, .state dest)
  | .accept _ | .symbol _ => none

theorem symbol_of_transition {step : Step} {s : Nat} {y : Symbol} {t : Target}
    (h : step.transition? = some (s, y, t)) : y = Symbol.epsilon ∨ step.symbol? = some y := by
  cases step <;> simp_all [transition?, symbol?]

theorem state_mem_of_transition {step : Step} {s n : Nat} {y : Symbol}
    (h : step.transition? = some (s, y, .state n)) : n ∈ step.states := by
  cases step <;> simp_all [transition?, states]

theorem source_mem_of_transition {step : Step} {s : Nat} {y : Symbol} {t : Target}
    (h : step.transition? = some (s, y, t)) : s ∈ step.states := by
  cases step <;> simp_all [transition?, states]

/-- A new table has room for all states that are mentioned. -/
def HaveRoom (steps : List Step) : Prop := ∀ step ∈ steps, ∀ s ∈ step.states, s < rowLimit

theorem HaveRoom.congr {steps steps' : List Step} (h : HaveRoom steps)
    (hsteps : ∀ step, step ∈ steps ↔ step ∈ steps') : HaveRoom steps' :=
  fun step hstep => h step ((hsteps step).mpr hstep)

theorem HaveRoom.succ_lt {steps : List Step} (h : HaveRoom steps) :
    ∀ step ∈ steps, ∀ s ∈ step.states, s + 1 < stateLimit := fun step hstep s hs =>
  Nat.lt_of_le_of_lt (h step hstep s hs) rowLimit_lt_stateLimit

end Step

/-- The targets of a set are those that the steps add for a state and a symbol. -/
def TargetSet.AddedBy (ts : TargetSet) (steps : List Step) (s : Nat) (y : Symbol) : Prop :=
  ∀ t, t ∈ ts ↔ ∃ step ∈ steps, step.transition? = some (s, y, t)

theorem TargetSet.AddedBy.exists_step {ts : TargetSet} {steps : List Step} {s : Nat} {y : Symbol}
    (h : ts.AddedBy steps s y) (hts : ts ≠ ∅) : ∃ step ∈ steps, ∃ t, step.transition? = some (s, y, t) := by
  rw [ne_eq, Std.ExtTreeSet.eq_empty_iff_forall_not_mem, not_forall_not] at hts
  obtain ⟨t, ht⟩ := hts
  obtain ⟨step, hstep, htransition⟩ := (h t).mp ht
  exact ⟨step, hstep, t, htransition⟩

/-- The automaton that a sequence of steps stands for: its accept state and its symbols are the ones
mentioned, it has one more state than the highest one mentioned, and an entry for exactly the states and
symbols for which targets were added, with these targets. -/
structure Automaton.BuiltFrom (a : Automaton) (steps : List Step) : Prop where
  accept : .accept a.accept ∈ steps
  symbol : ∀ y, y ∈ a.alphabet ↔ ∃ step ∈ steps, step.symbol? = some y
  state_lt : ∀ step ∈ steps, ∀ s ∈ step.states, s < a.size
  size : ∃ step ∈ steps, ∃ s ∈ step.states, a.size = s + 1
  target : ∀ (s : Nat) (row : Row), a.table[s]? = some row → ∀ y, (row.targets y).AddedBy steps s y
  entry_ne : ∀ (s : Nat) (row : Row), a.table[s]? = some row → ∀ y : Symbol, row[y]? ≠ some ∅

namespace Builder

/-- The error with which a builder answers a step, whatever states the step mentions. -/
def refusal? (b : Builder) : Step → Option BuildError
  | .accept s =>
    match b.accept with
    | some old => if old = s then none else some (.duplicateAccept old s)
    | none => none
  | step => if step.symbol? = some Symbol.epsilon then some .epsilonSymbol else none

def record (b : Builder) (step : Step) : Builder where
  alphabet := step.symbol?.elim b.alphabet b.alphabet.insert
  rows := step.transition?.elim b.rows fun (s, y, t) => b.rows.insert s ((b.rows.getD s ∅).add y t)
  accept := match step with
    | .accept s => some s
    | _ => b.accept
  states := step.states.foldl (fun states s => max states (s + 1)) b.states

theorem addTransition_eq (b : Builder) (src : Nat) (y : Symbol) (t : Target) :
    b.addTransition src y t =
      if ∀ s ∈ src :: t.state?.toList, s + 1 < stateLimit then
        .ok ({ b with
          states := (src :: t.state?.toList).foldl (fun states s => max states (s + 1)) b.states }.addTarget
            src y t)
      else .error (.fault .stateOverflow) := by
  unfold addTransition mention
  by_cases hsrc : src + 1 < stateLimit
  · cases t with
    | sink => simp [hsrc, mentionTarget, Target.state?, bind, Except.bind, pure, Except.pure]
    | state dest =>
      by_cases hdest : dest + 1 < stateLimit
      · simp [hsrc, hdest, mentionTarget, mention, Target.state?, bind, Except.bind, pure, Except.pure]
      · simp [hsrc, hdest, mentionTarget, mention, Target.state?, bind, Except.bind]
  · simp [hsrc, bind, Except.bind]

/-- Errors come before the range of states. -/
theorem step_eq (b : Builder) (step : Step) : b.step step =
    match b.refusal? step with
    | some e => .error (.error e)
    | none =>
      if ∀ s ∈ step.states, s + 1 < stateLimit then .ok (b.record step)
      else .error (.fault .stateOverflow) := by
  cases step with
  | accept s =>
    unfold Builder.step setAccept refusal?
    cases haccept : b.accept with
    | none => simp [mention, record, Step.states, Step.symbol?, Step.transition?]
    | some old =>
      by_cases h : old = s
      · subst h
        simp [mention, record, Step.states, Step.symbol?, Step.transition?, ← haccept]
      · simp [h]
  | symbol y =>
    by_cases hy : y = Symbol.epsilon
    · simp [Builder.step, addSymbol, refusal?, Step.symbol?, hy]
    · simp [Builder.step, addSymbol, refusal?, Step.symbol?, hy, record, Step.states, Step.transition?]
  | move y src dest =>
    by_cases hy : y = Symbol.epsilon
    · simp [Builder.step, addSymbol, refusal?, Step.symbol?, hy, bind, Except.bind]
    · simp [Builder.step, addSymbol, refusal?, Step.symbol?, hy, bind, Except.bind, addTransition_eq,
        Target.state?, record, Step.states, Step.transition?, addTarget]
  | sinkMove y src =>
    by_cases hy : y = Symbol.epsilon
    · simp [Builder.step, addSymbol, refusal?, Step.symbol?, hy, bind, Except.bind]
    · simp [Builder.step, addSymbol, refusal?, Step.symbol?, hy, bind, Except.bind, addTransition_eq,
        Target.state?, record, Step.states, Step.transition?, addTarget]
  | epsilonMove src dest =>
    simp [Builder.step, refusal?, Step.symbol?, addTransition_eq, Target.state?, record, Step.states,
      Step.transition?, addTarget]

-- ---------------------------------------------------------------------------
-- One step and whole runs
-- ---------------------------------------------------------------------------

/-- What a builder knows that recorded the given steps. -/
structure Tracks (b : Builder) (steps : List Step) : Prop where
  accept : ∀ s, b.accept = some s ↔ .accept s ∈ steps
  symbol : ∀ y, y ∈ b.alphabet ↔ ∃ step ∈ steps, step.symbol? = some y
  state_lt : ∀ step ∈ steps, ∀ s ∈ step.states, s < b.states
  states : b.states = 0 ∨ ∃ step ∈ steps, ∃ s ∈ step.states, b.states = s + 1
  target : ∀ s y, ((b.rows.getD s ∅).targets y).AddedBy steps s y
  entry_ne : ∀ (s : Nat) (y : Symbol), (b.rows.getD s ∅)[y]? ≠ some ∅

section
variable {b b' : Builder} {step : Step} {steps later : List Step}

theorem tracks_nil : Tracks {} [] where
  accept s := by simp
  symbol y := by simp
  state_lt step hstep := by simp at hstep
  states := .inl rfl
  target s y t := by simp [Row.targets_eq]
  entry_ne s y := by simp

theorem Tracks.accept_record (h : b.Tracks steps) (hstep : b.refusal? step = none) (s : Nat) :
    (b.record step).accept = some s ↔ .accept s ∈ steps ++ [step] := by
  rw [List.mem_append, List.mem_singleton, ← h.accept]
  cases step with
  | accept s' =>
    cases haccept : b.accept with
    | none => simp [record, eq_comm]
    | some old =>
      obtain rfl : old = s' := by simpa [refusal?, haccept] using hstep
      simp [record, eq_comm]
  | _ => simp [record]

theorem Tracks.symbol_record (h : b.Tracks steps) (y : Symbol) :
    y ∈ (b.record step).alphabet ↔ ∃ st ∈ steps ++ [step], st.symbol? = some y := by
  simp only [List.mem_append, List.mem_singleton, or_and_right, exists_or, exists_eq_left, ← h.symbol]
  cases hsymbol : step.symbol? with
  | none => simp [record, hsymbol]
  | some z =>
    simp only [record, hsymbol, Option.elim_some, mem_insert_iff, Option.some.injEq]
    rw [or_comm, eq_comm]

theorem lt_foldl_states (l : List Nat) (n : Nat) :
    n ≤ l.foldl (fun states s => max states (s + 1)) n ∧
      (∀ s ∈ l, s < l.foldl (fun states s => max states (s + 1)) n) ∧
      (l.foldl (fun states s => max states (s + 1)) n = n ∨
        ∃ s ∈ l, l.foldl (fun states s => max states (s + 1)) n = s + 1) := by
  induction l generalizing n with
  | nil => simp
  | cons s l ih =>
    obtain ⟨hle, hlt, heq⟩ := ih (max n (s + 1))
    rw [List.foldl_cons, List.forall_mem_cons]
    refine ⟨by omega, ⟨by omega, hlt⟩, ?_⟩
    rcases heq with heq | ⟨s', hs', heq⟩
    · rcases Nat.le_total n (s + 1) with hmax | hmax
      · exact .inr ⟨s, List.mem_cons_self, by omega⟩
      · exact .inl (by omega)
    · exact .inr ⟨s', List.mem_cons_of_mem _ hs', heq⟩

theorem getD_rows_record (s : Nat) : (b.record step).rows.getD s ∅ =
    step.transition?.elim (b.rows.getD s ∅) fun (s', y, t) =>
      if s' = s then (b.rows.getD s ∅).add y t else b.rows.getD s ∅ := by
  unfold record
  cases step.transition? with
  | none => rfl
  | some transition =>
    obtain ⟨s', y, t⟩ := transition
    simp only [Option.elim_some, Std.ExtTreeMap.getD_insert, Std.LawfulEqCmp.compare_eq_iff_eq]
    split
    · rename_i heq
      rw [heq]
    · rfl

theorem Tracks.target_record (h : b.Tracks steps) (s : Nat) (y : Symbol) :
    (((b.record step).rows.getD s ∅).targets y).AddedBy (steps ++ [step]) s y := by
  intro t
  simp only [List.mem_append, List.mem_singleton, or_and_right, exists_or, exists_eq_left]
  rw [← h.target s y t, getD_rows_record]
  cases htransition : step.transition? with
  | none => simp
  | some transition =>
    obtain ⟨s', y', t'⟩ := transition
    simp only [Option.elim_some, Option.some.injEq, Prod.mk.injEq]
    by_cases hs : s' = s
    · by_cases hy : y' = y
      · subst hs hy
        rw [if_pos rfl, Row.targets_eq, Row.getElem?_add, if_pos rfl, Option.getD_some, mem_insert_iff]
        simp [or_comm, eq_comm]
      · rw [if_pos hs, Row.targets_eq, Row.getElem?_add, if_neg hy, ← Row.targets_eq]
        simp [hy]
    · rw [if_neg hs]
      simp [hs]

theorem Tracks.entry_ne_record (h : b.Tracks steps) (s : Nat) (y : Symbol) :
    ((b.record step).rows.getD s ∅)[y]? ≠ some ∅ := by
  rw [getD_rows_record]
  cases step.transition? with
  | none => exact h.entry_ne s y
  | some transition =>
    obtain ⟨s', y', t⟩ := transition
    simp only [Option.elim_some]
    split
    · rw [Row.getElem?_add]
      split
      · simp
      · exact h.entry_ne s y
    · exact h.entry_ne s y

theorem Tracks.record (h : b.Tracks steps) (hstep : b.refusal? step = none) :
    (b.record step).Tracks (steps ++ [step]) := by
  obtain ⟨hle, hlt, hstates⟩ := lt_foldl_states step.states b.states
  refine ⟨h.accept_record hstep, h.symbol_record, ?_, ?_, h.target_record, h.entry_ne_record⟩
  · rw [List.forall_mem_append, List.forall_mem_singleton]
    exact ⟨fun st hst s hs => Nat.lt_of_lt_of_le (h.state_lt st hst s hs) hle, hlt⟩
  · rcases hstates with heq | ⟨s, hs, heq⟩
    · rcases h.states with hzero | ⟨st, hst, s, hs, hsize⟩
      · exact .inl (heq.trans hzero)
      · exact .inr ⟨st, List.mem_append_left _ hst, s, hs, heq.trans hsize⟩
    · exact .inr ⟨step, by simp, s, hs, heq⟩

theorem step_eq_ok_iff : b.step step = .ok b' ↔
    b.refusal? step = none ∧ (∀ s ∈ step.states, s + 1 < stateLimit) ∧ b' = b.record step := by
  rw [step_eq]
  cases b.refusal? step with
  | some e => simp
  | none =>
    dsimp only
    split
    · simp_all [eq_comm]
    · rename_i hrange
      simp only [reduceCtorEq, true_and, false_iff, not_and]
      exact fun h => absurd h hrange

theorem Tracks.run (h : b.Tracks steps) (hrun : b.run later = .ok b') : b'.Tracks (steps ++ later) := by
  induction later generalizing b steps with
  | nil =>
    cases hrun
    simpa using h
  | cons step later ih =>
    unfold Builder.run at hrun
    rw [List.foldlM_cons] at hrun
    cases hstep : b.step step with
    | error e => simp [hstep, bind, Except.bind] at hrun
    | ok next =>
      obtain ⟨hrefusal, -, rfl⟩ := step_eq_ok_iff.mp hstep
      rw [hstep] at hrun
      simpa using ih (h.record hrefusal) hrun

theorem Tracks.refusal?_eq_none (h : b.Tracks steps) {p : Nat}
    (haccept : ∀ s, .accept s ∈ steps ++ [step] → s = p)
    (hsymbol : step.symbol? ≠ some Symbol.epsilon) : b.refusal? step = none := by
  cases step with
  | accept s =>
    cases hold : b.accept with
    | none => simp [refusal?, hold]
    | some old =>
      have hs := haccept s (by simp)
      have ho := haccept old (List.mem_append_left _ ((h.accept old).mp hold))
      simp [refusal?, hold, hs, ho]
  | _ => simpa [refusal?] using hsymbol

theorem Tracks.run_eq_ok (h : b.Tracks steps) {p : Nat}
    (haccept : ∀ s, .accept s ∈ steps ++ later → s = p)
    (hsymbol : ∀ step ∈ later, step.symbol? ≠ some Symbol.epsilon)
    (hrange : ∀ step ∈ later, ∀ s ∈ step.states, s + 1 < stateLimit) : ∃ b', b.run later = .ok b' := by
  induction later generalizing b steps with
  | nil => exact ⟨b, rfl⟩
  | cons step later ih =>
    rw [List.forall_mem_cons] at hsymbol hrange
    have hrefusal : b.refusal? step = none := by
      refine h.refusal?_eq_none (fun s hs => haccept s ?_) hsymbol.1
      rw [List.append_cons]
      exact List.mem_append_left _ hs
    have hstep : b.step step = .ok (b.record step) := step_eq_ok_iff.mpr ⟨hrefusal, hrange.1, rfl⟩
    obtain ⟨b', hb'⟩ := ih (h.record hrefusal) (by simpa using haccept) hsymbol.2 hrange.2
    refine ⟨b', ?_⟩
    rw [Builder.run, List.foldlM_cons, hstep]
    exact hb'

theorem Tracks.run_eq_stateOverflow (h : b.Tracks steps) {p : Nat}
    (haccept : ∀ s, .accept s ∈ steps ++ later → s = p)
    (hsymbol : ∀ step ∈ later, step.symbol? ≠ some Symbol.epsilon)
    (hrange : ∃ step ∈ later, ∃ s ∈ step.states, stateLimit ≤ s + 1) :
    b.run later = .error (.fault .stateOverflow) := by
  induction later generalizing b steps with
  | nil => simp at hrange
  | cons step later ih =>
    rw [List.forall_mem_cons] at hsymbol
    have hrefusal : b.refusal? step = none := by
      refine h.refusal?_eq_none (fun s hs => haccept s ?_) hsymbol.1
      rw [List.append_cons]
      exact List.mem_append_left _ hs
    rw [Builder.run, List.foldlM_cons]
    by_cases hstep : ∀ s ∈ step.states, s + 1 < stateLimit
    · rw [step_eq_ok_iff.mpr ⟨hrefusal, hstep, rfl⟩]
      refine ih (h.record hrefusal) (by simpa using haccept) hsymbol.2 ?_
      obtain ⟨late, hlate, s, hs, hlimit⟩ := hrange
      rcases List.mem_cons.mp hlate with rfl | hlate
      · exact absurd (hstep s hs) (Nat.not_lt.mpr hlimit)
      · exact ⟨late, hlate, s, hs, hlimit⟩
    · rw [step_eq, hrefusal]
      dsimp only
      rw [if_neg hstep]
      rfl

theorem Tracks.congr {steps' : List Step} (h : b.Tracks steps)
    (hsteps : ∀ step, step ∈ steps ↔ step ∈ steps') : b.Tracks steps' where
  accept s := by rw [h.accept, hsteps]
  symbol y := by simpa only [hsteps] using h.symbol y
  state_lt step hstep := h.state_lt step ((hsteps step).mpr hstep)
  states := by simpa only [hsteps] using h.states
  target s y t := by simpa only [hsteps] using h.target s y t
  entry_ne := h.entry_ne

-- ---------------------------------------------------------------------------
-- Finishing
-- ---------------------------------------------------------------------------

theorem getElem?_table (b : Builder) (s : Nat) :
    b.table[s]? = if s < b.states then some (b.rows.getD s ∅) else none := by
  unfold table
  split
  · simp_all
  · simp_all

theorem Tracks.wellFormed (h : b.Tracks steps) {s : Nat} (hs : b.accept = some s) :
    WellFormed b.alphabet b.table s := by
  have hsize : b.table.size = b.states := by simp [table]
  constructor
  · rw [AcceptOk, hsize]
    exact .inl (h.state_lt _ ((h.accept s).mp hs) s (by simp [Step.states]))
  · intro s' row hrow y ts hts
    rw [getElem?_table] at hrow
    split at hrow
    · cases hrow
      have hne : ts ≠ ∅ := fun hempty => h.entry_ne s' y (hempty ▸ hts)
      have hadded : ts.AddedBy steps s' y := by
        have := h.target s' y
        rwa [Row.targets_eq, hts, Option.getD_some] at this
      rw [EntryOk, hsize]
      constructor
      · obtain ⟨step, hstep, t, htransition⟩ := hadded.exists_step hne
        exact (Step.symbol_of_transition htransition).imp_right fun hy => (h.symbol y).mpr ⟨step, hstep, hy⟩
      · intro n hn
        obtain ⟨step, hstep, htransition⟩ := (hadded _).mp hn
        exact h.state_lt step hstep n (Step.state_mem_of_transition htransition)
    · cases hrow

theorem Tracks.states_le_iff (h : b.Tracks steps) : b.states ≤ rowLimit ↔ Step.HaveRoom steps := by
  constructor
  · exact fun hle step hstep s hs => Nat.lt_of_lt_of_le (h.state_lt step hstep s hs) hle
  · intro hroom
    rcases h.states with hzero | ⟨step, hstep, s, hs, hstates⟩
    · exact hzero ▸ Nat.zero_le _
    · exact hstates ▸ hroom step hstep s hs

theorem Tracks.finish (h : b.Tracks steps) {s : Nat} (hs : b.accept = some s) (hroom : Step.HaveRoom steps) :
    ∃ a, b.finish = .ok a ∧ a.accept = s ∧ a.BuiltFrom steps := by
  have hmake : Automaton.make b.alphabet b.table s = .ok ⟨_, _, _, h.wellFormed hs⟩ :=
    Automaton.make_eq_ok_iff.mpr ⟨rfl, rfl, rfl⟩
  have hsize : b.table.size = b.states := by simp [table]
  have haccept : Step.accept s ∈ steps := (h.accept s).mp hs
  have hrow : ∀ {s' : Nat} {row : Row}, b.table[s']? = some row → row = b.rows.getD s' ∅ := by
    intro s' row hrow
    rw [getElem?_table] at hrow
    split at hrow
    · exact (Option.some.inj hrow).symm
    · cases hrow
  have hfinish : b.finish = .ok ⟨_, _, _, h.wellFormed hs⟩ := by
    rw [Builder.finish, hs]
    dsimp only
    rw [if_pos (h.states_le_iff.mpr hroom), hmake]
    rfl
  refine ⟨_, hfinish, rfl, haccept, h.symbol, ?_, ?_, ?_, ?_⟩
  · intro step hstep s hs
    rw [Automaton.size, hsize]
    exact h.state_lt step hstep s hs
  · rw [Automaton.size, hsize]
    have := h.state_lt _ haccept s (by simp [Step.states])
    exact h.states.resolve_left (by omega)
  · intro s' row hs' y
    exact hrow hs' ▸ h.target s' y
  · intro s' row hs' y
    exact hrow hs' ▸ h.entry_ne s' y

theorem Tracks.finish_eq_capacityOverflow (h : b.Tracks steps) {s : Nat} (hs : b.accept = some s)
    (hroom : ¬Step.HaveRoom steps) : b.finish = .error (.fault .capacityOverflow) := by
  rw [Builder.finish, hs]
  exact if_neg (mt h.states_le_iff.mp hroom)

end

end Builder

namespace Automaton

theorem BuiltFrom.leads_iff {a : Automaton} {steps : List Step} (h : a.BuiltFrom steps) {s d : Nat}
    {y : Symbol} :
    a.table.Leads s y d ↔ ∃ step ∈ steps, step.transition? = some (s, y, .state d) := by
  constructor
  · rintro ⟨row, hrow, hd⟩
    exact (h.target s row hrow y _).mp hd
  · rintro ⟨step, hstep, htransition⟩
    have hs : s < a.table.size := h.state_lt step hstep s (Step.source_mem_of_transition htransition)
    have hrow := Array.getElem?_eq_getElem hs
    exact ⟨_, hrow, (h.target s _ hrow y _).mpr ⟨step, hstep, htransition⟩⟩

theorem BuiltFrom.congr {a : Automaton} {steps steps' : List Step} (h : a.BuiltFrom steps)
    (hsteps : ∀ step, step ∈ steps ↔ step ∈ steps') : a.BuiltFrom steps' where
  accept := (hsteps _).mp h.accept
  symbol y := by simpa only [hsteps] using h.symbol y
  state_lt step hstep := h.state_lt step ((hsteps step).mpr hstep)
  size := by simpa only [hsteps] using h.size
  target s row hrow y t := by simpa only [hsteps] using h.target s row hrow y t
  entry_ne := h.entry_ne

theorem exists_builtFrom {steps : List Step} {p : Nat} (haccept : ∀ s, .accept s ∈ steps ↔ s = p)
    (hsymbol : ∀ step ∈ steps, step.symbol? ≠ some Symbol.epsilon) (hroom : Step.HaveRoom steps) :
    ∃ a, build steps = .ok a ∧ a.accept = p ∧ a.BuiltFrom steps := by
  obtain ⟨b, hrun⟩ := Builder.tracks_nil.run_eq_ok (fun s hs => (haccept s).mp (by simpa using hs))
    hsymbol hroom.succ_lt
  have htracks : b.Tracks steps := Builder.tracks_nil.run hrun
  obtain ⟨a, hfinish, ha⟩ := htracks.finish ((htracks.accept p).mpr ((haccept p).mpr rfl)) hroom
  refine ⟨a, ?_, ha⟩
  rw [build, hrun]
  exact hfinish

end Automaton

end Automata
