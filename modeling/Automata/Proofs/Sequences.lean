import Automata.Proofs.Building
import Mathlib.Data.List.Induction

/-!
# What a sequence of steps builds

The first fault of a sequence is its outcome (`Automaton.BuildOutcome`). Neither the order of the steps nor
their repetition matters to the automaton, because a sequence has no fault when its steps, taken together,
have none (`Step.faultless_iff`).
-/

namespace Automata

namespace Step

inductive Refused (earlier : List Step) : Step → BuildError → Prop
  | epsilonSymbol {step : Step} : step.symbol? = some Symbol.epsilon → Refused earlier step .epsilonSymbol
  | duplicateAccept {p q : Nat} :
      .accept p ∈ earlier → p ≠ q → Refused earlier (.accept q) (.duplicateAccept p q)

/-- What is wrong with a step that comes after the given ones. Of the numbers that fit into 64 bits only
the last one is out of range as a state. An error of the step comes before its states. -/
inductive Faulty (earlier : List Step) : Step → Failure BuildError → Prop
  | refused {step : Step} {e : BuildError} : Refused earlier step e → Faulty earlier step (.error e)
  | stateOverflow {step : Step} {s : Nat} :
      (∀ e, ¬Refused earlier step e) → s ∈ step.states → stateLimit ≤ s + 1 →
      Faulty earlier step (.fault .stateOverflow)

def Faultless (steps : List Step) : Prop :=
  ∀ earlier step, earlier ++ [step] <+: steps → ∀ f, ¬Faulty earlier step f

def FirstFault (steps : List Step) (f : Failure BuildError) : Prop :=
  ∃ earlier step, earlier ++ [step] <+: steps ∧ Faultless earlier ∧ Faulty earlier step f

section
variable {steps : List Step} {step : Step}

theorem faultless_nil : Faultless [] := by
  intro earlier step h
  simp at h

theorem faultless_concat_iff :
    Faultless (steps ++ [step]) ↔ Faultless steps ∧ ∀ f, ¬Faulty steps step f := by
  constructor
  · intro h
    exact ⟨fun earlier st hpre => h earlier st (List.prefix_concat_iff.mpr (.inr hpre)),
      h steps step (List.prefix_refl _)⟩
  · rintro ⟨hsteps, hstep⟩ earlier st hpre
    rcases List.prefix_concat_iff.mp hpre with heq | hpre
    · obtain ⟨rfl, hlast⟩ := List.append_inj' heq rfl
      obtain rfl := List.singleton_inj.mp hlast
      exact hstep
    · exact hsteps earlier st hpre

theorem faultless_or_firstFault (steps : List Step) : Faultless steps ∨ ∃ f, FirstFault steps f := by
  induction steps using List.reverseRecOn with
  | nil => exact .inl faultless_nil
  | append_singleton steps step ih =>
    rcases ih with hsteps | ⟨f, earlier, st, hpre, hfault⟩
    · by_cases hstep : ∃ f, Faulty steps step f
      · obtain ⟨f, hf⟩ := hstep
        exact .inr ⟨f, steps, step, List.prefix_refl _, hsteps, hf⟩
      · exact .inl (faultless_concat_iff.mpr ⟨hsteps, not_exists.mp hstep⟩)
    · exact .inr ⟨f, earlier, st, List.prefix_concat_iff.mpr (.inr hpre), hfault⟩

theorem FirstFault.not_faultless {f : Failure BuildError} (h : FirstFault steps f) :
    ¬Faultless steps := by
  obtain ⟨earlier, step, hpre, -, hfault⟩ := h
  exact fun hsteps => hsteps earlier step hpre f hfault

end

end Step

-- ---------------------------------------------------------------------------
-- Faults of a run
-- ---------------------------------------------------------------------------

namespace Builder

open Step (Refused Faulty Faultless FirstFault)

section
variable {b : Builder} {steps : List Step} {step : Step} {f : Failure BuildError}

theorem Tracks.refusal?_eq_some_iff (h : b.Tracks steps) {e : BuildError} :
    b.refusal? step = some e ↔ Refused steps step e := by
  constructor
  · intro hrefusal
    cases step with
    | accept q =>
      cases hold : b.accept with
      | none => simp [refusal?, hold] at hrefusal
      | some p =>
        by_cases hpq : p = q
        · simp [refusal?, hold, hpq] at hrefusal
        · simp only [refusal?, hold, hpq, if_false, Option.some.injEq] at hrefusal
          exact hrefusal ▸ .duplicateAccept ((h.accept p).mp hold) hpq
    | _ =>
      simp only [refusal?] at hrefusal
      split at hrefusal
      · rename_i hsymbol
        cases hrefusal
        exact .epsilonSymbol hsymbol
      · cases hrefusal
  · intro hrefused
    cases hrefused with
    | epsilonSymbol hsymbol =>
      cases step with
      | accept => simp [Step.symbol?] at hsymbol
      | _ => simp [refusal?, hsymbol]
    | duplicateAccept hp hpq => simp [refusal?, (h.accept _).mpr hp, hpq]

theorem Tracks.refusal?_eq_none_iff (h : b.Tracks steps) :
    b.refusal? step = none ↔ ∀ e, ¬Refused steps step e := by
  simp only [Option.eq_none_iff_forall_ne_some, ne_eq, h.refusal?_eq_some_iff]

theorem Tracks.step_eq_error_iff (h : b.Tracks steps) :
    b.step step = .error f ↔ Faulty steps step f := by
  rw [step_eq]
  constructor
  · intro hstep
    split at hstep
    · rename_i e hrefusal
      cases hstep
      exact .refused (h.refusal?_eq_some_iff.mp hrefusal)
    · rename_i hrefusal
      split at hstep
      · cases hstep
      · rename_i hrange
        cases hstep
        simp only [not_forall, Nat.not_lt] at hrange
        obtain ⟨s, hs, hlimit⟩ := hrange
        exact .stateOverflow (h.refusal?_eq_none_iff.mp hrefusal) hs hlimit
  · intro hfaulty
    cases hfaulty with
    | refused hrefused => rw [h.refusal?_eq_some_iff.mpr hrefused]
    | stateOverflow hrefused hs hlimit =>
      rw [h.refusal?_eq_none_iff.mpr hrefused]
      exact if_neg fun hrange => absurd (hrange _ hs) (Nat.not_lt.mpr hlimit)

theorem Tracks.step_eq_ok (h : b.Tracks steps) (hstep : ∀ f, ¬Faulty steps step f) :
    b.step step = .ok (b.record step) ∧ (b.record step).Tracks (steps ++ [step]) := by
  cases hresult : b.step step with
  | error f => exact absurd (h.step_eq_error_iff.mp hresult) (hstep f)
  | ok next =>
    obtain ⟨hrefusal, -, rfl⟩ := step_eq_ok_iff.mp hresult
    exact ⟨rfl, h.record hrefusal⟩

theorem run_append (b : Builder) (steps later : List Step) :
    b.run (steps ++ later) = b.run steps >>= fun b' => b'.run later :=
  List.foldlM_append

theorem run_concat (b : Builder) (steps : List Step) (step : Step) :
    b.run (steps ++ [step]) = b.run steps >>= fun b' => b'.step step := by
  rw [run_append]
  congr 1
  funext b'
  simp only [Builder.run, List.foldlM_cons, List.foldlM_nil, bind_pure]

theorem run_eq_ok_of_faultless (h : Faultless steps) :
    ∃ b, Builder.run {} steps = .ok b ∧ b.Tracks steps := by
  induction steps using List.reverseRecOn with
  | nil => exact ⟨{}, rfl, tracks_nil⟩
  | append_singleton steps step ih =>
    obtain ⟨hsteps, hstep⟩ := Step.faultless_concat_iff.mp h
    obtain ⟨b, hrun, htracks⟩ := ih hsteps
    obtain ⟨hresult, htracks'⟩ := htracks.step_eq_ok hstep
    refine ⟨_, ?_, htracks'⟩
    rw [run_concat, hrun]
    exact hresult

theorem run_eq_error_of_firstFault (h : FirstFault steps f) : Builder.run {} steps = .error f := by
  obtain ⟨earlier, step, ⟨later, rfl⟩, hearlier, hstep⟩ := h
  obtain ⟨b, hrun, htracks⟩ := run_eq_ok_of_faultless hearlier
  rw [run_append, run_concat, hrun]
  change (b.step step >>= fun b' => b'.run later) = _
  rw [htracks.step_eq_error_iff.mpr hstep]
  rfl

end

end Builder

-- ---------------------------------------------------------------------------
-- Steps as a set
-- ---------------------------------------------------------------------------

section
variable {steps steps' : List Step}

theorem Step.faultless_iff : Faultless steps ↔
    (∀ step ∈ steps, step.symbol? ≠ some Symbol.epsilon) ∧
      (∀ p q, .accept p ∈ steps → .accept q ∈ steps → p = q) ∧
      ∀ step ∈ steps, ∀ s ∈ step.states, s + 1 < stateLimit := by
  constructor
  · intro h
    obtain ⟨b, -, htracks⟩ := Builder.run_eq_ok_of_faultless h
    have hstep : ∀ step ∈ steps, ∃ earlier, ∀ f, ¬Faulty earlier step f := by
      intro step hstep
      obtain ⟨earlier, later, rfl⟩ := List.append_of_mem hstep
      exact ⟨earlier, h earlier step ⟨later, by simp⟩⟩
    refine ⟨fun step hmem hsymbol => ?_, fun p q hp hq => ?_, fun step hmem s hs => ?_⟩
    · obtain ⟨earlier, hfaultless⟩ := hstep step hmem
      exact hfaultless _ (.refused (.epsilonSymbol hsymbol))
    · rw [← htracks.accept] at hp hq
      exact Option.some.inj (hp.symm.trans hq)
    · obtain ⟨earlier, hfaultless⟩ := hstep step hmem
      by_contra hlimit
      exact hfaultless _ (.stateOverflow (fun e he => hfaultless _ (.refused he)) hs (Nat.not_lt.mp hlimit))
  · rintro ⟨hsymbol, haccept, hrange⟩ earlier step hpre f hfaulty
    have hmem : step ∈ steps := hpre.subset (by simp)
    cases hfaulty with
    | refused hrefused =>
      cases hrefused with
      | epsilonSymbol hepsilon => exact hsymbol step hmem hepsilon
      | duplicateAccept hp hpq => exact hpq (haccept _ _ (hpre.subset (by simp [hp])) hmem)
    | stateOverflow _ hs hlimit => exact absurd (hrange step hmem _ hs) (Nat.not_lt.mpr hlimit)

theorem Step.Faultless.congr (h : Faultless steps) (hsteps : ∀ step, step ∈ steps ↔ step ∈ steps') :
    Faultless steps' := by
  simp only [faultless_iff, hsteps] at h ⊢
  exact h

namespace Automaton

theorem BuiltFrom.size_le {a b : Automaton} (ha : a.BuiltFrom steps) (hb : b.BuiltFrom steps) :
    a.size ≤ b.size := by
  obtain ⟨step, hstep, s, hs, hsize⟩ := ha.size
  exact hsize ▸ hb.state_lt step hstep s hs

theorem BuiltFrom.row_eq {a b : Automaton} (ha : a.BuiltFrom steps) (hb : b.BuiltFrom steps) {s : Nat}
    {row row' : Row} (hrow : a.table[s]? = some row) (hrow' : b.table[s]? = some row') : row = row' := by
  apply Std.ExtTreeMap.ext_getElem?
  intro y
  have htargets : row.targets y = row'.targets y := by
    apply Std.ExtTreeSet.ext_mem
    intro t
    rw [ha.target s row hrow y t, hb.target s row' hrow' y t]
  -- Neither row has an empty entry, so equal targets make equal entries.
  have hne := ha.entry_ne s row hrow y
  have hne' := hb.entry_ne s row' hrow' y
  rw [Row.targets_eq, Row.targets_eq] at htargets
  cases hentry : row[y]? <;> cases hentry' : row'[y]? <;> simp_all

theorem BuiltFrom.eq {a b : Automaton} (ha : a.BuiltFrom steps) (hb : b.BuiltFrom steps)
    (hsteps : Step.Faultless steps) : a = b := by
  have hsize : a.table.size = b.table.size := Nat.le_antisymm (ha.size_le hb) (hb.size_le ha)
  apply ext
  · apply Std.ExtTreeSet.ext_mem
    intro y
    rw [ha.symbol, hb.symbol]
  · apply Array.ext hsize
    intro s hs hs'
    exact ha.row_eq hb (Array.getElem?_eq_getElem hs) (Array.getElem?_eq_getElem hs')
  · exact (Step.faultless_iff.mp hsteps).2.1 _ _ ha.accept hb.accept

-- ---------------------------------------------------------------------------
-- The outcome of a sequence
-- ---------------------------------------------------------------------------

theorem build_eq_ok_of_faultless (h : Step.Faultless steps) {p : Nat} (hp : .accept p ∈ steps)
    (hroom : Step.HaveRoom steps) : ∃ a, build steps = .ok a ∧ a.BuiltFrom steps := by
  obtain ⟨b, hrun, htracks⟩ := Builder.run_eq_ok_of_faultless h
  obtain ⟨a, hfinish, -, ha⟩ := htracks.finish ((htracks.accept p).mpr hp) hroom
  refine ⟨a, ?_, ha⟩
  rw [build, hrun]
  exact hfinish

theorem build_eq_capacityOverflow (h : Step.Faultless steps) {p : Nat} (hp : .accept p ∈ steps)
    (hroom : ¬Step.HaveRoom steps) : build steps = .error (.fault .capacityOverflow) := by
  obtain ⟨b, hrun, htracks⟩ := Builder.run_eq_ok_of_faultless h
  rw [build, hrun]
  exact htracks.finish_eq_capacityOverflow ((htracks.accept p).mpr hp) hroom

theorem build_eq_missingAccept (h : Step.Faultless steps) (hp : ∀ p, .accept p ∉ steps) :
    build steps = .error (.error .missingAccept) := by
  obtain ⟨b, hrun, htracks⟩ := Builder.run_eq_ok_of_faultless h
  have haccept : b.accept = none := by
    rw [Option.eq_none_iff_forall_ne_some]
    exact fun p hold => hp p ((htracks.accept p).mp hold)
  rw [build, hrun]
  change b.finish = _
  rw [Builder.finish, haccept]

theorem build_eq_error_of_firstFault {f : Failure BuildError} (h : Step.FirstFault steps f) :
    build steps = .error f := by
  rw [build, Builder.run_eq_error_of_firstFault h]
  rfl

inductive BuildOutcome (steps : List Step) : Except (Failure BuildError) Automaton → Prop
  | fault {f : Failure BuildError} : Step.FirstFault steps f → BuildOutcome steps (.error f)
  | missingAccept :
      Step.Faultless steps → (∀ p, .accept p ∉ steps) → BuildOutcome steps (.error (.error .missingAccept))
  /-- The steps are good, but a state is too high for any table. -/
  | capacityOverflow {p : Nat} :
      Step.Faultless steps → .accept p ∈ steps → ¬Step.HaveRoom steps →
      BuildOutcome steps (.error (.fault .capacityOverflow))
  | ok {a : Automaton} :
      Step.Faultless steps → Step.HaveRoom steps → a.BuiltFrom steps → BuildOutcome steps (.ok a)

theorem buildOutcome_build (steps : List Step) : BuildOutcome steps (build steps) := by
  rcases Step.faultless_or_firstFault steps with h | ⟨f, h⟩
  · by_cases hp : ∃ p, Step.accept p ∈ steps
    · obtain ⟨p, hp⟩ := hp
      by_cases hroom : Step.HaveRoom steps
      · obtain ⟨a, ha, hbuilt⟩ := build_eq_ok_of_faultless h hp hroom
        rw [ha]
        exact .ok h hroom hbuilt
      · rw [build_eq_capacityOverflow h hp hroom]
        exact .capacityOverflow h hp hroom
    · rw [build_eq_missingAccept h (not_exists.mp hp)]
      exact .missingAccept h (not_exists.mp hp)
  · rw [build_eq_error_of_firstFault h]
    exact .fault h

theorem builtFrom_of_build {a : Automaton} (h : build steps = .ok a) :
    Step.Faultless steps ∧ a.BuiltFrom steps := by
  have hbuild := buildOutcome_build steps
  rw [h] at hbuild
  cases hbuild with
  | ok hsteps _ ha => exact ⟨hsteps, ha⟩

theorem BuildOutcome.build_eq {outcome : Except (Failure BuildError) Automaton}
    (h : BuildOutcome steps outcome) : build steps = outcome := by
  cases h with
  | fault hf => exact build_eq_error_of_firstFault hf
  | missingAccept hsteps hp => exact build_eq_missingAccept hsteps hp
  | capacityOverflow hsteps hp hroom => exact build_eq_capacityOverflow hsteps hp hroom
  | ok hsteps hroom ha =>
    obtain ⟨a, ha', hbuilt⟩ := build_eq_ok_of_faultless hsteps ha.accept hroom
    rw [ha', hbuilt.eq ha hsteps]

/-- Which steps there are decides, if none of them is at fault. -/
theorem BuildOutcome.congr {outcome : Except (Failure BuildError) Automaton} (h : BuildOutcome steps outcome)
    (hfaultless : Step.Faultless steps) (hsteps : ∀ step, step ∈ steps ↔ step ∈ steps') :
    BuildOutcome steps' outcome := by
  have hfaultless' := hfaultless.congr hsteps
  cases h with
  | fault hf => exact absurd hfaultless hf.not_faultless
  | missingAccept _ hp => exact .missingAccept hfaultless' fun p hmem => hp p ((hsteps _).mpr hmem)
  | capacityOverflow _ hp hroom =>
    exact .capacityOverflow hfaultless' ((hsteps _).mp hp) fun h =>
      hroom (h.congr fun step => (hsteps step).symm)
  | ok _ hroom ha => exact .ok hfaultless' (hroom.congr hsteps) (ha.congr hsteps)

/-- A sequence has exactly one outcome: its first fault, or without a fault the lack of an accept state, the
automaton that the steps stand for, or, if a state is too high, the lack of room. What is built is never
found invalid, and it is the same for all sequences of the same steps. -/
theorem build_eq_iff (steps : List Step) :
    (∀ outcome, build steps = outcome ↔ BuildOutcome steps outcome) ∧
      (∀ v, build steps ≠ .error (.error (.invalid v))) ∧
      ∀ steps', Step.Faultless steps → (∀ step, step ∈ steps ↔ step ∈ steps') →
        build steps' = build steps := by
  have hbuild := buildOutcome_build steps
  refine ⟨fun outcome => ⟨fun h => h ▸ hbuild, BuildOutcome.build_eq⟩, fun v hinvalid => ?_, ?_⟩
  · rw [hinvalid] at hbuild
    cases hbuild with
    | fault hf =>
      obtain ⟨earlier, step, -, -, hfault⟩ := hf
      cases hfault with
      | refused hrefused => cases hrefused
  · exact fun steps' h hsteps => (hbuild.congr h hsteps).build_eq

/-- An accept state alone, without a fault, may be too high for a table. -/
theorem build_eq_capacityOverflow_accept :
    Step.Faultless [.accept 9223372036854775807] ∧
      build [.accept 9223372036854775807] = .error (.fault .capacityOverflow) := by
  constructor
  · rw [Step.faultless_iff]
    simp [Step.symbol?, Step.states, stateLimit]
  · rfl

/-- A step may be at fault in two ways; its error is reported, and a later step is not looked at. -/
example : build [.accept 1, .move "" 0 (stateLimit - 1), .accept 2] = .error (.error .epsilonSymbol) := rfl

end Automaton

end

end Automata
