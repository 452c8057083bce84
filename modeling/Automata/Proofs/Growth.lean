import Automata.Proofs.Exploration
import Automata.Proofs.Sequences

/-!
# More steps, more texts

With more transitions the search may go another way. That does not matter, as it decides the language
(`Extends.language_le`).
-/

namespace Automata

namespace Automaton

/-- `b` has all transitions of `a` to states, and its accept state. -/
structure Extends (b a : Automaton) : Prop where
  accept : b.accept = a.accept
  leads : ∀ s y d, a.table.Leads s y d → b.table.Leads s y d

section
variable {a b : Automaton} {steps steps' : List Step}

theorem Extends.language_le (h : b.Extends a) : a.language ≤ b.language := by
  refine languageFrom_le (X := b.languageFrom) ?_ ?_ 0
  · rw [← h.accept]
    exact nil_mem_languageFrom_accept
  · intro s y d hd rest hrest
    have hd : d ∈ b.targets s y := mem_targets_iff.mpr (h.leads s y d (mem_targets_iff.mp hd))
    exact append_mem_languageFrom hd hrest

theorem BuiltFrom.extends_of_mem (ha : a.BuiltFrom steps) (hb : b.BuiltFrom steps')
    (hsteps : Step.Faultless steps') (h : ∀ step ∈ steps, step ∈ steps') : b.Extends a where
  accept := (Step.faultless_iff.mp hsteps).2.1 _ _ hb.accept (h _ ha.accept)
  leads s y d hd := by
    obtain ⟨step, hstep, htransition⟩ := ha.leads_iff.mp hd
    exact hb.leads_iff.mpr ⟨step, h step hstep, htransition⟩

/-- Further steps take no text away. -/
theorem accepts_of_more_steps (ha : build steps = .ok a) (hb : build steps' = .ok b)
    (h : ∀ step ∈ steps, step ∈ steps') (text : String) (htext : a.accepts text = true) :
    b.accepts text = true := by
  obtain ⟨-, hbuilt⟩ := builtFrom_of_build ha
  obtain ⟨hfaultless, hbuilt'⟩ := builtFrom_of_build hb
  have hextends := hbuilt.extends_of_mem hbuilt' hfaultless h
  rw [accepts_iff_mem] at htext ⊢
  exact hextends.language_le htext

/-- Here the further steps stand in front and in between. They lead from the start to itself, let a longer
symbol begin with the letter and send the letter to the sink as well. -/
theorem accepts_of_more_steps_between :
    ∃ a b, build [.accept 1, .move "a" 0 1] = .ok a ∧
      build [.epsilonMove 0 0, .move "ab" 0 2, .move "a" 0 1, .sinkMove "a" 0, .epsilonMove 0 2, .accept 1] =
        .ok b ∧ a.accepts "a" = true ∧ b.accepts "a" = true := by
  obtain ⟨a, ha⟩ : ∃ a, build [.accept 1, .move "a" 0 1] = .ok a := ⟨_, rfl⟩
  obtain ⟨b, hb⟩ : ∃ b, build [.epsilonMove 0 0, .move "ab" 0 2, .move "a" 0 1, .sinkMove "a" 0,
    .epsilonMove 0 2, .accept 1] = .ok b := ⟨_, rfl⟩
  have htable : a.table ≠ #[] := by cases ha; exact nofun
  have haccept : a.accept = 1 := by cases ha; rfl
  have hsymbols : a.alphabet.toList = ["a"] := by cases ha; rfl
  have htargets : a.targets 0 "" = [] ∧ a.targets 0 "a" = [1] := by cases ha; exact ⟨rfl, rfl⟩
  have haccepted : a.accepts "a" = true := by
    simp [accepts, search, explore, tasks, symbolTasks, Symbol.after?, Symbol.dropLetters?,
      Symbol.epsilon, htable, haccept, hsymbols, htargets]
  exact ⟨a, b, ha, hb, haccepted, accepts_of_more_steps ha hb (by simp) "a" haccepted⟩

end

end Automaton

end Automata
