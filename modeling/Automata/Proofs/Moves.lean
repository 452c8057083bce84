import Automata.Proofs.Tables
import Mathlib.Computability.Language
import Mathlib.Logic.Relation
import Mathlib.Order.CompletePartialOrder

/-!
# Moves and languages

A configuration is a state and the text that is left. `languageFrom_le` is the rule by which languages are
bounded from above.
-/

namespace Automata

structure Config where
  state : Nat
  rest : List Char
  deriving DecidableEq, Repr

namespace Automaton

theorem mem_targets_iff {a : Automaton} {s d : Nat} {y : Symbol} :
    d ∈ a.targets s y ↔ a.table.Leads s y d := by
  unfold targets targets? Table.Leads Row.Leads
  cases a.table[s]? with
  | none => simp
  | some row => simp [TargetSet.mem_states]

theorem table_sound (a : Automaton) : a.table.Sound a.alphabet a.size :=
  (Table.wellFormed_iff.mp a.wellFormed).2

theorem symbol_of_mem_targets {a : Automaton} {s d : Nat} {y : Symbol} (h : d ∈ a.targets s y) :
    y = Symbol.epsilon ∨ y ∈ a.alphabet :=
  (a.table_sound.of_leads (mem_targets_iff.mp h)).1

theorem source_lt_of_mem_targets {a : Automaton} {s d : Nat} {y : Symbol} (h : d ∈ a.targets s y) :
    s < a.size :=
  (mem_targets_iff.mp h).lt

theorem target_lt_of_mem_targets {a : Automaton} {s d : Nat} {y : Symbol} (h : d ∈ a.targets s y) :
    d < a.size :=
  (a.table_sound.of_leads (mem_targets_iff.mp h)).2

theorem ascending_targets (a : Automaton) (s : Nat) (y : Symbol) : (a.targets s y).Pairwise (· < ·) := by
  unfold targets targets?
  cases a.table[s]? with
  | none => exact .nil
  | some row => exact (row.targets y).ascending_states

inductive Move (a : Automaton) : Config → Config → Prop
  | epsilon {s d : Nat} {text : List Char} :
      d ∈ a.targets s Symbol.epsilon → Move a ⟨s, text⟩ ⟨d, text⟩
  | symbol {s d : Nat} {y : Symbol} {rest : List Char} :
      y ∈ a.alphabet → y ≠ Symbol.epsilon → d ∈ a.targets s y →
      Move a ⟨s, y.toList ++ rest⟩ ⟨d, rest⟩

abbrev Reaches (a : Automaton) : Config → Config → Prop := Relation.ReflTransGen a.Move

section
variable {a : Automaton}

/-- Both kinds of move at once: every target under a symbol, the empty one included, is a move that drops
the symbol. -/
theorem move_iff {s d : Nat} {text rest : List Char} :
    a.Move ⟨s, text⟩ ⟨d, rest⟩ ↔ ∃ y : Symbol, d ∈ a.targets s y ∧ text = y.toList ++ rest := by
  constructor
  · intro h
    cases h with
    | epsilon hd => exact ⟨_, hd, by simp [Symbol.epsilon]⟩
    | symbol _ _ hd => exact ⟨_, hd, rfl⟩
  · rintro ⟨y, hd, rfl⟩
    by_cases hy : y = Symbol.epsilon
    · subst hy
      exact .epsilon hd
    · exact .symbol ((symbol_of_mem_targets hd).resolve_left hy) hy hd

end

-- ---------------------------------------------------------------------------
-- Languages
-- ---------------------------------------------------------------------------

def languageFrom (a : Automaton) (s : Nat) : Language Char :=
  {text | a.Reaches ⟨s, text⟩ ⟨a.accept, []⟩}

def language (a : Automaton) : Language Char := a.languageFrom 0

section
variable {a : Automaton}

theorem mem_languageFrom {s : Nat} {text : List Char} :
    text ∈ a.languageFrom s ↔ a.Reaches ⟨s, text⟩ ⟨a.accept, []⟩ := Iff.rfl

theorem nil_mem_languageFrom_accept : [] ∈ a.languageFrom a.accept := Relation.ReflTransGen.refl

theorem one_le_languageFrom_accept : 1 ≤ a.languageFrom a.accept := by
  intro text htext
  obtain rfl := (Language.mem_one text).mp htext
  exact nil_mem_languageFrom_accept

theorem append_mem_languageFrom {s d : Nat} {y : Symbol} {rest : List Char} (hd : d ∈ a.targets s y)
    (h : rest ∈ a.languageFrom d) : y.toList ++ rest ∈ a.languageFrom s :=
  .head (move_iff.mpr ⟨y, hd, rfl⟩) h

theorem languageFrom_le_of_epsilon {s d : Nat} (hd : d ∈ a.targets s Symbol.epsilon) :
    a.languageFrom d ≤ a.languageFrom s :=
  fun _ h => append_mem_languageFrom hd h

theorem languageFrom_le {X : Nat → Language Char} (accept : [] ∈ X a.accept)
    (move : ∀ s y, ∀ d ∈ a.targets s y, ∀ rest ∈ X d, y.toList ++ rest ∈ X s) (s : Nat) :
    a.languageFrom s ≤ X s := by
  intro text h
  suffices closed : ∀ k : Config, a.Reaches k ⟨a.accept, []⟩ → k.rest ∈ X k.state from
    closed ⟨s, text⟩ h
  intro k hk
  induction hk using Relation.ReflTransGen.head_induction_on with
  | refl => exact accept
  | @head k k' hmove _ ih =>
    obtain ⟨y, hd, hrest⟩ := move_iff.mp hmove
    rw [hrest]
    exact move _ y _ hd _ ih

theorem mem_languageFrom_iff {s : Nat} {text : List Char} :
    text ∈ a.languageFrom s ↔ (s = a.accept ∧ text = []) ∨
      ∃ y, ∃ d ∈ a.targets s y, ∃ rest ∈ a.languageFrom d, text = y.toList ++ rest := by
  constructor
  · intro h
    rcases Relation.ReflTransGen.cases_head h with heq | ⟨⟨d, rest⟩, hmove, hrest⟩
    · cases heq
      exact .inl ⟨rfl, rfl⟩
    · obtain ⟨y, hd, htext⟩ := move_iff.mp hmove
      exact .inr ⟨y, d, hd, rest, hrest, htext⟩
  · rintro (⟨rfl, rfl⟩ | ⟨y, d, hd, rest, hrest, rfl⟩)
    · exact nil_mem_languageFrom_accept
    · exact append_mem_languageFrom hd hrest

theorem language_of_table_eq_empty (h : a.table = #[]) : a.language = 1 := by
  have haccept : a.accept = 0 := by
    have := a.wellFormed.accept_ok
    simp_all [AcceptOk]
  apply le_antisymm
  · refine languageFrom_le (X := fun _ => 1) ?_ ?_ 0
    · exact Language.nil_mem_one
    · intro s y d hd
      exact absurd (source_lt_of_mem_targets hd) (by simp [size, h])
  · have := a.one_le_languageFrom_accept
    rwa [haccept] at this

end

end Automaton

end Automata
