import Automata.Proofs.Evaluation
import Automata.Proofs.Languages

/-!
# Regular expressions

The language of a regular expression takes a symbol as one word, whatever other symbols it begins with. The
value represents the expression (`Automaton.Represents`); only an empty symbol can go wrong
(`Regular.value_eq_error`).
-/

namespace Automata

open scoped Computability

inductive Regular
  | symbol (y : Symbol)
  | epsilon
  | concat (x y : Regular)
  | disjunction (x y : Regular)
  | repetition (x : Regular)

namespace Regular

def toExpr : Regular → Expr
  | .symbol y => .symbol y
  | .epsilon => .epsilon
  | .concat x y => .concat x.toExpr y.toExpr
  | .disjunction x y => .disjunction x.toExpr y.toExpr
  | .repetition x => .repetition x.toExpr

def language : Regular → Language Char
  | .symbol y => {y.toList}
  | .epsilon => 1
  | .concat x y => x.language * y.language
  | .disjunction x y => x.language + y.language
  | .repetition x => x.language∗

/-- Two states for a symbol, one for epsilon, two more for a disjunction, one more for a repetition. -/
def states : Regular → Nat
  | .symbol _ => 2
  | .epsilon => 1
  | .concat x y => x.states + y.states
  | .disjunction x y => x.states + y.states + 2
  | .repetition x => x.states + 1

def symbols : Regular → List Symbol
  | .symbol y => [y]
  | .epsilon => []
  | .concat x y | .disjunction x y => x.symbols ++ y.symbols
  | .repetition x => x.symbols

theorem states_pos (t : Regular) : 0 < t.states := by
  induction t <;> simp only [states] <;> omega

end Regular

namespace Automaton

structure Represents (a : Automaton) (t : Regular) : Prop where
  language : a.language = t.language
  size : a.size = t.states
  symbol : ∀ y, y ≠ Symbol.epsilon → (y ∈ a.alphabet ↔ y ∈ t.symbols)

section
variable {a b : Automaton} {t u : Regular} {y : Symbol}

theorem Represents.footprint (h : a.Represents t) : a.footprint = t.states := by
  have := t.states_pos
  rw [Automaton.footprint, h.size]
  omega

-- ---------------------------------------------------------------------------
-- Leaves
-- ---------------------------------------------------------------------------

def symbolSteps (y : Symbol) : List Step := [.accept 1, .move y 0 1, .sinkMove y 1]

theorem mem_targets_of_symbolSteps (h : a.BuiltFrom (symbolSteps y)) {s d : Nat} {z : Symbol} :
    d ∈ a.targets s z ↔ s = 0 ∧ z = y ∧ d = 1 := by
  rw [mem_targets_iff, h.leads_iff]
  simp [symbolSteps, Step.transition?, eq_comm]

theorem size_of_symbolSteps (h : a.BuiltFrom (symbolSteps y)) : a.size = 2 := by
  have hlt : 1 < a.size := h.state_lt (.accept 1) (by simp [symbolSteps]) 1 (by simp [Step.states])
  obtain ⟨step, hstep, s, hs, hsize⟩ := h.size
  have hle : ∀ step ∈ symbolSteps y, ∀ s ∈ step.states, s ≤ 1 := by simp [symbolSteps, Step.states]
  have := hle step hstep s hs
  omega

theorem language_of_symbolSteps (h : a.BuiltFrom (symbolSteps y)) (haccept : a.accept = 1) :
    a.language = {y.toList} := by
  have hend : a.languageFrom 1 = 1 := by
    ext text
    rw [mem_languageFrom_iff]
    simp [haccept, mem_targets_of_symbolSteps h]
  ext text
  have hstart : 0 ≠ a.accept := by omega
  have hword : text ∈ ({y.toList} : Language Char) ↔ text = y.toList := Iff.rfl
  rw [language, mem_languageFrom_iff, hword]
  simp [hstart, mem_targets_of_symbolSteps h, hend]

theorem exists_symbol_represents (hy : y ≠ Symbol.epsilon) :
    ∃ a, Automaton.symbol y = .ok a ∧ a.Represents (.symbol y) := by
  have hbuild : ∃ a, build (symbolSteps y) = .ok a ∧ a.accept = 1 ∧ a.BuiltFrom (symbolSteps y) :=
    exists_builtFrom (by simp [symbolSteps]) (by simp [symbolSteps, Step.symbol?, hy])
      (by simp [symbolSteps, Step.HaveRoom, Step.states, rowLimit])
  obtain ⟨a, ha, haccept, hsteps⟩ := hbuild
  refine ⟨a, ha, language_of_symbolSteps hsteps haccept, size_of_symbolSteps hsteps, fun z _ => ?_⟩
  rw [hsteps.symbol]
  simp [symbolSteps, Step.symbol?, Regular.symbols, eq_comm]

theorem symbol_epsilon : Automaton.symbol Symbol.epsilon = .error (.error .epsilonSymbol) := rfl

theorem epsilon_represents : epsilon.Represents .epsilon where
  language := by
    have htargets : ∀ s y, epsilon.targets s y = [] := by
      intro s y
      rw [List.eq_nil_iff_forall_not_mem]
      intro d hd
      rw [mem_targets_iff, epsilon, Table.leads_singleton] at hd
      exact Row.not_leads_sinkOnly hd.2
    have haccept : 0 = epsilon.accept := rfl
    ext text
    rw [language, mem_languageFrom_iff]
    simp [htargets, haccept, Regular.language]
  size := rfl
  symbol y hy := by simp [epsilon, Regular.symbols, Ne.symm hy]

-- ---------------------------------------------------------------------------
-- Combinators
-- ---------------------------------------------------------------------------

theorem Represents.concat (ha : a.Represents t) (hb : b.Represents u)
    (h : (t.concat u).states < stateLimit) : ∃ c, a.concat b = .ok c ∧ c.Represents (t.concat u) := by
  rw [Regular.states, ← ha.footprint, ← hb.footprint] at h
  obtain ⟨c, hc, halphabet, htable, haccept⟩ := concat_eq_ok h
  refine ⟨c, hc, ?_, ?_, fun y hy => ?_⟩
  · rw [language_concatTable htable haccept, ha.language, hb.language, Regular.language]
  · rw [size_of_concatTable htable, ha.footprint, hb.footprint, Regular.states]
  · simp [halphabet, mem_mergedAlphabet, hy, ha.symbol y hy, hb.symbol y hy, Regular.symbols]

theorem Represents.disjunction (ha : a.Represents t) (hb : b.Represents u)
    (h : (t.disjunction u).states < stateLimit) :
    ∃ c, a.disjunction b = .ok c ∧ c.Represents (t.disjunction u) := by
  rw [Regular.states, ← ha.footprint, ← hb.footprint] at h
  obtain ⟨c, hc, halphabet, htable, haccept⟩ := disjunction_eq_ok h
  refine ⟨c, hc, ?_, ?_, fun y hy => ?_⟩
  · rw [language_disjunctionTable htable haccept, ha.language, hb.language, Regular.language]
  · rw [size_of_disjunctionTable htable, ha.footprint, hb.footprint, Regular.states]
  · simp [halphabet, mem_mergedAlphabet, hy, ha.symbol y hy, hb.symbol y hy, Regular.symbols]

theorem Represents.repetition (ha : a.Represents t) (h : t.repetition.states < stateLimit) :
    ∃ c, a.repetition = .ok c ∧ c.Represents t.repetition := by
  rw [Regular.states, ← ha.footprint] at h
  obtain ⟨c, hc, halphabet, htable, haccept⟩ := repetition_eq_ok h
  refine ⟨c, hc, ?_, ?_, fun y hy => ?_⟩
  · rw [language_repetitionTable htable haccept, ha.language, Regular.language]
  · rw [size_of_repetitionTable htable, ha.footprint, Regular.states]
  · simp [halphabet, mem_mergedAlphabet, hy, ha.symbol y hy, Regular.symbols]

end

end Automaton

namespace Regular

section
variable {names : String → Option Automaton}

-- ---------------------------------------------------------------------------
-- Whole expressions
-- ---------------------------------------------------------------------------

theorem exists_represents (t : Regular) (h : t.states < stateLimit)
    (hsymbols : Symbol.epsilon ∉ t.symbols) :
    ∃ a, t.toExpr.value names = .ok a ∧ a.Represents t := by
  induction t with
  | symbol y =>
    have hy : y ≠ Symbol.epsilon := fun heq => hsymbols (heq ▸ List.mem_cons_self)
    obtain ⟨a, ha, hrep⟩ := Automaton.exists_symbol_represents hy
    refine ⟨a, ?_, hrep⟩
    rw [toExpr, Expr.value_symbol, ha]
    rfl
  | epsilon => exact ⟨_, rfl, Automaton.epsilon_represents⟩
  | concat x y hx hy =>
    simp only [states] at h
    rw [symbols, List.mem_append, not_or] at hsymbols
    obtain ⟨a, ha, hrepA⟩ := hx (by omega) hsymbols.1
    obtain ⟨b, hb, hrepB⟩ := hy (by omega) hsymbols.2
    obtain ⟨c, hc, hrep⟩ := hrepA.concat hrepB h
    refine ⟨c, ?_, hrep⟩
    rw [toExpr, Expr.value_concat, ha, hb, ok_bind, ok_bind, hc]
    rfl
  | disjunction x y hx hy =>
    simp only [states] at h
    rw [symbols, List.mem_append, not_or] at hsymbols
    obtain ⟨a, ha, hrepA⟩ := hx (by omega) hsymbols.1
    obtain ⟨b, hb, hrepB⟩ := hy (by omega) hsymbols.2
    obtain ⟨c, hc, hrep⟩ := hrepA.disjunction hrepB h
    refine ⟨c, ?_, hrep⟩
    rw [toExpr, Expr.value_disjunction, ha, hb, ok_bind, ok_bind, hc]
    rfl
  | repetition x hx =>
    simp only [states] at h
    obtain ⟨a, ha, hrepA⟩ := hx (by omega) hsymbols
    obtain ⟨c, hc, hrep⟩ := hrepA.repetition h
    refine ⟨c, ?_, hrep⟩
    rw [toExpr, Expr.value_repetition, ha, ok_bind, hc]
    rfl

/-- The first operand with an empty symbol decides; the one before it has a value. -/
theorem operands_eq_error {x y : Regular} {failure : Failure EvalError} (h : x.states < stateLimit)
    (hx : Symbol.epsilon ∈ x.symbols → x.toExpr.value names = .error failure)
    (hy : Symbol.epsilon ∈ y.symbols → y.toExpr.value names = .error failure)
    (hsymbols : Symbol.epsilon ∈ x.symbols ++ y.symbols)
    (k : Automaton → Automaton → Except (Failure EvalError) Automaton) :
    (do
      let a ← x.toExpr.value names
      let b ← y.toExpr.value names
      k a b) = .error failure := by
  by_cases hleft : Symbol.epsilon ∈ x.symbols
  · rw [hx hleft]
    rfl
  · obtain ⟨a, ha, -⟩ := @exists_represents names x h hleft
    rw [ha, ok_bind, hy ((List.mem_append.mp hsymbols).resolve_left hleft)]
    rfl

theorem value_eq_error (t : Regular) (h : t.states < stateLimit)
    (hsymbols : Symbol.epsilon ∈ t.symbols) :
    t.toExpr.value names = .error (.error (.build .epsilonSymbol)) := by
  induction t with
  | symbol y =>
    obtain rfl := List.mem_singleton.mp hsymbols
    rw [toExpr, Expr.value_symbol, Automaton.symbol_epsilon]
    rfl
  | epsilon => simp [symbols] at hsymbols
  | concat x y hx hy =>
    simp only [states] at h
    rw [toExpr, Expr.value_concat]
    exact operands_eq_error (by omega) (hx (by omega)) (hy (by omega)) hsymbols _
  | disjunction x y hx hy =>
    simp only [states] at h
    rw [toExpr, Expr.value_disjunction]
    exact operands_eq_error (by omega) (hx (by omega)) (hy (by omega)) hsymbols _
  | repetition x hx =>
    simp only [states] at h
    rw [toExpr, Expr.value_repetition, hx (by omega) hsymbols]
    rfl

/-- A regular expression has a value exactly if it has no empty symbol. The value accepts the texts of its
language, has its number of states, and has its symbols besides epsilon. -/
theorem value_represents (names : String → Option Automaton) (t : Regular) (h : t.states < stateLimit) :
    ((∃ a, t.toExpr.value names = .ok a) ↔ Symbol.epsilon ∉ t.symbols) ∧
      (Symbol.epsilon ∈ t.symbols →
        t.toExpr.value names = .error (.error (.build .epsilonSymbol))) ∧
      ∀ a, t.toExpr.value names = .ok a →
        (∀ w : String, a.accepts w = true ↔ w.toList ∈ t.language) ∧ a.size = t.states ∧
        ∀ y, y ∈ a.alphabet ∧ y ≠ Symbol.epsilon ↔ y ∈ t.symbols := by
  by_cases hsymbols : Symbol.epsilon ∈ t.symbols
  · have hvalue := @value_eq_error names t h hsymbols
    simp [hvalue, hsymbols]
  · obtain ⟨a, ha, hrep⟩ := @exists_represents names t h hsymbols
    refine ⟨iff_of_true ⟨a, ha⟩ hsymbols, fun hmem => absurd hmem hsymbols, fun a' ha' => ?_⟩
    obtain rfl : a = a' := Except.ok.inj (ha.symm.trans ha')
    refine ⟨fun w => ?_, hrep.size, fun y => ?_⟩
    · rw [Automaton.accepts_iff_mem, hrep.language]
    · constructor
      · rintro ⟨hy, hne⟩
        exact (hrep.symbol y hne).mp hy
      · intro hy
        have hne : y ≠ Symbol.epsilon := fun heq => hsymbols (heq ▸ hy)
        exact ⟨(hrep.symbol y hne).mpr hy, hne⟩

/-- Here one symbol is a digraph of the two others. -/
theorem value_represents_digraph :
    let names : String → Option Automaton := fun _ => none
    let t := Regular.repetition
      (.disjunction (.concat (.symbol "c") (.symbol "h")) (.disjunction (.symbol "ch") .epsilon))
    t.states < stateLimit ∧ ∃ a, t.toExpr.value names = .ok a ∧
      (∀ w : String, a.accepts w = true ↔ w.toList ∈ t.language) ∧ a.size = 12 ∧
      ∀ y, y ∈ a.alphabet ∧ y ≠ Symbol.epsilon ↔ y ∈ ["c", "h", "ch"] := by
  intro names t
  have h : t.states < stateLimit := by decide
  obtain ⟨hvalue, -, hlanguage⟩ := value_represents names t h
  obtain ⟨a, ha⟩ := hvalue.mpr (by decide)
  exact ⟨h, a, ha, hlanguage a ha⟩

end

end Regular

end Automata
