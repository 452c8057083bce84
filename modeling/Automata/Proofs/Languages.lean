import Automata.Proofs.Assembly
import Automata.Proofs.Exploration

/-!
# The languages of the combinators

A combinator keeps its operands as blocks of rows. `Holds c a offset exits` says that `c` moves there as `a`
does, and in addition from the accept state of `a` to the exits. What can be read from inside a block is then
what `a` reads up to its accept state and what can be read from an exit behind it.
-/

namespace Automata

namespace Automaton

open scoped Computability

def Holds (c a : Automaton) (offset : Nat) (exits : List Nat) : Prop :=
  ∀ i < a.footprint, ∀ (y : Symbol) (d : Nat), d ∈ c.targets (offset + i) y ↔
    (∃ t ∈ a.targets i y, d = offset + t) ∨ (y = Symbol.epsilon ∧ i = a.accept ∧ d ∈ exits)

section
variable {a b c : Automaton} {offset : Nat} {exits : List Nat}

theorem Holds.exit_mem_targets (h : c.Holds a offset exits) {d : Nat} (hd : d ∈ exits) :
    d ∈ c.targets (offset + a.accept) Symbol.epsilon :=
  (h _ a.accept_lt_footprint _ _).mpr (.inr ⟨rfl, rfl, hd⟩)

theorem Holds.mul_le (h : c.Holds a offset exits) {Y : Language Char}
    (hY : Y ≤ c.languageFrom (offset + a.accept)) (i : Nat) :
    a.languageFrom i * Y ≤ c.languageFrom (offset + i) := by
  let X : Nat → Language Char := fun i => {u | ∀ v ∈ Y, u ++ v ∈ c.languageFrom (offset + i)}
  have hX : a.languageFrom i ≤ X i := by
    refine languageFrom_le (X := X) ?_ ?_ i
    · exact fun v hv => hY hv
    · intro s y d hd rest hrest v hv
      have hs : s < a.footprint :=
        Nat.lt_of_lt_of_le (source_lt_of_mem_targets hd) (Nat.le_max_left ..)
      have hmove : offset + d ∈ c.targets (offset + s) y := (h s hs y _).mpr (.inl ⟨d, hd, rfl⟩)
      rw [List.append_assoc]
      exact append_mem_languageFrom hmove (hrest v hv)
  intro text htext
  obtain ⟨u, hu, v, hv, rfl⟩ := Language.mem_mul.mp htext
  exact hX hu v hv

/-- One move from inside a block, read backwards: when what follows the move is a text of the product if
the move stays inside, and a text of the second factor if it leaves, then the whole is a text of the
product. -/
theorem Holds.step (h : c.Holds a offset exits) {Y : Language Char} {i d : Nat} {y : Symbol}
    (hi : i < a.footprint) (hd : d ∈ c.targets (offset + i) y) {rest : List Char}
    (inside : ∀ t < a.footprint, d = offset + t → rest ∈ a.languageFrom t * Y)
    (outside : d ∈ exits → rest ∈ Y) : y.toList ++ rest ∈ a.languageFrom i * Y := by
  rcases (h i hi y d).mp hd with ⟨t, ht, rfl⟩ | ⟨rfl, rfl, hexit⟩
  · have htlt : t < a.footprint :=
      Nat.lt_of_lt_of_le (target_lt_of_mem_targets ht) (Nat.le_max_left ..)
    obtain ⟨u, hu, v, hv, rfl⟩ := Language.mem_mul.mp (inside t htlt rfl)
    rw [← List.append_assoc]
    exact Language.append_mem_mul (append_mem_languageFrom ht hu) hv
  · exact Language.append_mem_mul nil_mem_languageFrom_accept (outside hexit)

theorem Holds.le_mul (h : c.Holds a offset exits) {Y : Language Char}
    (accept : ∀ i < a.footprint, c.accept = offset + i → [] ∈ a.languageFrom i * Y)
    (exit : ∀ d ∈ exits, c.languageFrom d ≤ Y) {i : Nat} (hi : i < a.footprint) :
    c.languageFrom (offset + i) ≤ a.languageFrom i * Y := by
  intro text htext
  suffices inside : ∀ k : Config, c.Reaches k ⟨c.accept, []⟩ →
      ∀ i < a.footprint, k.state = offset + i → k.rest ∈ a.languageFrom i * Y from
    inside ⟨offset + i, text⟩ htext i hi rfl
  intro k hk
  induction hk using Relation.ReflTransGen.head_induction_on with
  | refl => exact accept
  | @head k k' hmove htail ih =>
    intro i hi hstate
    obtain ⟨y, hd, hrest⟩ := move_iff.mp hmove
    rw [hstate] at hd
    rw [hrest]
    exact h.step hi hd ih fun hexit => exit _ hexit htail

theorem Holds.languageFrom_eq {e : Nat} (h : c.Holds a offset [e])
    (accept : ∀ i < a.footprint, c.accept ≠ offset + i) {i : Nat} (hi : i < a.footprint) :
    c.languageFrom (offset + i) = a.languageFrom i * c.languageFrom e := by
  apply le_antisymm
  · refine h.le_mul (fun i hi heq => absurd heq (accept i hi)) ?_ hi
    intro d hd
    rw [List.mem_singleton.mp hd]
  · exact h.mul_le (languageFrom_le_of_epsilon (h.exit_mem_targets List.mem_cons_self)) i

theorem Holds.languageFrom_eq_of_accept (h : c.Holds a offset []) (accept : c.accept = offset + a.accept)
    {i : Nat} (hi : i < a.footprint) : c.languageFrom (offset + i) = a.languageFrom i := by
  have haccept : 1 ≤ c.languageFrom (offset + a.accept) := by
    rw [← accept]
    exact one_le_languageFrom_accept
  rw [← mul_one (a.languageFrom i)]
  apply le_antisymm
  · refine h.le_mul ?_ (by simp) hi
    intro i _ heq
    obtain rfl : a.accept = i := Nat.add_left_cancel (accept.symm.trans heq)
    rw [mul_one]
    exact nil_mem_languageFrom_accept
  · exact h.mul_le haccept i

-- ---------------------------------------------------------------------------
-- Concatenation
-- ---------------------------------------------------------------------------

theorem holds_left_of_concatTable (h : c.table = concatTable a b) : c.Holds a 0 [a.footprint] := by
  intro i hi y d
  have hright : ∀ j, i ≠ a.footprint + j := fun j => by omega
  simp [mem_targets_iff, h, leads_concatTable, concatLinks, hright]

theorem holds_right_of_concatTable (h : c.table = concatTable a b) : c.Holds b a.footprint [] := by
  intro i _ y d
  have haccept : a.footprint + i ≠ a.accept := by
    have := a.accept_lt_footprint
    omega
  have hleft : ¬a.table.Leads (a.footprint + i) y d := fun h => by
    have := h.lt
    simp only [footprint, size] at this
    omega
  simp [mem_targets_iff, h, leads_concatTable, concatLinks, haccept, hleft]

theorem language_concatTable (htable : c.table = concatTable a b)
    (haccept : c.accept = a.footprint + b.accept) :
    c.language = a.language * b.language := by
  have hleft : c.languageFrom (0 + 0) = a.language * c.languageFrom a.footprint :=
    (holds_left_of_concatTable htable).languageFrom_eq (fun i hi => by omega) a.footprint_pos
  have hright : c.languageFrom (a.footprint + 0) = b.language :=
    (holds_right_of_concatTable htable).languageFrom_eq_of_accept haccept b.footprint_pos
  rw [← hright]
  exact hleft

-- ---------------------------------------------------------------------------
-- Disjunction
-- ---------------------------------------------------------------------------

theorem holds_left_of_disjunctionTable (h : c.table = disjunctionTable a b) :
    c.Holds a 1 [1 + a.footprint + b.footprint] := by
  intro i hi y d
  have hright : ∀ j, 1 + i ≠ 1 + a.footprint + j := fun j => by omega
  simp [mem_targets_iff, h, leads_disjunctionTable, disjunctionLinks, hright]

theorem holds_right_of_disjunctionTable (h : c.table = disjunctionTable a b) :
    c.Holds b (1 + a.footprint) [1 + a.footprint + b.footprint] := by
  intro j _ y d
  have hleft : ¬∃ i, 1 + a.footprint + j = 1 + i ∧ ∃ t, a.table.Leads i y t ∧ d = 1 + t := by
    rintro ⟨i, heq, t, ht, -⟩
    have := source_lt_footprint ht
    omega
  have haccept : 1 + a.footprint + j ≠ 1 + a.accept := by
    have := a.accept_lt_footprint
    omega
  rw [mem_targets_iff, h, leads_disjunctionTable, or_iff_right hleft]
  simp [mem_targets_iff, disjunctionLinks, haccept]

theorem mem_targets_zero_of_disjunctionTable (h : c.table = disjunctionTable a b) {y : Symbol} {d : Nat} :
    d ∈ c.targets 0 y ↔ y = Symbol.epsilon ∧ (d = 1 ∨ d = 1 + a.footprint) := by
  have hleft : ∀ i, 0 ≠ 1 + i := fun i => by omega
  have hright : ∀ j, 0 ≠ 1 + a.footprint + j := fun j => by omega
  simp [mem_targets_iff, h, leads_disjunctionTable, disjunctionLinks, hleft, hright]

theorem targets_accept_of_disjunctionTable (h : c.table = disjunctionTable a b) {y : Symbol} :
    c.targets (1 + a.footprint + b.footprint) y = [] := by
  rw [List.eq_nil_iff_forall_not_mem]
  intro d hd
  have hacceptA := a.accept_lt_footprint
  have hacceptB := b.accept_lt_footprint
  rw [mem_targets_iff, h, leads_disjunctionTable] at hd
  rcases hd with (⟨i, heq, t, ht, -⟩ | ⟨j, heq, t, ht, -⟩) | ⟨-, hlink⟩
  · have := source_lt_footprint ht
    omega
  · have := source_lt_footprint ht
    omega
  · simp [disjunctionLinks] at hlink
    omega

theorem language_disjunctionTable (htable : c.table = disjunctionTable a b)
    (haccept : c.accept = 1 + a.footprint + b.footprint) :
    c.language = a.language + b.language := by
  have hend : c.languageFrom (1 + a.footprint + b.footprint) = 1 := by
    ext text
    rw [mem_languageFrom_iff]
    simp [haccept, targets_accept_of_disjunctionTable htable]
  have hleft : c.languageFrom (1 + 0) = a.language := by
    rw [(holds_left_of_disjunctionTable htable).languageFrom_eq (fun i hi => by omega) a.footprint_pos,
      hend, mul_one, language]
  have hright : c.languageFrom (1 + a.footprint + 0) = b.language := by
    rw [(holds_right_of_disjunctionTable htable).languageFrom_eq (fun i hi => by omega)
      b.footprint_pos, hend, mul_one, language]
  rw [← hleft, ← hright]
  ext text
  have hstart : 0 ≠ c.accept := by omega
  rw [language, mem_languageFrom_iff, Language.mem_add]
  simp [hstart, mem_targets_zero_of_disjunctionTable htable, Symbol.epsilon]

-- ---------------------------------------------------------------------------
-- Repetition
-- ---------------------------------------------------------------------------

theorem holds_of_repetitionTable (h : c.table = repetitionTable a) : c.Holds a 1 [1, 0] := by
  intro i _ y d
  simp [mem_targets_iff, h, leads_repetitionTable, repetitionLinks, and_or_left]

theorem mem_targets_zero_of_repetitionTable (h : c.table = repetitionTable a) {y : Symbol} {d : Nat} :
    d ∈ c.targets 0 y ↔ y = Symbol.epsilon ∧ d = 1 := by
  have hinner : ∀ i, 0 ≠ 1 + i := fun i => by omega
  simp [mem_targets_iff, h, leads_repetitionTable, repetitionLinks, hinner]

/-- From inside the block a run reads the rest of one text of `a` and then any number of texts. -/
theorem language_le_of_repetitionTable (htable : c.table = repetitionTable a) (haccept : c.accept = 0) :
    c.language ≤ a.language∗ := by
  let X : Nat → Language Char := fun s =>
    if s = 0 then a.language∗ else a.languageFrom (s - 1) * a.language∗
  have hzero : X 0 = a.language∗ := if_pos rfl
  have hinner : ∀ i, X (1 + i) = a.languageFrom i * a.language∗ := fun i => by simp [X]
  have hfirst : X 1 ≤ a.language∗ := (hinner 0).trans_le mul_kstar_le_kstar
  rw [← hzero]
  refine languageFrom_le (X := X) ?_ ?_ 0
  · rw [haccept, hzero]
    exact Language.nil_mem_kstar _
  · intro s y d hd rest hrest
    cases s with
    | zero =>
      obtain ⟨rfl, rfl⟩ := (mem_targets_zero_of_repetitionTable htable).mp hd
      rw [hzero]
      exact hfirst hrest
    | succ i =>
      rw [Nat.add_comm] at hd ⊢
      rw [hinner]
      refine (holds_of_repetitionTable htable).step ?_ hd ?_ ?_
      · have := source_lt_of_mem_targets hd
        rw [size, htable, repetitionTable, Table.size_withLinks, size_repetitionRows] at this
        omega
      · intro t _ heq
        rw [← hinner, ← heq]
        exact hrest
      · intro hexit
        rcases List.mem_cons.mp hexit with rfl | hexit
        · exact hfirst hrest
        · obtain rfl := List.mem_singleton.mp hexit
          exact hzero ▸ hrest

theorem kstar_le_of_repetitionTable (htable : c.table = repetitionTable a) (haccept : c.accept = 0) :
    a.language∗ ≤ c.language := by
  have henter : c.languageFrom 1 ≤ c.languageFrom 0 :=
    languageFrom_le_of_epsilon ((mem_targets_zero_of_repetitionTable htable).mpr ⟨rfl, rfl⟩)
  have hback : c.languageFrom 0 ≤ c.languageFrom (1 + a.accept) :=
    languageFrom_le_of_epsilon ((holds_of_repetitionTable htable).exit_mem_targets (by simp))
  apply kstar_le_of_mul_le_right
  · have := c.one_le_languageFrom_accept
    rwa [haccept] at this
  · exact ((holds_of_repetitionTable htable).mul_le hback 0).trans henter

theorem language_repetitionTable (htable : c.table = repetitionTable a) (haccept : c.accept = 0) :
    c.language = a.language∗ :=
  le_antisymm (language_le_of_repetitionTable htable haccept) (kstar_le_of_repetitionTable htable haccept)

-- ---------------------------------------------------------------------------
-- Texts
-- ---------------------------------------------------------------------------

theorem toList_mem_mul_iff {l m : Language Char} {w : String} :
    w.toList ∈ l * m ↔ ∃ u v : String, w = u ++ v ∧ u.toList ∈ l ∧ v.toList ∈ m := by
  rw [Language.mem_mul]
  constructor
  · rintro ⟨u, hu, v, hv, heq⟩
    refine ⟨String.ofList u, String.ofList v, ?_, by simpa using hu, by simpa using hv⟩
    rw [← String.toList_inj, ← heq]
    simp
  · rintro ⟨u, v, rfl, hu, hv⟩
    exact ⟨u.toList, hu, v.toList, hv, String.toList_append.symm⟩

theorem toList_mem_kstar_iff {l : Language Char} {w : String} :
    w.toList ∈ l∗ ↔ ∃ us : List String, w = String.join us ∧ ∀ u ∈ us, u.toList ∈ l := by
  rw [Language.mem_kstar]
  constructor
  · rintro ⟨us, heq, hus⟩
    refine ⟨us.map String.ofList, ?_, ?_⟩
    · rw [← String.toList_inj, heq, String.toList_join, List.flatMap_map]
      simp [List.flatMap_id']
    · intro u hu
      obtain ⟨cs, hcs, rfl⟩ := List.mem_map.mp hu
      simpa using hus cs hcs
  · rintro ⟨us, rfl, hus⟩
    refine ⟨us.map String.toList, String.toList_join.trans (List.flatMap_def ..), ?_⟩
    · intro cs hcs
      obtain ⟨u, hu, rfl⟩ := List.mem_map.mp hcs
      exact hus u hu

end

-- ---------------------------------------------------------------------------
-- Accepted texts
-- ---------------------------------------------------------------------------

theorem accepts_concat (a b : Automaton) (h : a.footprint + b.footprint < stateLimit) :
    ∃ c, a.concat b = .ok c ∧ ∀ w : String, c.accepts w = true ↔
      ∃ u v : String, w = u ++ v ∧ a.accepts u = true ∧ b.accepts v = true := by
  obtain ⟨c, hc, -, htable, haccept⟩ := concat_eq_ok h
  refine ⟨c, hc, fun w => ?_⟩
  simp only [accepts_iff_mem, language_concatTable htable haccept]
  exact toList_mem_mul_iff

/-- Here the accept state of the first operand has a move of its own, and the symbol of that move begins
the symbol of the second operand. -/
theorem accepts_concat_overlapping :
    ∃ a b, build [.accept 1, .move "a" 0 1, .move "a" 1 1] = .ok a ∧
      build [.accept 0, .move "ab" 0 1, .epsilonMove 1 0] = .ok b ∧
      a.footprint + b.footprint < stateLimit ∧
      ∃ c, a.concat b = .ok c ∧ ∀ w : String, c.accepts w = true ↔
        ∃ u v : String, w = u ++ v ∧ a.accepts u = true ∧ b.accepts v = true :=
  ⟨_, _, rfl, rfl, by decide, accepts_concat _ _ (by decide)⟩

theorem accepts_disjunction (a b : Automaton) (h : a.footprint + b.footprint + 2 < stateLimit) :
    ∃ c, a.disjunction b = .ok c ∧ ∀ w : String, c.accepts w = true ↔
      a.accepts w = true ∨ b.accepts w = true := by
  obtain ⟨c, hc, -, htable, haccept⟩ := disjunction_eq_ok h
  refine ⟨c, hc, fun w => ?_⟩
  simp only [accepts_iff_mem, language_disjunctionTable htable haccept]
  exact Language.mem_add ..

/-- Here the first operand has no table. -/
theorem accepts_disjunction_emptyTable :
    ∃ a b, make {"a"} #[] 0 = .ok a ∧ build [.accept 1, .move "a" 0 1, .move "ab" 1 0] = .ok b ∧
      a.footprint + b.footprint + 2 < stateLimit ∧
      ∃ c, a.disjunction b = .ok c ∧ ∀ w : String, c.accepts w = true ↔
        a.accepts w = true ∨ b.accepts w = true :=
  ⟨_, _, rfl, rfl, by decide, accepts_disjunction _ _ (by decide)⟩

theorem accepts_repetition (a : Automaton) (h : a.footprint + 1 < stateLimit) :
    ∃ c, a.repetition = .ok c ∧ ∀ w : String, c.accepts w = true ↔
      ∃ us : List String, w = String.join us ∧ ∀ u ∈ us, a.accepts u = true := by
  obtain ⟨c, hc, -, htable, haccept⟩ := repetition_eq_ok h
  refine ⟨c, hc, fun w => ?_⟩
  simp only [accepts_iff_mem, language_repetitionTable htable haccept]
  exact toList_mem_kstar_iff

/-- Here the accept state is the start, and moves lead out of it and back. -/
theorem accepts_repetition_loop :
    ∃ a, build [.accept 0, .move "ab" 0 1, .epsilonMove 1 0, .move "a" 0 2] = .ok a ∧
      a.footprint + 1 < stateLimit ∧
      ∃ c, a.repetition = .ok c ∧ ∀ w : String, c.accepts w = true ↔
        ∃ us : List String, w = String.join us ∧ ∀ u ∈ us, a.accepts u = true :=
  ⟨_, rfl, by decide, accepts_repetition _ (by decide)⟩

end Automaton

end Automata
