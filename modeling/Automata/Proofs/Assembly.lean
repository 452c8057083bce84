import Automata.Proofs.Moves

/-!
# What the combinators put together

Below the limit of state numbers the combinators do not fault, and their result has exactly the parts
given here.
-/

namespace Automata

theorem ok_bind {ε α β : Type} (x : α) (f : α → Except ε β) : (Except.ok x >>= f) = f x := rfl

theorem addStates_eq_ok {m n : Nat} (h : m + n < stateLimit) : addStates m n = .ok (m + n) :=
  addStates_eq_ok_iff.mpr ⟨h, rfl⟩

namespace Automaton

theorem mem_mergedAlphabet {operands : List Automaton} {y : Symbol} :
    y ∈ mergedAlphabet operands ↔ y = Symbol.epsilon ∨ ∃ a ∈ operands, y ∈ a.alphabet := by
  simp [mergedAlphabet, Std.ExtTreeSet.mem_ofList]

section
variable {a b c : Automaton} {alphabet : Alphabet} {table : Table} {accept offset s d : Nat}
  {operands : List Automaton} {y : Symbol}

theorem accept_lt_footprint (a : Automaton) : a.accept < a.footprint := by
  have := a.wellFormed.accept_ok
  simp only [AcceptOk, footprint, size] at this ⊢
  omega

theorem footprint_pos (a : Automaton) : 0 < a.footprint :=
  Nat.lt_of_le_of_lt (Nat.zero_le _) a.accept_lt_footprint

theorem target_lt_footprint (h : a.table.Leads s y d) : d < a.footprint :=
  Nat.lt_of_lt_of_le (a.table_sound.of_leads h).2 (Nat.le_max_left ..)

theorem source_lt_footprint (h : a.table.Leads s y d) : s < a.footprint :=
  Nat.lt_of_lt_of_le h.lt (Nat.le_max_left ..)

theorem assemble_eq_ok {links : List (Nat × Nat)} (hrows : table.Sound alphabet table.size)
    (hlinks : ∀ link ∈ links, link.1 < table.size ∧ link.2 < table.size)
    (haccept : accept < table.size) :
    ∃ c, assemble alphabet (table.withLinks links) accept = .ok c ∧
      c.alphabet = alphabet ∧ c.table = table.withLinks links ∧ c.accept = accept := by
  have hwell : WellFormed alphabet (table.withLinks links) accept := by
    rw [Table.wellFormed_iff, Table.size_withLinks]
    exact ⟨.inl haccept, Table.sound_withLinks hrows fun link hlink => (hlinks link hlink).2⟩
  have hmake : make alphabet (table.withLinks links) accept = .ok ⟨_, _, _, hwell⟩ :=
    make_eq_ok_iff.mpr ⟨rfl, rfl, rfl⟩
  exact ⟨⟨_, _, _, hwell⟩, by rw [assemble, hmake]; rfl, rfl, rfl, rfl⟩

-- ---------------------------------------------------------------------------
-- Copies of operands
-- ---------------------------------------------------------------------------

theorem copy_operand_eq_ok (h : offset + a.footprint < stateLimit) :
    a.table.copy alphabet offset 0 = .ok (a.table.copied alphabet offset) := by
  refine Table.copy_eq_ok fun s y t ht => ?_
  have := target_lt_footprint ht
  omega

@[simp] theorem size_copied_operand : (a.table.copied alphabet offset).size = a.footprint :=
  Table.size_copied

/-- The merged alphabet has all symbols of an operand, so its copy loses no transition. -/
theorem leads_copied_operand (ha : a ∈ operands) :
    (a.table.copied (mergedAlphabet operands) offset).Leads s y d ↔
      ∃ t, a.table.Leads s y t ∧ d = offset + t := by
  rw [Table.leads_copied]
  constructor
  · rintro ⟨-, t, ht, rfl⟩
    exact ⟨t, ht, Nat.add_comm ..⟩
  · rintro ⟨t, ht, rfl⟩
    refine ⟨?_, t, ht, Nat.add_comm ..⟩
    exact mem_mergedAlphabet.mpr ((a.table_sound.of_leads ht).1.imp_right fun hy => ⟨a, ha, hy⟩)

theorem sound_copied_operand {states : Nat} (h : offset + a.footprint ≤ states) :
    (a.table.copied alphabet offset).Sound alphabet states := by
  refine Table.sound_copied fun s y t ht => ?_
  have := target_lt_footprint ht
  omega

-- ---------------------------------------------------------------------------
-- Concatenation
-- ---------------------------------------------------------------------------

def concatRows (a b : Automaton) : Table :=
  a.table.copied (mergedAlphabet [a, b]) 0 ++ b.table.copied (mergedAlphabet [a, b]) a.footprint

def concatLinks (a : Automaton) : List (Nat × Nat) := [(a.accept, a.footprint)]

def concatTable (a b : Automaton) : Table := (concatRows a b).withLinks (concatLinks a)

theorem size_concatRows : (concatRows a b).size = a.footprint + b.footprint := by
  rw [concatRows, Array.size_append, size_copied_operand, size_copied_operand]

theorem concatLinks_lt :
    ∀ link ∈ concatLinks a, link.1 < (concatRows a b).size ∧ link.2 < (concatRows a b).size := by
  have haccept := a.accept_lt_footprint
  have hpos := b.footprint_pos
  rw [concatLinks, List.forall_mem_singleton, size_concatRows]
  omega

theorem sound_concatRows : (concatRows a b).Sound (mergedAlphabet [a, b]) (concatRows a b).size := by
  rw [size_concatRows]
  refine Table.sound_append ?_ ?_
  · exact sound_copied_operand (by omega)
  · exact sound_copied_operand (Nat.le_refl _)

theorem leads_concatTable : (concatTable a b).Leads s y d ↔
    (a.table.Leads s y d ∨
      ∃ i, s = a.footprint + i ∧ ∃ t, b.table.Leads i y t ∧ d = a.footprint + t) ∨
    (y = Symbol.epsilon ∧ (s, d) ∈ concatLinks a) := by
  rw [concatTable, Table.leads_withLinks fun link hlink => (concatLinks_lt link hlink).1, concatRows,
    Table.leads_append]
  simp [leads_copied_operand]

theorem concat_eq_ok (h : a.footprint + b.footprint < stateLimit) :
    ∃ c, a.concat b = .ok c ∧ c.alphabet = mergedAlphabet [a, b] ∧ c.table = concatTable a b ∧
      c.accept = a.footprint + b.accept := by
  have hacceptA := a.accept_lt_footprint
  have hacceptB := b.accept_lt_footprint
  have hsize : (concatRows a b).size = a.footprint + b.footprint := size_concatRows
  have hlink : a.accept < (concatRows a b).size := by omega
  have haccept : a.footprint + b.accept < (concatRows a b).size := by omega
  obtain ⟨c, hc, parts⟩ := assemble_eq_ok sound_concatRows concatLinks_lt haccept
  refine ⟨c, ?_, parts⟩
  rw [concat, copy_operand_eq_ok (by omega), ok_bind, copy_operand_eq_ok h, ok_bind]
  change (((concatRows a b).withLinks []).link a.accept a.footprint >>= _) = _
  rw [Table.link_withLinks_eq_ok hlink, ok_bind, addStates_eq_ok (by omega), ok_bind]
  exact hc

theorem size_of_concatTable (h : c.table = concatTable a b) : c.size = a.footprint + b.footprint := by
  rw [size, h, concatTable, Table.size_withLinks, size_concatRows]

-- ---------------------------------------------------------------------------
-- Disjunction
-- ---------------------------------------------------------------------------

def disjunctionRows (a b : Automaton) : Table :=
  let alphabet := mergedAlphabet [a, b]
  #[Row.sinkOnly alphabet] ++ a.table.copied alphabet 1 ++
    b.table.copied alphabet (1 + a.footprint) ++ #[Row.sinkOnly alphabet]

def disjunctionLinks (a b : Automaton) : List (Nat × Nat) :=
  [(0, 1), (0, 1 + a.footprint), (1 + a.accept, 1 + a.footprint + b.footprint),
    (1 + a.footprint + b.accept, 1 + a.footprint + b.footprint)]

def disjunctionTable (a b : Automaton) : Table :=
  (disjunctionRows a b).withLinks (disjunctionLinks a b)

theorem size_disjunctionRows : (disjunctionRows a b).size = 1 + a.footprint + b.footprint + 1 := by
  simp only [disjunctionRows, Array.size_append, size_copied_operand, List.size_toArray,
    List.length_singleton]

theorem disjunctionLinks_lt : ∀ link ∈ disjunctionLinks a b,
    link.1 < (disjunctionRows a b).size ∧ link.2 < (disjunctionRows a b).size := by
  have hacceptA := a.accept_lt_footprint
  have hacceptB := b.accept_lt_footprint
  simp only [disjunctionLinks, List.forall_mem_cons, List.not_mem_nil, false_implies, implies_true,
    and_true, size_disjunctionRows]
  omega

theorem sound_disjunctionRows :
    (disjunctionRows a b).Sound (mergedAlphabet [a, b]) (disjunctionRows a b).size := by
  rw [size_disjunctionRows]
  refine Table.sound_append (Table.sound_append (Table.sound_append ?_ ?_) ?_) ?_
  · exact Table.sound_sinkOnly
  · exact sound_copied_operand (by omega)
  · exact sound_copied_operand (by omega)
  · exact Table.sound_sinkOnly

theorem leads_disjunctionTable : (disjunctionTable a b).Leads s y d ↔
    ((∃ i, s = 1 + i ∧ ∃ t, a.table.Leads i y t ∧ d = 1 + t) ∨
      ∃ i, s = 1 + a.footprint + i ∧ ∃ t, b.table.Leads i y t ∧ d = 1 + a.footprint + t) ∨
    (y = Symbol.epsilon ∧ (s, d) ∈ disjunctionLinks a b) := by
  have hA : a ∈ [a, b] := by simp
  have hB : b ∈ [a, b] := by simp
  rw [disjunctionTable, Table.leads_withLinks fun link hlink => (disjunctionLinks_lt link hlink).1]
  simp only [disjunctionRows, Table.leads_append, Table.leads_singleton, Row.not_leads_sinkOnly,
    leads_copied_operand hA, leads_copied_operand hB, Array.size_append, size_copied_operand,
    List.size_toArray, List.length_singleton, and_false, exists_false, false_or, or_false]

theorem disjunction_eq_ok (h : a.footprint + b.footprint + 2 < stateLimit) :
    ∃ c, a.disjunction b = .ok c ∧ c.alphabet = mergedAlphabet [a, b] ∧
      c.table = disjunctionTable a b ∧ c.accept = 1 + a.footprint + b.footprint := by
  have hacceptA := a.accept_lt_footprint
  have hacceptB := b.accept_lt_footprint
  have hsize : (disjunctionRows a b).size = 1 + a.footprint + b.footprint + 1 := size_disjunctionRows
  have hstart : 0 < (disjunctionRows a b).size := by omega
  have hlinkA : 1 + a.accept < (disjunctionRows a b).size := by omega
  have hlinkB : 1 + a.footprint + b.accept < (disjunctionRows a b).size := by omega
  have haccept : 1 + a.footprint + b.footprint < (disjunctionRows a b).size := by omega
  obtain ⟨c, hc, parts⟩ := assemble_eq_ok sound_disjunctionRows disjunctionLinks_lt haccept
  refine ⟨c, ?_, parts⟩
  rw [disjunction, addStates_eq_ok (by omega), ok_bind, addStates_eq_ok (by omega), ok_bind,
    addStates_eq_ok (by omega), ok_bind, copy_operand_eq_ok (by omega), ok_bind,
    copy_operand_eq_ok (by omega), ok_bind]
  change (((disjunctionRows a b).withLinks []).link 0 1 >>= _) = _
  rw [Table.link_withLinks_eq_ok hstart, ok_bind, Table.link_withLinks_eq_ok hstart, ok_bind,
    addStates_eq_ok (by omega), ok_bind, Table.link_withLinks_eq_ok hlinkA, ok_bind,
    addStates_eq_ok (by omega), ok_bind, Table.link_withLinks_eq_ok hlinkB, ok_bind]
  exact hc

theorem size_of_disjunctionTable (h : c.table = disjunctionTable a b) :
    c.size = a.footprint + b.footprint + 2 := by
  rw [size, h, disjunctionTable, Table.size_withLinks, size_disjunctionRows]
  omega

-- ---------------------------------------------------------------------------
-- Repetition
-- ---------------------------------------------------------------------------

def repetitionRows (a : Automaton) : Table :=
  #[Row.sinkOnly (mergedAlphabet [a])] ++ a.table.copied (mergedAlphabet [a]) 1

def repetitionLinks (a : Automaton) : List (Nat × Nat) :=
  [(0, 1), (1 + a.accept, 1), (1 + a.accept, 0)]

def repetitionTable (a : Automaton) : Table := (repetitionRows a).withLinks (repetitionLinks a)

theorem size_repetitionRows : (repetitionRows a).size = 1 + a.footprint := by
  simp only [repetitionRows, Array.size_append, size_copied_operand, List.size_toArray,
    List.length_singleton]

theorem repetitionLinks_lt : ∀ link ∈ repetitionLinks a,
    link.1 < (repetitionRows a).size ∧ link.2 < (repetitionRows a).size := by
  have haccept := a.accept_lt_footprint
  simp only [repetitionLinks, List.forall_mem_cons, List.not_mem_nil, false_implies, implies_true,
    and_true, size_repetitionRows]
  omega

theorem sound_repetitionRows :
    (repetitionRows a).Sound (mergedAlphabet [a]) (repetitionRows a).size := by
  rw [size_repetitionRows]
  exact Table.sound_append Table.sound_sinkOnly (sound_copied_operand (Nat.le_refl _))

theorem leads_repetitionTable : (repetitionTable a).Leads s y d ↔
    (∃ i, s = 1 + i ∧ ∃ t, a.table.Leads i y t ∧ d = 1 + t) ∨
    (y = Symbol.epsilon ∧ (s, d) ∈ repetitionLinks a) := by
  have hA : a ∈ [a] := by simp
  rw [repetitionTable, Table.leads_withLinks fun link hlink => (repetitionLinks_lt link hlink).1]
  simp only [repetitionRows, Table.leads_append, Table.leads_singleton, Row.not_leads_sinkOnly,
    leads_copied_operand hA, List.size_toArray, List.length_singleton, and_false, false_or]

theorem repetition_eq_ok (h : a.footprint + 1 < stateLimit) :
    ∃ c, a.repetition = .ok c ∧ c.alphabet = mergedAlphabet [a] ∧ c.table = repetitionTable a ∧
      c.accept = 0 := by
  have haccept := a.accept_lt_footprint
  have hsize : (repetitionRows a).size = 1 + a.footprint := size_repetitionRows
  have hstart : 0 < (repetitionRows a).size := by omega
  have hlink : 1 + a.accept < (repetitionRows a).size := by omega
  obtain ⟨c, hc, parts⟩ := assemble_eq_ok sound_repetitionRows repetitionLinks_lt hstart
  refine ⟨c, ?_, parts⟩
  rw [repetition, addStates_eq_ok (by omega), ok_bind, copy_operand_eq_ok (by omega), ok_bind]
  change (((repetitionRows a).withLinks []).link 0 1 >>= _) = _
  rw [Table.link_withLinks_eq_ok hstart, ok_bind, Table.link_withLinks_eq_ok hlink, ok_bind,
    Table.link_withLinks_eq_ok hlink, ok_bind]
  exact hc

theorem size_of_repetitionTable (h : c.table = repetitionTable a) : c.size = a.footprint + 1 := by
  rw [size, h, repetitionTable, Table.size_withLinks, size_repetitionRows, Nat.add_comm]

end

end Automaton

end Automata
