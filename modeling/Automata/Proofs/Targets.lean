import Automata.Proofs.Languages

/-! Where the combinators lead. Both sides are ascending lists, so it is enough that they have the same
members, and that is what `Holds` says. -/

namespace Automata

namespace Automaton

/-- The exits that a block has in state `i` under `y`, when its accept state is linked to `dests`. -/
def exits (a : Automaton) (i : Nat) (y : Symbol) (dests : List Nat) : List Nat :=
  if y = Symbol.epsilon ∧ i = a.accept then dests else []

structure ConcatMoves (c a b : Automaton) : Prop where
  size : c.size = a.footprint + b.footprint
  left : ∀ i < a.footprint, ∀ y, c.targets? i y = some (a.targets i y ++ a.exits i y [a.footprint])
  right : ∀ j < b.footprint, ∀ y,
    c.targets? (a.footprint + j) y = some ((b.targets j y).map (a.footprint + ·))

structure DisjunctionMoves (c a b : Automaton) : Prop where
  size : c.size = a.footprint + b.footprint + 2
  start : ∀ y, c.targets? 0 y = some (if y = Symbol.epsilon then [1, 1 + a.footprint] else [])
  left : ∀ i < a.footprint, ∀ y, c.targets? (1 + i) y =
    some ((a.targets i y).map (1 + ·) ++ a.exits i y [1 + a.footprint + b.footprint])
  right : ∀ j < b.footprint, ∀ y, c.targets? (1 + a.footprint + j) y =
    some ((b.targets j y).map (1 + a.footprint + ·) ++ b.exits j y [1 + a.footprint + b.footprint])
  accept : ∀ y, c.targets? (1 + a.footprint + b.footprint) y = some []

/-- The states of a repetition, and where they lead. The exit to state 1, the start of the block, may be a
target of the block as well. -/
structure RepetitionMoves (c a : Automaton) : Prop where
  size : c.size = a.footprint + 1
  start : ∀ y, c.targets? 0 y = some (if y = Symbol.epsilon then [1] else [])
  inner : ∀ i < a.footprint, ∀ y,
    c.targets? (1 + i) y = some (a.exits i y [0, 1] ∪ (a.targets i y).map (1 + ·))

section
variable {a b c : Automaton} {offset i s d : Nat} {y : Symbol} {dests : List Nat}

theorem mem_exits : d ∈ a.exits i y dests ↔ y = Symbol.epsilon ∧ i = a.accept ∧ d ∈ dests := by
  unfold exits
  split
  · rename_i h
    simp [h]
  · rename_i h
    simpa using fun hy hi => absurd ⟨hy, hi⟩ h

theorem ascending_exits (h : dests.Pairwise (· < ·)) : (a.exits i y dests).Pairwise (· < ·) := by
  unfold exits
  split
  · exact h
  · exact .nil

theorem targets?_eq_some (h : s < c.size) : c.targets? s y = some (c.targets s y) := by
  rw [targets, targets?, Array.getElem?_eq_getElem h]
  rfl

theorem targets?_eq_of_mem_iff {l : List Nat} (hs : s < c.size) (hl : l.Pairwise (· < ·))
    (h : ∀ d, d ∈ c.targets s y ↔ d ∈ l) : c.targets? s y = some l := by
  rw [targets?_eq_some hs]
  exact congrArg some ((c.ascending_targets s y).eq_of_mem_iff hl h)

theorem ascending_map_targets : ((a.targets i y).map (offset + ·)).Pairwise (· < ·) :=
  (a.ascending_targets i y).map _ fun _ _ h => Nat.add_lt_add_left h offset

theorem lt_of_mem_map_targets (h : d ∈ (a.targets i y).map (offset + ·)) :
    offset ≤ d ∧ d < offset + a.footprint := by
  obtain ⟨t, ht, rfl⟩ := List.mem_map.mp h
  have := target_lt_footprint (mem_targets_iff.mp ht)
  omega

/-- The exits lie behind the block, and so behind the targets inside it. -/
theorem Holds.targets_eq (h : c.Holds a offset dests) (hs : offset + i < c.size) (hi : i < a.footprint)
    (hdests : dests.Pairwise (· < ·)) (behind : ∀ d ∈ dests, offset + a.footprint ≤ d) :
    c.targets? (offset + i) y = some ((a.targets i y).map (offset + ·) ++ a.exits i y dests) := by
  apply targets?_eq_of_mem_iff hs
  · refine List.pairwise_append.mpr ⟨ascending_map_targets, ascending_exits hdests, ?_⟩
    intro t ht e he
    have hexit := behind e (mem_exits.mp he).2.2
    exact Nat.lt_of_lt_of_le (lt_of_mem_map_targets ht).2 hexit
  · intro d
    rw [h i hi, List.mem_append, mem_exits, List.mem_map]
    simp only [eq_comm]

theorem ascending_insert {l : List Nat} {m : Nat} (hl : l.Pairwise (· < ·)) (h : ∀ n ∈ l, m ≤ n) :
    (l.insert m).Pairwise (· < ·) := by
  by_cases hm : m ∈ l
  · rwa [List.insert_of_mem hm]
  · rw [List.insert_of_not_mem hm]
    exact hl.cons fun n hn => Nat.lt_of_le_of_ne (h n hn) fun heq => hm (heq ▸ hn)

theorem Holds.targets_eq_of_loop (h : c.Holds a 1 [1, 0]) (hs : 1 + i < c.size) (hi : i < a.footprint) :
    c.targets? (1 + i) y = some (a.exits i y [0, 1] ∪ (a.targets i y).map (1 + ·)) := by
  apply targets?_eq_of_mem_iff hs
  · have hinner : ((a.targets i y).map (1 + ·)).Pairwise (· < ·) := ascending_map_targets
    unfold exits
    split
    · have hstart := ascending_insert hinner fun d hd => (lt_of_mem_map_targets hd).1
      exact ascending_insert hstart fun d _ => Nat.zero_le d
    · exact hinner
  · intro d
    have hexits : d ∈ [1, 0] ↔ d ∈ [0, 1] := by simp [or_comm]
    rw [h i hi, hexits, List.mem_union_iff, mem_exits, List.mem_map, or_comm]
    simp only [eq_comm]

-- ---------------------------------------------------------------------------
-- The three combinators
-- ---------------------------------------------------------------------------

theorem concatMoves_of_concatTable (h : c.table = concatTable a b) : c.ConcatMoves a b := by
  have hsize := size_of_concatTable h
  have hleft := holds_left_of_concatTable h
  have hright := holds_right_of_concatTable h
  refine ⟨hsize, fun i hi y => ?_, fun j hj y => ?_⟩
  · have hmoves := hleft.targets_eq (y := y) (by omega) hi (List.pairwise_singleton ..) (by simp)
    simpa using hmoves
  · have hmoves := hright.targets_eq (y := y) (by omega) hj .nil (by simp)
    simpa [exits] using hmoves

theorem disjunctionMoves_of_disjunctionTable (h : c.table = disjunctionTable a b) :
    c.DisjunctionMoves a b := by
  have hsize := size_of_disjunctionTable h
  refine ⟨hsize, fun y => ?_, fun i hi y => ?_, fun j hj y => ?_, fun y => ?_⟩
  · apply targets?_eq_of_mem_iff (by omega)
    · have := a.footprint_pos
      split <;> simp
      omega
    · intro d
      rw [mem_targets_zero_of_disjunctionTable h]
      split <;> simp_all
  · exact (holds_left_of_disjunctionTable h).targets_eq (by omega) hi (List.pairwise_singleton ..) (by simp)
  · exact (holds_right_of_disjunctionTable h).targets_eq (by omega) hj (List.pairwise_singleton ..) (by simp)
  · rw [targets?_eq_some (by omega), targets_accept_of_disjunctionTable h]

theorem repetitionMoves_of_repetitionTable (h : c.table = repetitionTable a) : c.RepetitionMoves a := by
  have hsize := size_of_repetitionTable h
  refine ⟨hsize, fun y => ?_, fun i hi y => ?_⟩
  · apply targets?_eq_of_mem_iff (by omega)
    · split <;> simp
    · intro d
      rw [mem_targets_zero_of_repetitionTable h]
      split <;> simp_all
  · exact (holds_of_repetitionTable h).targets_eq_of_loop (by omega) hi

/-- Combining loses no transition and adds none but the links. -/
theorem combinators_moves (a b : Automaton) (h : a.footprint + b.footprint + 2 < stateLimit) :
    (∃ c, a.concat b = .ok c ∧ c.ConcatMoves a b) ∧
      (∃ c, a.disjunction b = .ok c ∧ c.DisjunctionMoves a b) ∧
      ∃ c, a.repetition = .ok c ∧ c.RepetitionMoves a := by
  refine ⟨?_, ?_, ?_⟩
  · obtain ⟨c, hc, -, htable, -⟩ := concat_eq_ok (a := a) (b := b) (by omega)
    exact ⟨c, hc, concatMoves_of_concatTable htable⟩
  · obtain ⟨c, hc, -, htable, -⟩ := disjunction_eq_ok h
    exact ⟨c, hc, disjunctionMoves_of_disjunctionTable htable⟩
  · obtain ⟨c, hc, -, htable, -⟩ := repetition_eq_ok (a := a) (by omega)
    exact ⟨c, hc, repetitionMoves_of_repetitionTable htable⟩

/-- Here the accept state of the first operand is its start and has an epsilon move to itself, and the
second operand has no table. -/
theorem combinators_moves_loop :
    ∃ a b, build [.accept 0, .move "ab" 0 1, .epsilonMove 0 0, .epsilonMove 0 1] = .ok a ∧
      make {"a"} #[] 0 = .ok b ∧ a.footprint + b.footprint + 2 < stateLimit ∧
      (∃ c, a.concat b = .ok c ∧ c.ConcatMoves a b) ∧
      (∃ c, a.disjunction b = .ok c ∧ c.DisjunctionMoves a b) ∧
      ∃ c, a.repetition = .ok c ∧ c.RepetitionMoves a :=
  ⟨_, _, rfl, rfl, by decide, combinators_moves _ _ (by decide)⟩

end

end Automaton

end Automata
