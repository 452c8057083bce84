import Automata.Proofs.Copies

/-!
# Concatenation is associative

The copy of a concatenation is two copies with the link between them (`copied_concatTable`). The two links
start in different operands, so each can be put in where its operand is copied.
-/

namespace Automata

namespace Automaton

section
variable {a b c ab bc : Automaton} {alphabet : Alphabet} {offset offset' : Nat}
  {operands : List Automaton}

theorem copied_copied_operand (ha : a ∈ operands) :
    (a.table.copied (mergedAlphabet operands) offset).copied alphabet offset' =
      a.table.copied alphabet (offset + offset') := by
  apply Table.copied_copied
  intro row hrow y _
  refine (a.table_sound.known_or_empty row hrow y).imp_left fun hy => ?_
  exact mem_mergedAlphabet.mpr (hy.imp_right fun hy => ⟨a, ha, hy⟩)

theorem concatTable_eq_linked :
    concatTable a b = (concatRows a b).linked a.accept a.footprint := rfl

theorem copied_concatTable (h : Symbol.epsilon ∈ alphabet) :
    (concatTable a b).copied alphabet offset =
      (a.table.copied alphabet offset ++ b.table.copied alphabet (a.footprint + offset)).linked
        a.accept (a.footprint + offset) := by
  have hsize : 0 < (concatRows a b).size := by
    have := a.footprint_pos
    rw [size_concatRows]
    omega
  have hfirst : 0 < (a.table.copied (mergedAlphabet [a, b]) 0).size := by
    rw [size_copied_operand]
    exact a.footprint_pos
  have hsecond : 0 < (b.table.copied (mergedAlphabet [a, b]) a.footprint).size := by
    rw [size_copied_operand]
    exact b.footprint_pos
  rw [concatTable_eq_linked, Table.copied_linked h hsize, concatRows,
    Table.copied_append hfirst hsecond, copied_copied_operand (by simp), copied_copied_operand (by simp),
    Nat.zero_add]

theorem footprint_concat (h : c.table = concatTable a b) :
    c.footprint = a.footprint + b.footprint := by
  have := a.footprint_pos
  rw [footprint, size_of_concatTable h]
  omega

theorem mergedAlphabet_assoc (hab : ab.alphabet = mergedAlphabet [a, b])
    (hbc : bc.alphabet = mergedAlphabet [b, c]) : mergedAlphabet [ab, c] = mergedAlphabet [a, bc] := by
  apply Std.ExtTreeSet.ext_mem
  intro y
  simp only [mem_mergedAlphabet, List.mem_cons, List.not_mem_nil, or_false, exists_eq_or_imp,
    exists_eq_left, hab, hbc]
  tauto

theorem concatTable_assoc (hab : ab.table = concatTable a b) (hbc : bc.table = concatTable b c)
    (haccept : ab.accept = a.footprint + b.accept)
    (halphabet : mergedAlphabet [ab, c] = mergedAlphabet [a, bc]) :
    concatTable ab c = concatTable a bc := by
  have hepsilon : Symbol.epsilon ∈ mergedAlphabet [a, bc] := mem_mergedAlphabet.mpr (.inl rfl)
  rw [concatTable_eq_linked, concatTable_eq_linked, concatRows, concatRows, halphabet, hab, hbc, haccept,
    footprint_concat hab, copied_concatTable hepsilon, copied_concatTable hepsilon, Nat.add_zero,
    Nat.add_comm b.footprint]
  have hfirst : (a.table.copied (mergedAlphabet [a, bc]) 0).size = a.footprint := size_copied_operand
  have hsecond : (b.table.copied (mergedAlphabet [a, bc]) a.footprint).size = b.footprint :=
    size_copied_operand
  generalize a.table.copied (mergedAlphabet [a, bc]) 0 = first at hfirst ⊢
  generalize b.table.copied (mergedAlphabet [a, bc]) a.footprint = second at hsecond ⊢
  generalize c.table.copied (mergedAlphabet [a, bc]) (a.footprint + b.footprint) = third
  have hA : a.accept < first.size := hfirst ▸ a.accept_lt_footprint
  have hB : b.accept < second.size := hsecond ▸ b.accept_lt_footprint
  have hlink : (first.linked a.accept a.footprint).size = a.footprint := Table.size_linked.trans hfirst
  have hAB : a.footprint + b.accept < (first.linked a.accept a.footprint ++ second).size := by
    rw [Array.size_append, hlink]
    omega
  rw [Table.linked_append_left hA, Table.linked_append_left hA, Table.linked_append_left hB,
    Table.linked_append_left hAB, Table.linked_append_right (by rw [hlink]), Array.append_assoc]

end

/-- The two results are equal as values: alphabet, accept state and every entry of the table. -/
theorem concat_assoc (a b c : Automaton) (h : a.footprint + b.footprint + c.footprint < stateLimit) :
    ∃ ab bc abc, a.concat b = .ok ab ∧ b.concat c = .ok bc ∧
      ab.concat c = .ok abc ∧ a.concat bc = .ok abc := by
  obtain ⟨ab, hab, halphabetAB, htableAB, hacceptAB⟩ := concat_eq_ok (a := a) (b := b) (by omega)
  obtain ⟨bc, hbc, halphabetBC, htableBC, hacceptBC⟩ := concat_eq_ok (a := b) (b := c) (by omega)
  have hsizeAB := footprint_concat htableAB
  have hsizeBC := footprint_concat htableBC
  obtain ⟨abc, habc, halphabet, htable, haccept⟩ := concat_eq_ok (a := ab) (b := c) (by omega)
  obtain ⟨abc', habc', halphabet', htable', haccept'⟩ := concat_eq_ok (a := a) (b := bc) (by omega)
  have hmerged := mergedAlphabet_assoc halphabetAB halphabetBC
  have heq : abc = abc' := by
    apply ext
    · rw [halphabet, halphabet', hmerged]
    · rw [htable, htable', concatTable_assoc htableAB htableBC hacceptAB hmerged]
    · rw [haccept, haccept', hsizeAB, hacceptBC, Nat.add_assoc]
  exact ⟨ab, bc, abc, hab, hbc, habc, heq ▸ habc'⟩

/-- Here the first operand has no table, and the accept state of the second has moves of its own and an
epsilon entry that holds the sink. -/
theorem concat_assoc_emptyTable :
    ∃ a b c, make {"ab"} #[] 0 = .ok a ∧
      make {"a"} #[Row.add (Row.add ∅ "a" (.state 0)) Symbol.epsilon .sink] 0 = .ok b ∧
      build [.accept 1, .move "ab" 0 1, .epsilonMove 1 0] = .ok c ∧
      a.footprint + b.footprint + c.footprint < stateLimit ∧
      ∃ ab bc abc, a.concat b = .ok ab ∧ b.concat c = .ok bc ∧
        ab.concat c = .ok abc ∧ a.concat bc = .ok abc :=
  ⟨_, _, _, rfl, rfl, rfl, by decide, concat_assoc _ _ _ (by decide)⟩

end Automaton

end Automata
