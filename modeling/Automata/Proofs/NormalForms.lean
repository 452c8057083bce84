import Automata.Proofs.Copies

/-!
# Normal forms

That no state is reached under a symbol can be written in four ways: no table, no entry, an empty entry, an
entry that holds the sink alone. The last one is the normal form. Combinators see no more of an operand than
its normal form (`Automaton.concat_normalForm` and its siblings), and what they make is in normal form.
-/

namespace Automata

theorem TargetSet.moveBy_zero (ts : TargetSet) : ts.moveBy 0 = ts := by
  have htarget : ∀ t : Target, t.moveBy 0 = t := fun t => by cases t <;> rfl
  apply Std.ExtTreeSet.ext_mem
  intro t
  simp only [mem_moveBy, htarget, exists_eq_right]

-- ---------------------------------------------------------------------------
-- Rows
-- ---------------------------------------------------------------------------

namespace Row

def settled (row : Row) (y : Symbol) : TargetSet :=
  if (row.targets y).isEmpty then {Target.sink} else row.targets y

def spelledOut (alphabet : Alphabet) (row : Row) : Row := tabulate alphabet row.settled

/-- The row has entries for exactly the symbols of the alphabet, and none of them is empty. -/
structure Full (alphabet : Alphabet) (row : Row) : Prop where
  key_iff : ∀ y, y ∈ row ↔ y ∈ alphabet
  entry_ne : ∀ y : Symbol, row[y]? ≠ some ∅

section
variable {alphabet alphabet' : Alphabet} {offset dest : Nat} {row : Row} {y : Symbol}

theorem spelledOut_eq_copy : row.spelledOut alphabet = row.copy alphabet 0 := by
  have hsettled : row.settled = row.copiedTargets 0 := by
    funext y
    rw [settled, copiedTargets, TargetSet.moveBy_zero]
  rw [spelledOut, copy, hsettled]

theorem full_tabulate {f : Symbol → TargetSet} (h : ∀ y, f y ≠ ∅) :
    (tabulate alphabet f).Full alphabet where
  key_iff y := by
    rw [Std.ExtTreeMap.mem_iff_isSome_getElem?, getElem?_tabulate]
    split <;> simp_all
  entry_ne y := by
    rw [getElem?_tabulate]
    split
    · exact fun heq => h y (Option.some.inj heq)
    · simp

theorem full_sinkOnly : (sinkOnly alphabet).Full alphabet := full_tabulate (by simp)

theorem full_copy : (row.copy alphabet offset).Full alphabet :=
  full_tabulate fun _ => copiedTargets_ne_empty

theorem Full.link (h : row.Full alphabet) (hepsilon : Symbol.epsilon ∈ alphabet) :
    (row.link dest).Full alphabet where
  key_iff y := by
    rw [Std.ExtTreeMap.mem_iff_isSome_getElem?, getElem?_link]
    split
    · rename_i hy
      simp [hy, hepsilon]
    · rw [← Std.ExtTreeMap.mem_iff_isSome_getElem?]
      exact h.key_iff y
  entry_ne y := by
    rw [getElem?_link]
    split
    · simp
    · exact h.entry_ne y

theorem Full.spelledOut_eq (h : row.Full alphabet) : row.spelledOut alphabet = row := by
  apply Std.ExtTreeMap.ext_getElem?
  intro y
  rw [spelledOut, getElem?_tabulate, settled, targets_eq]
  by_cases hy : y ∈ alphabet
  · have hkey := Std.ExtTreeMap.mem_iff_isSome_getElem?.mp ((h.key_iff y).mpr hy)
    obtain ⟨ts, hts⟩ := Option.isSome_iff_exists.mp hkey
    have hne : ts ≠ ∅ := fun hempty => h.entry_ne y (hempty ▸ hts)
    simp [hy, hts, hne]
  · rw [if_neg hy, Std.ExtTreeMap.getElem?_eq_none (mt (h.key_iff y).mp hy)]

end

end Row

-- ---------------------------------------------------------------------------
-- Tables
-- ---------------------------------------------------------------------------

namespace Table

/-- The table with its rows spelled out, of which there is at least one. -/
def spelledOut (alphabet : Alphabet) (table : Table) : Table := table.padded.map (Row.spelledOut alphabet)

def Full (alphabet : Alphabet) (table : Table) : Prop := ∀ row ∈ table, row.Full alphabet

section
variable {alphabet : Alphabet} {table first second : Table} {offset : Nat}

theorem full_append (h₁ : first.Full alphabet) (h₂ : second.Full alphabet) :
    (first ++ second).Full alphabet :=
  Array.forall_mem_append.mpr ⟨h₁, h₂⟩

theorem full_sinkOnly : Full alphabet #[Row.sinkOnly alphabet] := by
  simpa [Full] using Row.full_sinkOnly

theorem full_copied : (table.copied alphabet offset).Full alphabet := by
  intro row hrow
  obtain ⟨row', -, rfl⟩ := Array.mem_map.mp hrow
  exact Row.full_copy

theorem full_withLinks {links : List (Nat × Nat)} (h : table.Full alphabet)
    (hepsilon : Symbol.epsilon ∈ alphabet) : (table.withLinks links).Full alphabet :=
  forall_mem_withLinks h fun _ _ _ hrow => hrow.link hepsilon

theorem spelledOut_eq_copied : table.spelledOut alphabet = table.copied alphabet 0 := by
  rw [spelledOut, copied]
  exact Array.map_congr_left fun row _ => Row.spelledOut_eq_copy

theorem size_spelledOut : (table.spelledOut alphabet).size = max table.size 1 := by
  rw [spelledOut_eq_copied, size_copied]

theorem Full.spelledOut_eq (h : table.Full alphabet) (hpos : 0 < table.size) :
    table.spelledOut alphabet = table := by
  rw [spelledOut, padded_of_size_pos hpos, Array.map_congr_left fun row hrow => (h row hrow).spelledOut_eq]
  exact Array.map_id' ..

theorem copy_spelledOut {alphabet' : Alphabet} {skipped : Nat}
    (h : ∀ row ∈ table.padded, ∀ y, y ∈ alphabet ∨ row.targets y = ∅) :
    (table.spelledOut alphabet).copy alphabet' offset skipped = table.copy alphabet' offset skipped := by
  have hcopied : table.spelledOut alphabet = (table.copied alphabet 0).extract 0 := by
    rw [spelledOut_eq_copied, Array.extract_size]
  have hskipped : 0 < max table.size 1 := by omega
  rw [hcopied, copy_copied hskipped fun row hrow y _ => h row hrow y, Nat.zero_add, Nat.zero_add]

end

end Table

-- ---------------------------------------------------------------------------
-- Automata
-- ---------------------------------------------------------------------------

namespace Automaton

/-- The automaton with the empty symbol in its alphabet, one row at least, and all rows spelled out. -/
def normalForm (a : Automaton) : Automaton where
  alphabet := a.alphabet.insert Symbol.epsilon
  table := a.table.spelledOut (a.alphabet.insert Symbol.epsilon)
  accept := a.accept
  wellFormed := by
    rw [Table.wellFormed_iff, Table.spelledOut_eq_copied, size_copied_operand]
    exact ⟨.inl a.accept_lt_footprint, sound_copied_operand (Nat.le_of_eq (Nat.zero_add _))⟩

/-- The automaton is its own normal form, and so is a copy of its table over its own alphabet. -/
structure Normal (c : Automaton) : Prop where
  normalForm_eq : c.normalForm = c
  epsilon_mem : Symbol.epsilon ∈ c.alphabet
  full : ∀ row ∈ c.table, row.Full c.alphabet
  copy_eq : c.table.copy c.alphabet 0 0 = .ok c.table

section
variable {a b c : Automaton} {alphabet : Alphabet} {offset skipped : Nat} {y : Symbol}

theorem mem_alphabet_normalForm : y ∈ a.normalForm.alphabet ↔ y = Symbol.epsilon ∨ y ∈ a.alphabet :=
  mem_insert_iff

theorem footprint_normalForm : a.normalForm.footprint = a.footprint := by
  have hsize : a.normalForm.size = a.footprint := Table.size_spelledOut
  rw [footprint, hsize, footprint]
  omega

theorem copy_normalForm :
    a.normalForm.table.copy alphabet offset skipped = a.table.copy alphabet offset skipped :=
  Table.copy_spelledOut fun row hrow y =>
    (a.table_sound.known_or_empty row hrow y).imp_left mem_alphabet_normalForm.mpr

theorem mergedAlphabet_map_normalForm (operands : List Automaton) :
    mergedAlphabet (operands.map normalForm) = mergedAlphabet operands := by
  apply Std.ExtTreeSet.ext_mem
  intro y
  rw [mem_mergedAlphabet, mem_mergedAlphabet]
  constructor
  · rintro (hy | ⟨a', ha', hy⟩)
    · exact .inl hy
    · obtain ⟨a, ha, rfl⟩ := List.mem_map.mp ha'
      exact (mem_alphabet_normalForm.mp hy).imp_right fun hy => ⟨a, ha, hy⟩
  · refine Or.imp_right ?_
    rintro ⟨a, ha, hy⟩
    exact ⟨a.normalForm, List.mem_map_of_mem ha, mem_alphabet_normalForm.mpr (.inr hy)⟩

-- ---------------------------------------------------------------------------
-- Operands
-- ---------------------------------------------------------------------------

theorem concat_normalForm : a.normalForm.concat b.normalForm = a.concat b := by
  have halphabet := mergedAlphabet_map_normalForm [a, b]
  simp only [List.map_cons, List.map_nil] at halphabet
  simp only [concat, copy_normalForm, footprint_normalForm, halphabet]
  rfl

theorem disjunction_normalForm : a.normalForm.disjunction b.normalForm = a.disjunction b := by
  have halphabet := mergedAlphabet_map_normalForm [a, b]
  simp only [List.map_cons, List.map_nil] at halphabet
  simp only [disjunction, copy_normalForm, footprint_normalForm, halphabet]
  rfl

theorem repetition_normalForm : a.normalForm.repetition = a.repetition := by
  have halphabet := mergedAlphabet_map_normalForm [a]
  simp only [List.map_cons, List.map_nil] at halphabet
  simp only [repetition, copy_normalForm, halphabet]
  rfl

-- ---------------------------------------------------------------------------
-- Results
-- ---------------------------------------------------------------------------

theorem normal_of_full (hepsilon : Symbol.epsilon ∈ c.alphabet) (h : c.table.Full c.alphabet)
    (hpos : 0 < c.size) (hlimit : c.size < stateLimit) : c.Normal := by
  have halphabet : c.alphabet.insert Symbol.epsilon = c.alphabet := by
    apply Std.ExtTreeSet.ext_mem
    intro y
    rw [mem_insert_iff, or_iff_right_of_imp]
    rintro rfl
    exact hepsilon
  have htable : c.table.spelledOut c.alphabet = c.table := h.spelledOut_eq hpos
  refine ⟨ext halphabet ?_ rfl, hepsilon, h, ?_⟩
  · change c.table.spelledOut (c.alphabet.insert Symbol.epsilon) = c.table
    rw [halphabet, htable]
  · rw [Table.copy_eq_ok, ← Table.spelledOut_eq_copied, htable]
    intro s y t ht
    exact Nat.lt_trans (c.table_sound.of_leads ht).2 hlimit

theorem epsilon_mem_mergedAlphabet {operands : List Automaton} :
    Symbol.epsilon ∈ mergedAlphabet operands :=
  mem_mergedAlphabet.mpr (.inl rfl)

theorem normal_of_concatTable (halphabet : c.alphabet = mergedAlphabet [a, b])
    (htable : c.table = concatTable a b) (h : a.footprint + b.footprint < stateLimit) : c.Normal := by
  have hpos := a.footprint_pos
  have hsize := size_of_concatTable htable
  refine normal_of_full ?_ ?_ (by omega) (by omega)
  · rw [halphabet]
    exact epsilon_mem_mergedAlphabet
  · rw [halphabet, htable]
    exact Table.full_withLinks (Table.full_append Table.full_copied Table.full_copied)
      epsilon_mem_mergedAlphabet

theorem normal_of_disjunctionTable (halphabet : c.alphabet = mergedAlphabet [a, b])
    (htable : c.table = disjunctionTable a b) (h : a.footprint + b.footprint + 2 < stateLimit) :
    c.Normal := by
  have hsize := size_of_disjunctionTable htable
  refine normal_of_full ?_ ?_ (by omega) (by omega)
  · rw [halphabet]
    exact epsilon_mem_mergedAlphabet
  · rw [halphabet, htable]
    refine Table.full_withLinks (Table.full_append (Table.full_append (Table.full_append ?_ ?_) ?_) ?_)
      epsilon_mem_mergedAlphabet
    · exact Table.full_sinkOnly
    · exact Table.full_copied
    · exact Table.full_copied
    · exact Table.full_sinkOnly

theorem normal_of_repetitionTable (halphabet : c.alphabet = mergedAlphabet [a])
    (htable : c.table = repetitionTable a) (h : a.footprint + 1 < stateLimit) : c.Normal := by
  have hsize := size_of_repetitionTable htable
  refine normal_of_full ?_ ?_ (by omega) (by omega)
  · rw [halphabet]
    exact epsilon_mem_mergedAlphabet
  · rw [halphabet, htable]
    exact Table.full_withLinks (Table.full_append Table.full_sinkOnly Table.full_copied)
      epsilon_mem_mergedAlphabet

end

/-- Operands of the same normal form make the same automata, which are in normal form. -/
theorem combine_eq_of_normalForm_eq (a a' b : Automaton) (h : a.normalForm = a'.normalForm) :
    (a.concat b = a'.concat b ∧ b.concat a = b.concat a' ∧ a.disjunction b = a'.disjunction b ∧
      b.disjunction a = b.disjunction a' ∧ a.repetition = a'.repetition) ∧
    (a.footprint + b.footprint < stateLimit → ∃ c, a.concat b = .ok c ∧ c.Normal) ∧
    (a.footprint + b.footprint + 2 < stateLimit → ∃ c, a.disjunction b = .ok c ∧ c.Normal) ∧
    (a.footprint + 1 < stateLimit → ∃ c, a.repetition = .ok c ∧ c.Normal) := by
  refine ⟨⟨?_, ?_, ?_, ?_, ?_⟩, fun hsize => ?_, fun hsize => ?_, fun hsize => ?_⟩
  · rw [← concat_normalForm, h, concat_normalForm]
  · rw [← concat_normalForm, h, concat_normalForm]
  · rw [← disjunction_normalForm, h, disjunction_normalForm]
  · rw [← disjunction_normalForm, h, disjunction_normalForm]
  · rw [← repetition_normalForm, h, repetition_normalForm]
  · obtain ⟨c, hc, halphabet, htable, -⟩ := concat_eq_ok hsize
    exact ⟨c, hc, normal_of_concatTable halphabet htable hsize⟩
  · obtain ⟨c, hc, halphabet, htable, -⟩ := disjunction_eq_ok hsize
    exact ⟨c, hc, normal_of_disjunctionTable halphabet htable hsize⟩
  · obtain ⟨c, hc, halphabet, htable, -⟩ := repetition_eq_ok hsize
    exact ⟨c, hc, normal_of_repetitionTable halphabet htable hsize⟩

/-- Here the first operand has no table, and its replacement has one row with an empty entry and an entry
for the sink; the third operand has an entry with the sink beside a state. -/
theorem combine_eq_of_normalForm_eq_emptyTable :
    ∃ a a' b, make {"a"} #[] 0 = .ok a ∧
      make {"", "a"} #[((∅ : Row).add "" .sink).insert "a" ∅] 0 = .ok a' ∧
      build [.accept 1, .move "a" 0 1, .sinkMove "a" 0, .epsilonMove 1 0] = .ok b ∧
      a.normalForm = a'.normalForm ∧
      (a.concat b = a'.concat b ∧ b.concat a = b.concat a' ∧ a.disjunction b = a'.disjunction b ∧
        b.disjunction a = b.disjunction a' ∧ a.repetition = a'.repetition) ∧
      (∃ c, a.concat b = .ok c ∧ c.Normal) ∧ (∃ c, a.disjunction b = .ok c ∧ c.Normal) ∧
      ∃ c, a.repetition = .ok c ∧ c.Normal := by
  obtain ⟨a, a', b, ha, ha', hb, h, hsize⟩ : ∃ a a' b, make {"a"} #[] 0 = .ok a ∧
      make {"", "a"} #[((∅ : Row).add "" .sink).insert "a" ∅] 0 = .ok a' ∧
      build [.accept 1, .move "a" 0 1, .sinkMove "a" 0, .epsilonMove 1 0] = .ok b ∧
      a.normalForm = a'.normalForm ∧ a.footprint + b.footprint + 2 < stateLimit :=
    ⟨_, _, _, rfl, rfl, rfl, by decide +kernel, by decide⟩
  obtain ⟨heq, hconcat, hdisjunction, hrepetition⟩ := combine_eq_of_normalForm_eq a a' b h
  have hpos := b.footprint_pos
  exact ⟨a, a', b, ha, ha', hb, h, heq, hconcat (by omega), hdisjunction hsize, hrepetition (by omega)⟩

end Automaton

end Automata
