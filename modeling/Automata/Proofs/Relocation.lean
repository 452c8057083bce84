import Automata.Proofs.NormalForms

/-!
# What a copy holds

The copy of a table is settled entry by entry (`Table.copy_outcome`). The source may lead to states that it
does not have; what is left out, rows or symbols, cannot make the copy fault. A copy of a copy is one copy,
if the first one has a row left (`Table.copy_eq_of_copy_eq_ok`).
-/

namespace Automata

theorem Target.moveBy_injective (offset : Nat) : Function.Injective (Target.moveBy offset) := by
  intro t u h
  cases t with
  | state n =>
    cases u with
    | state m => exact congrArg Target.state (Nat.add_right_cancel (Target.state.inj h))
    | sink => cases h
  | sink =>
    cases u with
    | state m => cases h
    | sink => rfl

-- ---------------------------------------------------------------------------
-- Entries
-- ---------------------------------------------------------------------------

namespace TargetSet

/-- `ts` holds the states of `source`, moved up, and the sink if `source` has it. -/
structure Moved (offset : Nat) (source ts : TargetSet) : Prop where
  state_iff : ∀ d, Target.state d ∈ ts ↔ ∃ t, Target.state t ∈ source ∧ d = t + offset
  sink_iff : Target.sink ∈ ts ↔ Target.sink ∈ source
  size_eq : ts.size = source.size

theorem size_moveBy {offset : Nat} {ts : TargetSet} : (ts.moveBy offset).size = ts.size := by
  rw [moveBy, Std.ExtTreeSet.size_ofList, List.length_map, Std.ExtTreeSet.length_toList]
  have hdistinct : ts.toList.Pairwise (¬Ord.compare · · = .eq) := Std.ExtTreeSet.distinct_toList
  refine List.pairwise_map.mpr (hdistinct.imp fun {t u} hne heq => hne ?_)
  rw [Std.LawfulEqCmp.compare_eq_iff_eq] at heq ⊢
  exact Target.moveBy_injective offset heq

theorem moved_moveBy {offset : Nat} {source : TargetSet} : Moved offset source (source.moveBy offset) where
  state_iff _ := state_mem_moveBy
  sink_iff := sink_mem_moveBy
  size_eq := size_moveBy

end TargetSet

inductive EntryCopy (offset : Nat) : Option TargetSet → TargetSet → Prop
  | absent : EntryCopy offset none {Target.sink}
  | empty : EntryCopy offset (some ∅) {Target.sink}
  | moved {source ts : TargetSet} (hsource : source ≠ ∅) (hts : source.Moved offset ts) :
    EntryCopy offset (some source) ts

theorem Row.entryCopy_copiedTargets {offset : Nat} {row : Row} {y : Symbol} :
    EntryCopy offset row[y]? (row.copiedTargets offset y) := by
  rw [copiedTargets, targets_eq]
  cases row[y]? with
  | none => exact .absent
  | some source =>
    rw [Option.getD_some]
    split
    · rename_i h
      obtain rfl := Std.ExtTreeSet.isEmpty_iff.mp h
      exact .empty
    · rename_i h
      exact .moved (mt Std.ExtTreeSet.isEmpty_iff.mpr h) TargetSet.moved_moveBy

-- ---------------------------------------------------------------------------
-- Tables
-- ---------------------------------------------------------------------------

namespace Table

def entryAt? (table : Table) (s : Nat) (y : Symbol) : Option TargetSet :=
  table[s]?.bind fun row => row[y]?

/-- `copy` is `table` over `alphabet`, moved up, without the first `skipped` rows. A table without rows
counts as one row without entries. -/
structure IsCopy (table : Table) (alphabet : Alphabet) (offset skipped : Nat) (copy : Table) : Prop where
  size_eq : copy.size = max table.size 1 - skipped
  /-- Rows have entries for exactly the symbols of the alphabet, and none is empty. -/
  full : copy.Full alphabet
  entry : ∀ i y ts, copy.entryAt? i y = some ts → EntryCopy offset (table.entryAt? (skipped + i) y) ts

section
variable {alphabet alphabet' : Alphabet} {table first : Table} {offset offset' skipped skipped' s : Nat}
  {y : Symbol}

theorem entryAt?_padded : table.padded.entryAt? s y = table.entryAt? s y := by
  unfold padded
  split
  · rename_i h
    obtain rfl := Array.isEmpty_iff.mp h
    cases s <;> simp [entryAt?]
  · rfl

theorem entryAt?_skip : entryAt? (table.extract skipped) s y = table.entryAt? (skipped + s) y := by
  rw [entryAt?, getElem?_skip]
  rfl

theorem entryCopy_of_copied {ts : TargetSet} (h : (table.copied alphabet offset).entryAt? s y = some ts) :
    EntryCopy offset (table.entryAt? s y) ts := by
  rw [← entryAt?_padded]
  simp only [entryAt?, copied, Array.getElem?_map, Option.bind_map] at h ⊢
  obtain ⟨row, hrow, h⟩ := Option.bind_eq_some_iff.mp h
  rw [Function.comp_apply, Row.getElem?_copy] at h
  split at h
  · cases h
    rw [hrow]
    exact Row.entryCopy_copiedTargets
  · cases h

theorem isCopy_copied :
    table.IsCopy alphabet offset skipped ((table.copied alphabet offset).extract skipped) where
  size_eq := by rw [Array.size_extract, Nat.min_self, size_copied]
  full row hrow := by
    obtain ⟨i, hi⟩ := Array.mem_iff_getElem?.mp hrow
    rw [getElem?_skip] at hi
    exact full_copied row (Array.mem_of_getElem? hi)
  entry i y ts h := entryCopy_of_copied (entryAt?_skip.symm.trans h)

/-- A copy breaks off exactly when it would hold a state out of range. Otherwise it is made, and all its
entries are settled. -/
theorem copy_outcome (table : Table) (alphabet : Alphabet) (offset skipped : Nat) :
    (table.copy alphabet offset skipped = .error .stateOverflow ↔
      table.Overflows alphabet offset skipped) ∧
    (¬table.Overflows alphabet offset skipped →
      ∃ copy, table.copy alphabet offset skipped = .ok copy ∧
        table.IsCopy alphabet offset skipped copy) := by
  refine ⟨⟨fun herror => ?_, copy_of_overflows⟩, fun h => ⟨_, copy_of_not_overflows h, isCopy_copied⟩⟩
  by_contra h
  rw [copy_of_not_overflows h] at herror
  cases herror

-- ---------------------------------------------------------------------------
-- Target by target
-- ---------------------------------------------------------------------------

theorem fits_iff_shift {row : Row} : row.fits alphabet offset = true ↔
    ∀ y ∈ alphabet, ∀ t ∈ row.targets y, ∃ u, t.shift offset = .ok u := by
  rw [Row.fits_iff]
  constructor
  · intro h y hy t ht
    refine ⟨_, Target.shift_eq_ok_iff.mpr ⟨?_, rfl⟩⟩
    rintro n rfl
    exact h y hy n ht
  · intro h y hy n hn
    obtain ⟨u, hu⟩ := h y hy (.state n) hn
    exact (Target.shift_eq_ok_iff.mp hu).1 n rfl

theorem exists_copy_iff_shift : (∃ copy, table.copy alphabet offset skipped = .ok copy) ↔
    ∀ row ∈ table.padded.extract skipped, ∀ y ∈ alphabet, ∀ t ∈ row.targets y,
      ∃ u, t.shift offset = .ok u := by
  simp only [← fits_iff_shift, ← Array.all_eq_true', copy]
  constructor
  · rintro ⟨first, h⟩
    by_contra hfits
    rw [if_neg hfits] at h
    cases h
  · exact fun hfits => ⟨_, if_pos hfits⟩

theorem mem_targets_iff_shift {copy : Table} {row : Row} (h : table.copy alphabet offset skipped = .ok copy)
    (hrow : (table.padded.extract skipped)[s]? = some row) (hy : y ∈ alphabet) (hne : row.targets y ≠ ∅) :
    ∃ row', copy[s]? = some row' ∧
      ∀ u, u ∈ row'.targets y ↔ ∃ t ∈ row.targets y, t.shift offset = .ok u := by
  have hfits := exists_copy_iff_shift.mp ⟨copy, h⟩ row (Array.mem_of_getElem? hrow) y hy
  rw [Table.copy] at h
  split at h
  · cases h
    refine ⟨row.copy alphabet offset, by rw [Array.getElem?_map, hrow]; rfl, fun u => ?_⟩
    rw [Row.targets_eq, Row.getElem?_copy, if_pos hy, Option.getD_some, Row.copiedTargets,
      if_neg (mt Std.ExtTreeSet.isEmpty_iff.mp hne), TargetSet.mem_moveBy]
    constructor
    · rintro ⟨t, ht, rfl⟩
      obtain ⟨u, hu⟩ := hfits t ht
      obtain ⟨-, rfl⟩ := Target.shift_eq_ok_iff.mp hu
      exact ⟨t, ht, hu⟩
    · rintro ⟨t, ht, hu⟩
      exact ⟨t, ht, (Target.shift_eq_ok_iff.mp hu).2.symm⟩
  · cases h

-- ---------------------------------------------------------------------------
-- Two copies in a row
-- ---------------------------------------------------------------------------

theorem eq_of_copy_eq_ok (h : table.copy alphabet offset skipped = .ok first) :
    first = (table.copied alphabet offset).extract skipped := by
  by_cases hlimit : table.Overflows alphabet offset skipped
  · rw [copy_of_overflows hlimit] at h
    cases h
  · rw [copy_of_not_overflows hlimit] at h
    exact (Except.ok.inj h).symm

/-- A copy of a copy is one copy, or neither of them is made. -/
theorem copy_eq_of_copy_eq_ok (hsymbols : ∀ y ∈ alphabet', y ∈ alphabet)
    (hskipped : skipped < max table.size 1) (h : table.copy alphabet offset skipped = .ok first) :
    first.copy alphabet' offset' skipped' =
      table.copy alphabet' (offset + offset') (skipped + skipped') := by
  obtain rfl := eq_of_copy_eq_ok h
  exact copy_copied hskipped fun _ _ y hy => .inl (hsymbols y hy)

/-- Here the first copy skips a row and leaves out a symbol that would both leave the range. The second
copy skips the row that holds the sink and leaves out a symbol that the first one put in. -/
theorem copy_eq_of_copy_eq_ok_leftOut :
    ∃ table first : Table,
      table = #[Row.add ∅ "a" (.state 18446744073709551615),
        Row.add (Row.add ∅ "a" .sink) "c" (.state 18446744073709551615), Row.add ∅ "a" (.state 2)] ∧
      (∀ y ∈ ({"a"} : Alphabet), y ∈ ({"a", "b"} : Alphabet)) ∧ 1 < max table.size 1 ∧
      table.copy {"a", "b"} 5 1 = .ok first ∧ first.copy {"a"} 7 1 = table.copy {"a"} (5 + 7) (1 + 1) := by
  have hsymbols : ∀ y ∈ ({"a"} : Alphabet), y ∈ ({"a", "b"} : Alphabet) := by simp
  refine ⟨_, _, rfl, hsymbols, by decide, if_pos ?_, ?_⟩
  · decide +kernel
  · exact copy_eq_of_copy_eq_ok hsymbols (by decide) (if_pos (by decide +kernel))

theorem copy_of_le (h : max table.size 1 ≤ skipped) :
    table.copy alphabet offset skipped = .ok #[] := by
  have hlimit : ¬table.Overflows alphabet offset skipped := by
    rintro ⟨s, y, t, hs, -, ht, -⟩
    have := ht.lt
    omega
  have hempty : (table.copied alphabet offset).extract skipped = #[] := by
    rw [← Array.size_eq_zero_iff, Array.size_extract, size_copied]
    omega
  rw [copy_of_not_overflows hlimit, hempty]

/-- Where the first copy has no row left, the second one gives it a row again. -/
theorem copy_ne_of_le (h : max table.size 1 ≤ skipped) :
    ∃ first, table.copy alphabet offset skipped = .ok first ∧
      first.copy alphabet' offset' 0 ≠ table.copy alphabet' (offset + offset') skipped := by
  refine ⟨#[], copy_of_le h, fun heq => ?_⟩
  have hlimit : ∀ s y t, Leads #[] s y t → t + offset' < stateLimit := fun s y t ht => by
    cases ht.lt
  rw [copy_of_le h, copy_eq_ok hlimit] at heq
  have hsize : (copied #[] alphabet' offset').size = max 0 1 := size_copied
  rw [Except.ok.inj heq] at hsize
  cases hsize

end

end Table

end Automata
