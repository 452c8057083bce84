import Automata.Proofs.Assembly

/-!
# Copies of what was copied

A copy of a copy is one copy that moves by both offsets, as long as the first alphabet drops no symbol that
the source has a target for (`Row.copy_copy`). Then it also overflows where the one copy does, and only there
(`Table.copy_copied`).
-/

namespace Automata

theorem TargetSet.ext {ts us : TargetSet} (sink : Target.sink ∈ ts ↔ Target.sink ∈ us)
    (state : ∀ d, Target.state d ∈ ts ↔ Target.state d ∈ us) : ts = us := by
  apply Std.ExtTreeSet.ext_mem
  intro t
  cases t with
  | sink => exact sink
  | state d => exact state d

-- ---------------------------------------------------------------------------
-- Rows
-- ---------------------------------------------------------------------------

namespace Row

section
variable {alphabet alphabet' : Alphabet} {offset offset' dest : Nat} {row : Row} {y : Symbol}

theorem Sound.targets_eq_empty {states : Nat} (h : row.Sound alphabet states)
    (hy : ¬(y = Symbol.epsilon ∨ y ∈ alphabet)) : row.targets y = ∅ := by
  rw [targets_eq]
  cases hrow : row[y]? with
  | none => rfl
  | some ts => exact absurd (h y ts hrow).1 hy

theorem targets_copy : (row.copy alphabet offset).targets y =
    if y ∈ alphabet then row.copiedTargets offset y else ∅ := by
  rw [targets_eq, getElem?_copy]
  split <;> rfl

theorem targets_link : (row.link dest).targets y =
    if y = Symbol.epsilon then ((row.targets y).erase .sink).insert (.state dest)
    else row.targets y := by
  rw [targets_eq, getElem?_link]
  split
  · rfl
  · rw [targets_eq]

theorem getElem?_link_epsilon :
    (row.link dest)[Symbol.epsilon]? = some ((row.link dest).targets Symbol.epsilon) := by
  rw [targets_link, getElem?_link, if_pos rfl, if_pos rfl]

theorem sink_mem_copiedTargets :
    Target.sink ∈ row.copiedTargets offset y ↔ Target.sink ∈ row.targets y ∨ row.targets y = ∅ := by
  unfold copiedTargets
  split
  · rename_i h
    rw [Std.ExtTreeSet.isEmpty_iff] at h
    simp [h]
  · rename_i h
    rw [Std.ExtTreeSet.isEmpty_iff] at h
    rw [TargetSet.sink_mem_moveBy, or_iff_left h]

theorem copiedTargets_ne_empty : row.copiedTargets offset y ≠ ∅ := by
  unfold copiedTargets
  split
  · simp
  · rename_i h
    rw [Std.ExtTreeSet.isEmpty_iff] at h
    simpa [TargetSet.moveBy] using h

theorem copiedTargets_copy (h : y ∈ alphabet ∨ row.targets y = ∅) :
    (row.copy alphabet offset).copiedTargets offset' y = row.copiedTargets (offset + offset') y := by
  apply TargetSet.ext
  · rw [sink_mem_copiedTargets, sink_mem_copiedTargets, targets_copy]
    split
    · rw [sink_mem_copiedTargets]
      simp [copiedTargets_ne_empty]
    · rename_i hy
      simp [h.resolve_left hy]
  · intro d
    simp only [state_mem_copiedTargets, leads_copy]
    constructor
    · rintro ⟨t, ⟨-, u, hu, rfl⟩, rfl⟩
      exact ⟨u, hu, Nat.add_assoc ..⟩
    · rintro ⟨u, hu, rfl⟩
      refine ⟨u + offset, ⟨h.resolve_right fun hempty => ?_, u, hu, rfl⟩, (Nat.add_assoc ..).symm⟩
      simp [Leads, hempty] at hu

theorem copy_copy (h : ∀ y ∈ alphabet', y ∈ alphabet ∨ row.targets y = ∅) :
    (row.copy alphabet offset).copy alphabet' offset' = row.copy alphabet' (offset + offset') := by
  apply Std.ExtTreeMap.ext_getElem?
  intro y
  rw [getElem?_copy, getElem?_copy]
  split
  · rename_i hy
    rw [copiedTargets_copy (h y hy)]
  · rfl

theorem copiedTargets_link (hy : y ≠ Symbol.epsilon) :
    (row.link dest).copiedTargets offset y = row.copiedTargets offset y := by
  rw [copiedTargets, copiedTargets, targets_link, if_neg hy]

/-- A linked row is copied with its link. The epsilon entry has no sink on either side: the link took it
away before the copy, or it takes away the sink that the copy put in. -/
theorem copy_link (h : Symbol.epsilon ∈ alphabet) :
    (row.link dest).copy alphabet offset = (row.copy alphabet offset).link (dest + offset) := by
  apply Std.ExtTreeMap.ext_getElem?
  intro y
  by_cases hy : y = Symbol.epsilon
  · subst hy
    rw [getElem?_copy, if_pos h, getElem?_link_epsilon]
    apply congrArg some
    apply TargetSet.ext
    · rw [sink_mem_copiedTargets, targets_link, targets_link]
      simp [Std.ExtTreeSet.mem_erase]
    · intro d
      change _ ↔ ((row.copy alphabet offset).link (dest + offset)).Leads Symbol.epsilon d
      simp only [state_mem_copiedTargets, leads_link, leads_copy]
      constructor
      · rintro ⟨t, ht | ⟨-, rfl⟩, rfl⟩
        · exact .inl ⟨h, t, ht, rfl⟩
        · exact .inr ⟨trivial, rfl⟩
      · rintro (⟨-, t, ht, rfl⟩ | ⟨-, rfl⟩)
        · exact ⟨t, .inl ht, rfl⟩
        · exact ⟨dest, .inr ⟨trivial, rfl⟩, rfl⟩
  · rw [getElem?_link, if_neg hy, getElem?_copy, getElem?_copy, copiedTargets_link hy]

end

end Row

-- ---------------------------------------------------------------------------
-- Tables
-- ---------------------------------------------------------------------------

namespace Table

section
variable {alphabet alphabet' : Alphabet} {table first second : Table}
  {offset offset' skipped skipped' src dest : Nat}

theorem padded_of_size_pos (h : 0 < table.size) : table.padded = table :=
  if_neg fun hempty => Nat.ne_of_gt h (Array.size_eq_zero_iff.mpr (Array.isEmpty_iff.mp hempty))

theorem Sound.padded {states : Nat} (h : table.Sound alphabet states) :
    table.padded.Sound alphabet states := by
  unfold Table.padded
  split
  · intro row hrow y ts hts
    obtain rfl : row = ∅ := by simpa using hrow
    simp at hts
  · exact h

theorem Sound.known_or_empty {states : Nat} (h : table.Sound alphabet states) :
    ∀ row ∈ table.padded, ∀ y, (y = Symbol.epsilon ∨ y ∈ alphabet) ∨ row.targets y = ∅ :=
  fun row hrow _ => or_iff_not_imp_left.mpr fun hy => (h.padded row hrow).targets_eq_empty hy

theorem copied_copied
    (h : ∀ row ∈ table.padded, ∀ y ∈ alphabet', y ∈ alphabet ∨ row.targets y = ∅) :
    (table.copied alphabet offset).copied alphabet' offset' =
      table.copied alphabet' (offset + offset') := by
  have hpos : 0 < (table.copied alphabet offset).size := by
    rw [size_copied]
    omega
  rw [copied, padded_of_size_pos hpos, copied, copied, Array.map_map]
  apply Array.map_congr_left
  exact fun row hrow => Row.copy_copy (h row hrow)

theorem copied_skip (h : skipped < table.size) :
    copied (table.extract skipped) alphabet offset = (table.copied alphabet offset).extract skipped := by
  have hpos : 0 < (table.extract skipped).size := by
    rw [Array.size_extract]
    omega
  rw [copied, padded_of_size_pos hpos, copied, padded_of_size_pos (by omega), Array.map_extract,
    Array.size_map]

theorem skip_skip : (table.extract skipped).extract skipped' = table.extract (skipped + skipped') := by
  apply Array.ext_getElem?
  intro s
  rw [getElem?_skip, getElem?_skip, getElem?_skip, Nat.add_assoc]

/-- Both ways look at the same states: a target that the first copy loses is under a symbol that the second
one leaves out. -/
theorem overflows_copied
    (h : ∀ row ∈ table.padded, ∀ y ∈ alphabet', y ∈ alphabet ∨ row.targets y = ∅) :
    Overflows ((table.copied alphabet offset).extract skipped) alphabet' offset' skipped' ↔
      table.Overflows alphabet' (offset + offset') (skipped + skipped') := by
  have hsymbol : ∀ s y t, y ∈ alphabet' → table.Leads s y t → y ∈ alphabet := by
    intro s y t hy ht
    obtain ⟨row, hrow, ht⟩ := (leads_padded table).mpr ht
    refine (h row (Array.mem_of_getElem? hrow) y hy).resolve_right fun hempty => ?_
    simp [Row.Leads, hempty] at ht
  simp only [Overflows, leads_skip, leads_copied]
  constructor
  · rintro ⟨s, y, _, hs, hy, ⟨-, t, ht, rfl⟩, hlimit⟩
    exact ⟨skipped + s, y, t, by omega, hy, ht, by omega⟩
  · rintro ⟨s, y, t, hs, hy, ht, hlimit⟩
    obtain ⟨i, rfl⟩ := Nat.exists_eq_add_of_le hs
    rw [Nat.add_assoc] at ht
    exact ⟨skipped' + i, y, t + offset, by omega, hy, ⟨hsymbol _ y t hy ht, t, ht, rfl⟩, by omega⟩

theorem copy_copied (hskipped : skipped < max table.size 1)
    (h : ∀ row ∈ table.padded, ∀ y ∈ alphabet', y ∈ alphabet ∨ row.targets y = ∅) :
    copy ((table.copied alphabet offset).extract skipped) alphabet' offset' skipped' =
      table.copy alphabet' (offset + offset') (skipped + skipped') := by
  have hsize : skipped < (table.copied alphabet offset).size := by rwa [size_copied]
  by_cases hlimit : table.Overflows alphabet' (offset + offset') (skipped + skipped')
  · rw [copy_of_overflows hlimit, copy_of_overflows ((overflows_copied h).mpr hlimit)]
  · rw [copy_of_not_overflows hlimit, copy_of_not_overflows (mt (overflows_copied h).mp hlimit),
      copied_skip hsize, copied_copied h, skip_skip]

theorem copied_append (h₁ : 0 < first.size) (h₂ : 0 < second.size) :
    (first ++ second).copied alphabet offset =
      first.copied alphabet offset ++ second.copied alphabet offset := by
  have h : 0 < (first ++ second).size := by
    rw [Array.size_append]
    omega
  rw [copied, copied, copied, padded_of_size_pos h, padded_of_size_pos h₁, padded_of_size_pos h₂,
    Array.map_append]

theorem copied_linked (halphabet : Symbol.epsilon ∈ alphabet) (h : 0 < table.size) :
    (table.linked src dest).copied alphabet offset =
      (table.copied alphabet offset).linked src (dest + offset) := by
  have hlinked : 0 < (table.linked src dest).size := by rwa [size_linked]
  rw [copied, copied, padded_of_size_pos h, padded_of_size_pos hlinked]
  apply Array.ext_getElem?
  intro s
  simp only [linked, Array.getElem?_map, Array.getElem?_modify]
  split
  · simp [Function.comp_def, Row.copy_link halphabet]
  · rfl

theorem linked_append_left (h : src < first.size) :
    (first ++ second).linked src dest = first.linked src dest ++ second := by
  apply Array.ext_getElem?
  intro s
  simp only [linked, Array.getElem?_modify, Array.getElem?_append, Array.size_modify]
  split
  · split
    · rfl
    · omega
  · rfl

theorem linked_append_right {i : Nat} (h : src = first.size + i) :
    (first ++ second).linked src dest = first ++ second.linked i dest := by
  subst h
  apply Array.ext_getElem?
  intro s
  simp only [linked, Array.getElem?_modify, Array.getElem?_append]
  by_cases hs : s < first.size
  · have hne : first.size + i ≠ s := by omega
    rw [if_neg hne, if_pos hs, if_pos hs]
  · obtain ⟨j, rfl⟩ := Nat.exists_eq_add_of_le (Nat.le_of_not_lt hs)
    simp [hs]

end

end Table

end Automata
