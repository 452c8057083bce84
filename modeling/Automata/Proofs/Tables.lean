import Automata.Construction.Basic
import Mathlib.Tactic.Tauto

/-!
# Where a table leads

`Table.Leads table s y d` says that a transition under `y` leads from state `s` to state `d`. A copy leads
where its source leads, moved up, and a link adds one epsilon transition and takes none away. A copy faults
when it would hold a state out of range (`Table.Overflows`) and in no other case.
-/

namespace Automata

theorem mem_insert_iff {α : Type} [Ord α] [Std.TransOrd α] [Std.LawfulEqOrd α]
    {set : Std.ExtTreeSet α} {x y : α} : y ∈ set.insert x ↔ y = x ∨ y ∈ set := by
  rw [Std.ExtTreeSet.mem_insert, Std.LawfulEqCmp.compare_eq_iff_eq, eq_comm]

theorem TargetSet.state_mem_moveBy {offset d : Nat} {ts : TargetSet} :
    Target.state d ∈ ts.moveBy offset ↔ ∃ t, Target.state t ∈ ts ∧ d = t + offset := by
  rw [mem_moveBy]
  constructor
  · rintro ⟨u, hu, heq⟩
    cases u with
    | state t => exact ⟨t, hu, (Target.state.inj heq).symm⟩
    | sink => cases heq
  · rintro ⟨t, ht, rfl⟩
    exact ⟨.state t, ht, rfl⟩

theorem TargetSet.sink_mem_moveBy {offset : Nat} {ts : TargetSet} :
    Target.sink ∈ ts.moveBy offset ↔ Target.sink ∈ ts := by
  rw [mem_moveBy]
  constructor
  · rintro ⟨t, ht, heq⟩
    cases t with
    | sink => exact ht
    | state n => cases heq
  · exact fun hsink => ⟨.sink, hsink, rfl⟩

-- ---------------------------------------------------------------------------
-- Rows
-- ---------------------------------------------------------------------------

namespace Row

def Leads (row : Row) (y : Symbol) (d : Nat) : Prop := Target.state d ∈ row.targets y

/-- All symbols of the row are known and all its states are in range. -/
def Sound (alphabet : Alphabet) (states : Nat) (row : Row) : Prop :=
  ∀ (y : Symbol) (ts : TargetSet), row[y]? = some ts → EntryOk alphabet states y ts

section
variable {alphabet : Alphabet} {states offset dest d : Nat} {row : Row} {y : Symbol}

theorem leads_link : (row.link dest).Leads y d ↔ row.Leads y d ∨ (y = Symbol.epsilon ∧ d = dest) := by
  simp only [Leads, targets_eq, getElem?_link]
  by_cases hy : y = Symbol.epsilon
  · simp [hy, Std.ExtTreeSet.mem_erase, or_comm, eq_comm (a := d)]
  · simp [hy]

theorem not_leads_sinkOnly : ¬(sinkOnly alphabet).Leads y d := by
  rw [Leads, targets_eq, sinkOnly, getElem?_tabulate]
  split <;> simp

theorem not_leads_empty : ¬(∅ : Row).Leads y d := by
  simp [Leads, targets_eq]

theorem state_mem_copiedTargets :
    Target.state d ∈ row.copiedTargets offset y ↔ ∃ t, row.Leads y t ∧ d = t + offset := by
  unfold copiedTargets Leads
  split
  · rename_i h
    rw [Std.ExtTreeSet.isEmpty_iff] at h
    simp [h]
  · exact TargetSet.state_mem_moveBy

theorem leads_copy :
    (row.copy alphabet offset).Leads y d ↔ y ∈ alphabet ∧ ∃ t, row.Leads y t ∧ d = t + offset := by
  rw [Leads, targets_eq, getElem?_copy]
  split
  · rename_i hy
    rw [Option.getD_some, state_mem_copiedTargets]
    exact (and_iff_right hy).symm
  · rename_i hy
    simp [hy]

theorem fits_iff :
    row.fits alphabet offset = true ↔ ∀ y ∈ alphabet, ∀ t, row.Leads y t → t + offset < stateLimit := by
  simp [fits, Leads, TargetSet.mem_states]

theorem Sound.of_leads (h : row.Sound alphabet states) (hd : row.Leads y d) :
    (y = Symbol.epsilon ∨ y ∈ alphabet) ∧ d < states := by
  rw [Leads, targets_eq] at hd
  cases hy : row[y]? with
  | none => simp [hy] at hd
  | some ts =>
    obtain ⟨hsymbol, hstate⟩ := h y ts hy
    rw [hy, Option.getD_some] at hd
    exact ⟨hsymbol, hstate d hd⟩

theorem sound_tabulate {f : Symbol → TargetSet}
    (h : ∀ y ∈ alphabet, ∀ n, Target.state n ∈ f y → n < states) :
    (tabulate alphabet f).Sound alphabet states := by
  intro y ts hts
  rw [getElem?_tabulate] at hts
  split at hts
  · rename_i hy
    cases hts
    exact ⟨.inr hy, h y hy⟩
  · cases hts

theorem sound_sinkOnly : (sinkOnly alphabet).Sound alphabet states :=
  sound_tabulate (by simp)

theorem sound_copy (h : ∀ y t, row.Leads y t → t + offset < states) :
    (row.copy alphabet offset).Sound alphabet states := by
  refine sound_tabulate fun y _ n hn => ?_
  obtain ⟨t, ht, rfl⟩ := state_mem_copiedTargets.mp hn
  exact h y t ht

theorem Sound.link (h : row.Sound alphabet states) (hdest : dest < states) :
    (row.link dest).Sound alphabet states := by
  intro y ts hts
  rw [getElem?_link] at hts
  split at hts
  · rename_i hy
    cases hts
    refine ⟨.inl hy, fun n hn => ?_⟩
    rcases mem_insert_iff.mp hn with heq | hn
    · exact Target.state.inj heq ▸ hdest
    · exact (h.of_leads (Std.ExtTreeSet.mem_of_mem_erase hn)).2
  · exact h y ts hts

end

end Row

-- ---------------------------------------------------------------------------
-- Tables
-- ---------------------------------------------------------------------------

namespace Table

def Leads (table : Table) (s : Nat) (y : Symbol) (d : Nat) : Prop :=
  ∃ row, table[s]? = some row ∧ row.Leads y d

def Sound (alphabet : Alphabet) (states : Nat) (table : Table) : Prop :=
  ∀ row ∈ table, row.Sound alphabet states

/-- The copy that `copy` makes of all rows when no state leaves the range. -/
def copied (table : Table) (alphabet : Alphabet) (offset : Nat) : Table :=
  table.padded.map (Row.copy alphabet offset)

/-- A state leaves the range in a copy: a row that is not skipped leads to it, under a symbol that is
copied. -/
def Overflows (table : Table) (alphabet : Alphabet) (offset skipped : Nat) : Prop :=
  ∃ s y t, skipped ≤ s ∧ y ∈ alphabet ∧ table.Leads s y t ∧ stateLimit ≤ t + offset

def linked (table : Table) (src dest : Nat) : Table := table.modify src (Row.link dest)

section
variable {alphabet : Alphabet} {table first second : Table} {states offset skipped src dest s d : Nat}
  {row : Row} {y : Symbol}

theorem wellFormed_iff {accept : Nat} :
    WellFormed alphabet table accept ↔ AcceptOk table.size accept ∧ table.Sound alphabet table.size := by
  constructor
  · rintro ⟨haccept, hentry⟩
    refine ⟨haccept, fun row hrow => ?_⟩
    obtain ⟨s, hs⟩ := Array.mem_iff_getElem?.mp hrow
    exact hentry s row hs
  · rintro ⟨haccept, hsound⟩
    exact ⟨haccept, fun s row hs => hsound row (Array.mem_of_getElem? hs)⟩

theorem Leads.lt (h : table.Leads s y d) : s < table.size := by
  obtain ⟨row, hrow, -⟩ := h
  exact (Array.getElem?_eq_some_iff.mp hrow).1

theorem Sound.of_leads (h : table.Sound alphabet states) (hd : table.Leads s y d) :
    (y = Symbol.epsilon ∨ y ∈ alphabet) ∧ d < states := by
  obtain ⟨row, hrow, hd⟩ := hd
  exact (h row (Array.mem_of_getElem? hrow)).of_leads hd

theorem leads_append :
    (first ++ second).Leads s y d ↔
      first.Leads s y d ∨ ∃ i, s = first.size + i ∧ second.Leads i y d := by
  unfold Leads
  rw [Array.getElem?_append]
  split
  · rename_i hs
    have : ∀ i, s ≠ first.size + i := fun i => by omega
    simp [this]
  · rename_i hs
    obtain ⟨i, rfl⟩ := Nat.exists_eq_add_of_le (Nat.le_of_not_lt hs)
    simp

theorem leads_singleton : Leads #[row] s y d ↔ s = 0 ∧ row.Leads y d := by
  cases s with
  | zero => simp [Leads]
  | succ s => simp [Leads]

theorem leads_linked (hsrc : src < table.size) :
    (table.linked src dest).Leads s y d ↔
      table.Leads s y d ∨ (s = src ∧ y = Symbol.epsilon ∧ d = dest) := by
  unfold Leads linked
  rw [Array.getElem?_modify]
  by_cases hs : src = s
  · subst hs
    simp [Array.getElem?_eq_getElem hsrc, Row.leads_link]
  · simp [hs, Ne.symm hs]

theorem leads_padded (table : Table) : table.padded.Leads s y d ↔ table.Leads s y d := by
  unfold padded
  split
  · rename_i h
    rw [Array.isEmpty_iff] at h
    rw [h, leads_singleton]
    simp [Row.not_leads_empty, Leads]
  · rfl

theorem leads_copied :
    (table.copied alphabet offset).Leads s y d ↔
      y ∈ alphabet ∧ ∃ t, table.Leads s y t ∧ d = t + offset := by
  have map : (table.copied alphabet offset).Leads s y d ↔
      ∃ row, table.padded[s]? = some row ∧ (row.copy alphabet offset).Leads y d := by
    simp only [Leads, copied, Array.getElem?_map, Option.map_eq_some_iff]
    exact ⟨fun ⟨_, ⟨row, hrow, heq⟩, hd⟩ => ⟨row, hrow, heq ▸ hd⟩,
      fun ⟨row, hrow, hd⟩ => ⟨_, ⟨row, hrow, rfl⟩, hd⟩⟩
  rw [map]
  simp only [Row.leads_copy, ← leads_padded table]
  constructor
  · rintro ⟨row, hrow, hy, t, ht, rfl⟩
    exact ⟨hy, t, ⟨row, hrow, ht⟩, rfl⟩
  · rintro ⟨hy, t, ⟨row, hrow, ht⟩, rfl⟩
    exact ⟨row, hrow, hy, t, ht, rfl⟩

@[simp] theorem size_linked : (table.linked src dest).size = table.size := by
  simp [linked]

theorem forall_mem_linked {P : Row → Prop} (h : ∀ row ∈ table, P row)
    (hlink : ∀ row, P row → P (row.link dest)) : ∀ row ∈ table.linked src dest, P row := by
  intro row hrow
  obtain ⟨s, hs⟩ := Array.mem_iff_getElem?.mp hrow
  rw [linked, Array.getElem?_modify] at hs
  split at hs
  · obtain ⟨row', hrow', rfl⟩ := Option.map_eq_some_iff.mp hs
    exact hlink row' (h row' (Array.mem_of_getElem? hrow'))
  · exact h row (Array.mem_of_getElem? hs)

theorem size_padded : table.padded.size = max table.size 1 := by
  unfold padded
  split
  · rename_i h
    simp [Array.isEmpty_iff.mp h]
  · rename_i h
    have := Array.size_pos_iff.mpr (mt Array.isEmpty_iff.mpr h)
    omega

theorem size_copied : (table.copied alphabet offset).size = max table.size 1 := by
  rw [copied, Array.size_map, size_padded]

theorem sound_append (h₁ : first.Sound alphabet states) (h₂ : second.Sound alphabet states) :
    (first ++ second).Sound alphabet states := by
  intro row hrow
  rcases Array.mem_append.mp hrow with hrow | hrow
  · exact h₁ row hrow
  · exact h₂ row hrow

theorem sound_sinkOnly : Sound alphabet states #[Row.sinkOnly alphabet] := by
  intro row hrow
  obtain rfl : row = Row.sinkOnly alphabet := by simpa using hrow
  exact Row.sound_sinkOnly

theorem leads_of_mem_padded (hrow : row ∈ table.padded) (hd : row.Leads y d) :
    ∃ s, table.Leads s y d := by
  obtain ⟨s, hs⟩ := Array.mem_iff_getElem?.mp hrow
  exact ⟨s, (leads_padded table).mp ⟨row, hs, hd⟩⟩

theorem sound_copied (h : ∀ s y t, table.Leads s y t → t + offset < states) :
    (table.copied alphabet offset).Sound alphabet states := by
  intro row hrow
  obtain ⟨row', hrow', rfl⟩ := Array.mem_map.mp hrow
  refine Row.sound_copy fun y t ht => ?_
  obtain ⟨s, hs⟩ := leads_of_mem_padded hrow' ht
  exact h s y t hs

def withLinks (table : Table) (links : List (Nat × Nat)) : Table :=
  links.foldl (fun table link => table.linked link.1 link.2) table

@[simp] theorem withLinks_nil : table.withLinks [] = table := rfl

@[simp] theorem withLinks_cons {link : Nat × Nat} {links : List (Nat × Nat)} :
    table.withLinks (link :: links) = (table.linked link.1 link.2).withLinks links := rfl

@[simp] theorem size_withLinks {links : List (Nat × Nat)} :
    (table.withLinks links).size = table.size := by
  induction links generalizing table with
  | nil => rfl
  | cons link links ih => exact ih.trans size_linked

theorem leads_withLinks {links : List (Nat × Nat)} (h : ∀ link ∈ links, link.1 < table.size) :
    (table.withLinks links).Leads s y d ↔
      table.Leads s y d ∨ (y = Symbol.epsilon ∧ (s, d) ∈ links) := by
  induction links generalizing table with
  | nil => simp
  | cons link links ih =>
    have hlinks : ∀ l ∈ links, l.1 < (table.linked link.1 link.2).size := fun l hl => by
      rw [size_linked]
      exact h l (List.mem_cons_of_mem _ hl)
    rw [withLinks_cons, ih hlinks, leads_linked (h link List.mem_cons_self), List.mem_cons, Prod.ext_iff]
    tauto

theorem forall_mem_withLinks {P : Row → Prop} {links : List (Nat × Nat)} (h : ∀ row ∈ table, P row)
    (hlinks : ∀ link ∈ links, ∀ row, P row → P (row.link link.2)) :
    ∀ row ∈ table.withLinks links, P row := by
  induction links generalizing table with
  | nil => exact h
  | cons link links ih =>
    rw [List.forall_mem_cons] at hlinks
    exact ih (forall_mem_linked h hlinks.1) hlinks.2

theorem sound_withLinks {links : List (Nat × Nat)} (h : table.Sound alphabet states)
    (hlinks : ∀ link ∈ links, link.2 < states) : (table.withLinks links).Sound alphabet states :=
  forall_mem_withLinks h fun link hlink _ hrow => hrow.link (hlinks link hlink)

theorem withLinks_append {links links' : List (Nat × Nat)} :
    table.withLinks (links ++ links') = (table.withLinks links).withLinks links' :=
  List.foldl_append

theorem link_withLinks_eq_ok {links : List (Nat × Nat)} (h : src < table.size) :
    (table.withLinks links).link src dest = .ok (table.withLinks (links ++ [(src, dest)])) := by
  have hsrc : src < (table.withLinks links).size := by rwa [size_withLinks]
  rw [link, if_pos hsrc, withLinks_append]
  rfl

theorem getElem?_skip : (table.extract skipped)[s]? = table[skipped + s]? := by
  rw [Array.getElem?_extract, Nat.min_self]
  split
  · rfl
  · rename_i hs
    exact (Array.getElem?_eq_none (by omega)).symm

theorem leads_skip : Leads (table.extract skipped) s y d ↔ table.Leads (skipped + s) y d := by
  simp only [Leads, getElem?_skip]

theorem all_fits_iff :
    (table.padded.extract skipped).all (Row.fits alphabet offset) = true ↔
      ¬table.Overflows alphabet offset skipped := by
  rw [Array.all_eq_true']
  constructor
  · rintro h ⟨s, y, t, hs, hy, ht, hlimit⟩
    obtain ⟨i, rfl⟩ := Nat.exists_eq_add_of_le hs
    obtain ⟨row, hrow, ht⟩ := leads_skip.mpr ((leads_padded table).mpr ht)
    have hfits := Row.fits_iff.mp (h row (Array.mem_of_getElem? hrow)) y hy t ht
    omega
  · intro h row hrow
    obtain ⟨i, hi⟩ := Array.mem_iff_getElem?.mp hrow
    rw [Row.fits_iff]
    intro y hy t ht
    have hleads : Leads (table.padded.extract skipped) i y t := ⟨row, hi, ht⟩
    rw [leads_skip, leads_padded] at hleads
    refine Nat.lt_of_not_le fun hlimit => h ⟨skipped + i, y, t, ?_, hy, hleads, hlimit⟩
    exact Nat.le_add_right ..

theorem copy_of_overflows (h : table.Overflows alphabet offset skipped) :
    table.copy alphabet offset skipped = .error .stateOverflow :=
  if_neg fun hfits => all_fits_iff.mp hfits h

theorem copy_of_not_overflows (h : ¬table.Overflows alphabet offset skipped) :
    table.copy alphabet offset skipped = .ok ((table.copied alphabet offset).extract skipped) := by
  rw [copy, if_pos (all_fits_iff.mpr h), Array.map_extract, copied, Array.size_map]

theorem copy_eq_ok (h : ∀ s y t, table.Leads s y t → t + offset < stateLimit) :
    table.copy alphabet offset 0 = .ok (table.copied alphabet offset) := by
  have hfits : ¬table.Overflows alphabet offset 0 := by
    rintro ⟨s, y, t, -, -, ht, hlimit⟩
    exact absurd (h s y t ht) (Nat.not_lt_of_le hlimit)
  rw [copy_of_not_overflows hfits, Array.extract_size]

end

-- ---------------------------------------------------------------------------
-- Entries
-- ---------------------------------------------------------------------------

def entries (table : Table) : List (Nat × Symbol × TargetSet) :=
  table.toList.zipIdx.flatMap fun (row, s) => row.toList.map fun (y, ts) => (s, y, ts)

theorem mem_entries_iff {table : Table} {s : Nat} {y : Symbol} {ts : TargetSet} :
    (s, y, ts) ∈ table.entries ↔ ∃ row, table[s]? = some row ∧ row[y]? = some ts := by
  simp only [entries, List.mem_flatMap, Prod.exists, List.mem_zipIdx_iff_getElem?, Array.getElem?_toList,
    List.mem_map, Std.ExtTreeMap.mem_toList_iff_getElem?_eq_some, Prod.mk.injEq]
  constructor
  · rintro ⟨row, s, hrow, y, ts, hts, rfl, rfl, rfl⟩
    exact ⟨row, hrow, hts⟩
  · rintro ⟨row, hrow, hts⟩
    exact ⟨row, s, hrow, y, ts, hts, rfl, rfl, rfl⟩

end Table

end Automata
