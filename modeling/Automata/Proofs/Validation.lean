import Automata.Automaton.Basic
import Automata.Proofs.ByteOrder

/-!
# The first violation

Of everything that is wrong with the parts of an automaton one thing is reported (`FirstViolation`). States,
symbols and targets are gone through in ascending order, so the first thing found is the least one
(`findSome?_eq_some_iff_of_pairwise`).
-/

namespace Automata

inductive AcceptViolation (states accept : Nat) : Invalid → Prop
  | emptyTable : states = 0 → accept ≠ 0 → AcceptViolation states accept (.emptyTable accept)
  | outOfRange : states ≠ 0 → states ≤ accept →
      AcceptViolation states accept (.acceptOutOfRange accept states)

inductive EntryViolation (alphabet : Alphabet) (states s : Nat) (y : Symbol) (ts : TargetSet) :
    Invalid → Prop
  | unknownSymbol : y ≠ Symbol.epsilon → y ∉ alphabet →
      EntryViolation alphabet states s y ts (.unknownSymbol s y)
  | targetOutOfRange {n : Nat} : (y = Symbol.epsilon ∨ y ∈ alphabet) → Target.state n ∈ ts → states ≤ n →
      (∀ m, Target.state m ∈ ts → states ≤ m → n ≤ m) →
      EntryViolation alphabet states s y ts (.targetOutOfRange s y n states)

/-- What is wrong first with the parts of an automaton. -/
inductive FirstViolation (alphabet : Alphabet) (table : Table) (accept : Nat) (v : Invalid) : Prop
  | accept : AcceptViolation table.size accept v → FirstViolation alphabet table accept v
  | entry {s : Nat} {row : Row} {y : Symbol} {ts : TargetSet} :
      AcceptOk table.size accept → table[s]? = some row → row[y]? = some ts →
      EntryViolation alphabet table.size s y ts v →
      (∀ s' row' y' ts', table[s']? = some row' → row'[y']? = some ts' →
        s' < s ∨ s' = s ∧ Text.utf8 y' < Text.utf8 y → EntryOk alphabet table.size y' ts') →
      FirstViolation alphabet table accept v

/-- In an ordered list the first element with an answer is the least one. -/
theorem findSome?_eq_some_iff_of_pairwise {α β : Type} {r : α → α → Prop} (hr : ∀ x y, r x y → ¬r y x)
    {l : List α} (hl : l.Pairwise r) {f : α → Option β} {b : β} :
    l.findSome? f = some b ↔ ∃ x ∈ l, f x = some b ∧ ∀ x' ∈ l, r x' x → f x' = none := by
  rw [List.findSome?_eq_some_iff]
  constructor
  · rintro ⟨before, x, after, rfl, hx, hbefore⟩
    refine ⟨x, by simp, hx, fun x' hx' hlt => ?_⟩
    obtain ⟨-, hrest, -⟩ := List.pairwise_append.mp hl
    rcases List.mem_append.mp hx' with hx' | hx'
    · exact hbefore x' hx'
    · rcases List.mem_cons.mp hx' with rfl | hx'
      · exact absurd hlt (hr _ _ hlt)
      · exact absurd hlt (hr _ _ ((List.pairwise_cons.mp hrest).1 x' hx'))
  · rintro ⟨x, hx, hfx, hleast⟩
    obtain ⟨before, after, rfl⟩ := List.append_of_mem hx
    obtain ⟨-, -, hcross⟩ := List.pairwise_append.mp hl
    refine ⟨before, x, after, rfl, hfx, fun x' hx' => ?_⟩
    exact hleast x' (List.mem_append_left _ hx') (hcross x' hx' x List.mem_cons_self)

section
variable {alphabet : Alphabet} {table : Table} {states s : Nat} {row : Row} {y : Symbol}
  {ts : TargetSet} {accept : Nat} {v : Invalid}

theorem acceptViolation?_eq_some_iff :
    acceptViolation? states accept = some v ↔ AcceptViolation states accept v := by
  unfold acceptViolation?
  constructor
  · intro h
    split at h
    · cases h
    · rename_i hout
      split at h
      · rename_i hsize
        split at h
        · cases h
        · rename_i haccept
          cases h
          exact .emptyTable hsize haccept
      · rename_i hsize
        cases h
        exact .outOfRange hsize (Nat.le_of_not_lt hout)
  · intro hv
    cases hv with
    | emptyTable hsize haccept => simp [hsize, haccept]
    | outOfRange hsize hout => simp [hsize, Nat.not_lt.mpr hout]

theorem AcceptViolation.not_acceptOk (h : AcceptViolation states accept v) : ¬AcceptOk states accept := by
  rw [← acceptViolation?_eq_none_iff, acceptViolation?_eq_some_iff.mpr h]
  exact nofun

theorem TargetSet.find?_states_eq_some_iff {n : Nat} :
    ts.states.find? (fun n => states ≤ n) = some n ↔
      Target.state n ∈ ts ∧ states ≤ n ∧ ∀ m, Target.state m ∈ ts → states ≤ m → n ≤ m := by
  rw [List.find?_eq_findSome?_guard,
    findSome?_eq_some_iff_of_pairwise (fun _ _ => Nat.lt_asymm) ts.ascending_states]
  simp only [TargetSet.mem_states, Option.guard_eq_some_iff, Option.guard_eq_none_iff,
    decide_eq_true_eq, decide_eq_false_iff_not]
  constructor
  · rintro ⟨x, hx, ⟨rfl, hout⟩, hleast⟩
    exact ⟨hx, hout, fun m hm hmout => Nat.le_of_not_lt fun hlt => hleast m hm hlt hmout⟩
  · rintro ⟨hn, hout, hleast⟩
    exact ⟨n, hn, ⟨rfl, hout⟩, fun m hm hlt hmout => absurd (hleast m hm hmout) (Nat.not_le.mpr hlt)⟩

theorem entryViolation?_eq_some_iff :
    entryViolation? alphabet states s y ts = some v ↔ EntryViolation alphabet states s y ts v := by
  unfold entryViolation?
  split
  · rename_i hy
    rw [Option.map_eq_some_iff]
    constructor
    · rintro ⟨n, hn, rfl⟩
      obtain ⟨hmem, hout, hleast⟩ := TargetSet.find?_states_eq_some_iff.mp hn
      exact .targetOutOfRange hy hmem hout hleast
    · intro hv
      cases hv with
      | unknownSymbol hepsilon halphabet => exact absurd hy (not_or.mpr ⟨hepsilon, halphabet⟩)
      | targetOutOfRange _ hmem hout hleast =>
        exact ⟨_, TargetSet.find?_states_eq_some_iff.mpr ⟨hmem, hout, hleast⟩, rfl⟩
  · rename_i hy
    obtain ⟨hepsilon, halphabet⟩ := not_or.mp hy
    constructor
    · rintro ⟨⟩
      exact .unknownSymbol hepsilon halphabet
    · intro hv
      cases hv with
      | unknownSymbol => rfl
      | targetOutOfRange hknown => exact absurd hknown hy

theorem rowViolation?_eq_some_iff :
    rowViolation? alphabet states s row = some v ↔ ∃ y ts, row[y]? = some ts ∧
      EntryViolation alphabet states s y ts v ∧
      ∀ y' ts', row[y']? = some ts' → Text.utf8 y' < Text.utf8 y → EntryOk alphabet states y' ts' := by
  have hasymm : ∀ e e' : Symbol × TargetSet, compare e.1 e'.1 = .lt → ¬compare e'.1 e.1 = .lt := by
    intro e e' h h'
    rw [Symbol.compare_eq_lt_iff] at h h'
    exact List.lt_asymm h h'
  rw [rowViolation?, findSome?_eq_some_iff_of_pairwise hasymm Std.ExtTreeMap.ordered_keys_toList]
  simp only [Prod.exists, Prod.forall, Std.ExtTreeMap.mem_toList_iff_getElem?_eq_some,
    entryViolation?_eq_some_iff, entryViolation?_eq_none_iff, Symbol.compare_eq_lt_iff]

theorem tableViolation?_eq_some_iff :
    (table.toList.zipIdx.findSome? fun (row, s) => rowViolation? alphabet states s row) = some v ↔
      ∃ s row, table[s]? = some row ∧ rowViolation? alphabet states s row = some v ∧
        ∀ s' row', table[s']? = some row' → s' < s → rowViolation? alphabet states s' row' = none := by
  have hordered : table.toList.zipIdx.Pairwise fun p p' => p.2 < p'.2 := by
    rw [← List.pairwise_map, List.zipIdx_map_snd]
    exact List.pairwise_lt_range'
  rw [findSome?_eq_some_iff_of_pairwise (fun _ _ => Nat.lt_asymm) hordered]
  simp only [Prod.exists, Prod.forall, List.mem_zipIdx_iff_getElem?, Array.getElem?_toList]
  constructor
  · rintro ⟨row, s, hrow, hv, hbefore⟩
    exact ⟨s, row, hrow, hv, fun s' row' => hbefore row' s'⟩
  · rintro ⟨s, row, hrow, hv, hbefore⟩
    exact ⟨row, s, hrow, hv, fun row' s' => hbefore s' row'⟩

theorem violation?_eq_some_iff :
    violation? alphabet table accept = some v ↔ FirstViolation alphabet table accept v := by
  unfold violation?
  split
  · rename_i v' hv'
    have hbad := (acceptViolation?_eq_some_iff.mp hv').not_acceptOk
    rw [← hv', acceptViolation?_eq_some_iff]
    constructor
    · exact .accept
    · intro hv
      cases hv with
      | accept hv => exact hv
      | entry hok => exact absurd hok hbad
  · rename_i hnone
    have hok : AcceptOk table.size accept := acceptViolation?_eq_none_iff.mp hnone
    rw [tableViolation?_eq_some_iff]
    constructor
    · rintro ⟨s, row, hrow, hv, hrows⟩
      obtain ⟨y, ts, hts, hv, hentries⟩ := rowViolation?_eq_some_iff.mp hv
      refine .entry hok hrow hts hv fun s' row' y' ts' hrow' hts' hlt => ?_
      obtain hlt | ⟨rfl, hlt⟩ := hlt
      · exact rowViolation?_eq_none_iff.mp (hrows s' row' hrow' hlt) y' ts' hts'
      · obtain rfl : row = row' := Option.some.inj (hrow.symm.trans hrow')
        exact hentries y' ts' hts' hlt
    · intro hv
      cases hv with
      | accept hv => exact absurd hok hv.not_acceptOk
      | @entry s row y ts _ hrow hts hv hbefore =>
        refine ⟨s, row, hrow, rowViolation?_eq_some_iff.mpr ⟨y, ts, hts, hv, fun y' ts' hts' hlt => ?_⟩,
          fun s' row' hrow' hlt => rowViolation?_eq_none_iff.mpr fun y' ts' hts' => ?_⟩
        · exact hbefore s row y' ts' hrow hts' (.inr ⟨rfl, hlt⟩)
        · exact hbefore s' row' y' ts' hrow' hts' (.inl hlt)

-- Both the symbol and its target are wrong.
example : violation? ∅ #[(∅ : Row).add "a" (.state 7)] 0 = some (.unknownSymbol 0 "a") := rfl

namespace Automaton

theorem make_eq_error_iff :
    make alphabet table accept = .error v ↔ FirstViolation alphabet table accept v := by
  rw [← violation?_eq_some_iff]
  unfold make
  split
  · rename_i v' hv'
    rw [hv', Except.error.injEq, Option.some.injEq]
  · rename_i hnone
    simp [hnone]

/-- Parts make an automaton, of exactly these parts, if and only if they are well formed. The first
violation is what is reported of others. -/
theorem make_eq_iff (alphabet : Alphabet) (table : Table) (accept : Nat) :
    (∀ a, make alphabet table accept = .ok a →
      a.alphabet = alphabet ∧ a.table = table ∧ a.accept = accept) ∧
    ((∃ a, make alphabet table accept = .ok a) ↔ WellFormed alphabet table accept) ∧
    ∀ v, make alphabet table accept = .error v ↔ FirstViolation alphabet table accept v := by
  refine ⟨fun a => make_eq_ok_iff.mp, ⟨?_, fun h => ?_⟩, fun v => make_eq_error_iff⟩
  · rintro ⟨a, ha⟩
    obtain ⟨rfl, rfl, rfl⟩ := make_eq_ok_iff.mp ha
    exact a.wellFormed
  · exact ⟨⟨alphabet, table, accept, h⟩, make_eq_ok_iff.mpr ⟨rfl, rfl, rfl⟩⟩

end Automaton

end

end Automata
