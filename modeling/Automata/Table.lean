import Automata.Symbol
import Automata.Target
import Std.Data.ExtTreeMap

/-! Transition tables. A symbol without an entry and a symbol with an empty set both have no targets, but
they are different rows. -/

namespace Automata

abbrev Row := Std.ExtTreeMap Symbol TargetSet

/-- The row of state `n` is entry `n`. -/
abbrev Table := Array Row

namespace Row

def targets (row : Row) (y : Symbol) : TargetSet := row.getD y ∅

def add (row : Row) (y : Symbol) (t : Target) : Row := row.insert y ((row.targets y).insert t)

def tabulate (alphabet : Alphabet) (f : Symbol → TargetSet) : Row :=
  Std.ExtTreeMap.ofList (alphabet.toList.map fun y => (y, f y))

theorem targets_eq (row : Row) (y : Symbol) : row.targets y = row[y]?.getD ∅ := by
  simp [targets, Std.ExtTreeMap.getD_eq_getD_getElem?]

theorem getElem?_add (row : Row) (y z : Symbol) (t : Target) :
    (row.add y t)[z]? = if y = z then some ((row.targets y).insert t) else row[z]? := by
  simp [add, Std.ExtTreeMap.getElem?_insert]

theorem getElem?_tabulate (alphabet : Alphabet) (f : Symbol → TargetSet) (y : Symbol) :
    (tabulate alphabet f)[y]? = if y ∈ alphabet then some (f y) else none := by
  unfold tabulate
  split
  · rename_i h
    apply Std.ExtTreeMap.getElem?_ofList_of_mem (k := y) (by simp)
    · rw [List.pairwise_map]
      exact Std.ExtTreeSet.distinct_toList (t := alphabet)
    · exact List.mem_map.mpr ⟨y, Std.ExtTreeSet.mem_toList.mpr h, rfl⟩
  · rename_i h
    apply Std.ExtTreeMap.getElem?_ofList_of_contains_eq_false
    simpa [List.map_map, Function.comp_def, Std.ExtTreeSet.mem_toList] using h

end Row

end Automata
