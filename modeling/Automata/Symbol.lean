import Std.Data.ExtTreeSet

/-! Symbols and alphabets. A symbol is a text, and one symbol may begin another. The empty symbol, epsilon,
consumes nothing. -/

namespace Automata

abbrev Symbol := String

/-- A finite set of symbols. Equal sets are equal values, and `toList` is ascending. -/
abbrev Alphabet := Std.ExtTreeSet Symbol

namespace Symbol

def epsilon : Symbol := ""

def dropLetters? : List Char → List Char → Option (List Char)
  | [], text => some text
  | _ :: _, [] => none
  | c :: letters, d :: text => if c = d then dropLetters? letters text else none

/-- The text left of `text` once `y` is read, when `y` is not empty and begins `text`. -/
def after? (y : Symbol) (text : List Char) : Option (List Char) :=
  if y = epsilon then none else dropLetters? y.toList text

theorem dropLetters?_eq_some_iff {letters text rest : List Char} :
    dropLetters? letters text = some rest ↔ text = letters ++ rest := by
  fun_induction dropLetters? letters text with
  | case1 text => simp
  | case2 => simp
  | case3 letters c text ih => simp [ih]
  | case4 c letters d text h => simp [Ne.symm h]

theorem after?_eq_some_iff {y : Symbol} {text rest : List Char} :
    y.after? text = some rest ↔ y ≠ epsilon ∧ text = y.toList ++ rest := by
  unfold after?
  split
  · simp_all
  · rw [dropLetters?_eq_some_iff]
    simp_all

theorem length_lt_of_after? {y : Symbol} {text rest : List Char} (h : y.after? text = some rest) :
    rest.length < text.length := by
  obtain ⟨hy, rfl⟩ := after?_eq_some_iff.mp h
  have : 0 < y.toList.length := by
    rw [List.length_pos_iff]
    simpa [epsilon] using hy
  simp only [List.length_append]
  omega

end Symbol

end Automata
