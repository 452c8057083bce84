/-! Segments of a list. There is always one more than there are separators, so segments may be empty. -/

namespace Automata.Text

variable {α : Type} {p : α → Bool}

def segments (isSeparator : α → Bool) (xs : List α) : List (List α) :=
  xs.foldr (fun x later => if isSeparator x then [] :: later else later.modifyHead (x :: ·)) [[]]

theorem segments_nil : segments p [] = [[]] := rfl

theorem segments_cons (x : α) (xs : List α) :
    segments p (x :: xs) =
      if p x then [] :: segments p xs else (segments p xs).modifyHead (x :: ·) := rfl

theorem length_segments (xs : List α) : (segments p xs).length = xs.countP p + 1 := by
  induction xs with
  | nil => rfl
  | cons x xs ih =>
    rw [segments_cons]
    split <;> simp_all

theorem segments_of_forall {xs : List α} (h : ∀ x ∈ xs, p x = false) : segments p xs = [xs] := by
  induction xs with
  | nil => rfl
  | cons x xs ih => simp_all [segments_cons]

theorem segments_append_cons {xs ys : List α} {s : α} (h : ∀ x ∈ xs, p x = false) (hs : p s) :
    segments p (xs ++ s :: ys) = xs :: segments p ys := by
  induction xs with
  | nil => simp [segments_cons, hs]
  | cons x xs ih => simp_all [segments_cons]

end Automata.Text
