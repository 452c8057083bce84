import Automata.Automaton.Basic

/-!
# The search for an accepting run

`explore` searches depth first. At one position of the text it keeps the set of states it has expanded, so
that epsilon cycles end; a symbol move leads to a search with an empty set. Expanding a state puts its moves
in front of the tasks, epsilon moves first. Every arrival at a state is recorded.
-/

namespace Automata

abbrev StateSet := Std.ExtTreeSet Nat

/-- An arrival at a state. -/
structure Visit where
  state : Nat
  /-- The text that is left. -/
  rest : List Char
  /-- The number of moves on the way from the start. -/
  depth : Nat
  /-- Whether the moves that leave the state were put on the agenda. -/
  expanded : Bool
  deriving DecidableEq, Repr

inductive Task (text : List Char)
  /-- Go to a state, consuming nothing. -/
  | visit (state depth : Nat)
  /-- Go to a state with the shorter text `rest`. -/
  | read (rest : List Char) (shorter : rest.length < text.length) (state depth : Nat)

structure Outcome where
  found : Bool
  /-- The states expanded at the position where the search ended. -/
  seen : StateSet
  /-- All visits, the latest first. -/
  trail : List Visit

namespace Automaton

def symbolTasks (a : Automaton) (text : List Char) (s depth : Nat) (y : Symbol) : List (Task text) :=
  match h : y.after? text with
  | some rest => (a.targets s y).map fun t => .read rest (Symbol.length_lt_of_after? h) t depth
  | none => []

/-- The moves that leave `s`: epsilon moves, then the symbols that begin the text. -/
def tasks (a : Automaton) (text : List Char) (s depth : Nat) : List (Task text) :=
  (a.targets s Symbol.epsilon).map (.visit · depth) ++
    a.alphabet.toList.flatMap (a.symbolTasks text s depth)

def unseen (a : Automaton) (seen : StateSet) : Nat := (List.range a.size).countP (· ∉ seen)

theorem tasks_eq_nil {a : Automaton} {s : Nat} (h : a.size ≤ s) (text : List Char) (depth : Nat) :
    a.tasks text s depth = [] := by
  simp only [tasks, targets_eq_nil h, List.map_nil, List.nil_append, List.flatMap_eq_nil_iff]
  intro y _
  unfold symbolTasks
  split
  · simp [targets_eq_nil h]
  · rfl

theorem unseen_insert_le (a : Automaton) (seen : StateSet) (s : Nat) :
    a.unseen (seen.insert s) ≤ a.unseen seen := by
  apply List.countP_mono_left
  simp +contextual [Std.ExtTreeSet.mem_insert]

theorem unseen_insert_lt {a : Automaton} {seen : StateSet} {s : Nat} (hs : s < a.size)
    (h : s ∉ seen) : a.unseen (seen.insert s) < a.unseen seen := by
  obtain ⟨before, after, hl⟩ := List.append_of_mem (List.mem_range.mpr hs)
  have mono : ∀ l : List Nat, l.countP (· ∉ seen.insert s) ≤ l.countP (· ∉ seen) := fun l =>
    List.countP_mono_left (by simp +contextual [Std.ExtTreeSet.mem_insert])
  have h₁ := mono before
  have h₂ := mono after
  have hin : s ∈ seen.insert s := by simp
  simp only [unseen, hl, List.countP_append, List.countP_cons, h, hin, not_true_eq_false,
    not_false_eq_true, decide_true, decide_false, if_true, Bool.false_eq_true, if_false]
  omega

/-- Works through the agenda until the accept state is reached with nothing left. -/
def explore (a : Automaton) (text : List Char) (agenda : List (Task text)) (seen : StateSet)
    (trail : List Visit) : Outcome :=
  match agenda with
  | [] => ⟨false, seen, trail⟩
  | .read rest _ s depth :: agenda =>
    let inner := a.explore rest [.visit s depth] ∅ trail
    if inner.found then inner else a.explore text agenda seen inner.trail
  | .visit s depth :: agenda =>
    if text = [] ∧ s = a.accept then ⟨true, seen, ⟨s, text, depth, false⟩ :: trail⟩
    else if s ∈ seen then a.explore text agenda seen (⟨s, text, depth, false⟩ :: trail)
    else
      a.explore text (a.tasks text s (depth + 1) ++ agenda) (seen.insert s)
        (⟨s, text, depth, true⟩ :: trail)
termination_by (text.length, a.unseen seen, agenda.length)
decreasing_by
  · exact Prod.Lex.left _ _ ‹_›
  · exact Prod.Lex.right _ (Prod.Lex.right _ (by simp))
  · exact Prod.Lex.right _ (Prod.Lex.right _ (by simp))
  · apply Prod.Lex.right
    by_cases hs : s < a.size
    · exact Prod.Lex.left _ _ (unseen_insert_lt hs ‹_›)
    · rw [tasks_eq_nil (Nat.le_of_not_lt hs)]
      rcases Nat.lt_or_eq_of_le (unseen_insert_le a seen s) with h | h
      · exact Prod.Lex.left _ _ h
      · rw [h]
        exact Prod.Lex.right _ (by simp)

/-- The search over a whole text. An automaton without states has nothing to explore and accepts the
empty text alone. -/
def search (a : Automaton) (text : String) : Outcome :=
  if a.table.isEmpty then ⟨text.isEmpty, ∅, []⟩ else a.explore text.toList [.visit 0 0] ∅ []

def accepts (a : Automaton) (text : String) : Bool := (a.search text).found

def visits (a : Automaton) (text : String) : List Visit := (a.search text).trail.reverse

end Automaton

end Automata
