import Automata.Builder
import Automata.Construction.Copy

/-!
# Automata from automata

Concatenation, disjunction and repetition copy their operands into a fresh table and join the copies by
epsilon moves. Every result is judged again before it becomes an automaton.
-/

namespace Automata

/-- The row with an epsilon move to `dest`. The sink leaves the entry. -/
def Row.link (dest : Nat) (row : Row) : Row :=
  row.insert Symbol.epsilon (((row.targets Symbol.epsilon).erase .sink).insert (.state dest))

theorem Row.getElem?_link (dest : Nat) (row : Row) (y : Symbol) :
    (row.link dest)[y]? =
      if y = Symbol.epsilon then some (((row.targets y).erase .sink).insert (.state dest))
      else row[y]? := by
  rw [link, Std.ExtTreeMap.getElem?_insert]
  by_cases h : y = Symbol.epsilon
  · simp [h]
  · simp [h, Ne.symm h]

def Table.link (table : Table) (src dest : Nat) : Except Fault Table :=
  if src < table.size then .ok (table.modify src (Row.link dest)) else .error .noSuchState

namespace Automaton

def assemble (alphabet : Alphabet) (table : Table) (accept : Nat) : Except Fault Automaton :=
  (make alphabet table accept).mapError fun _ => .illFormed

/-- The number of rows that an operand takes up: an empty table is given one. -/
def footprint (a : Automaton) : Nat := max a.size 1

def mergedAlphabet (operands : List Automaton) : Alphabet :=
  Std.ExtTreeSet.ofList (Symbol.epsilon :: operands.flatMap fun a => a.alphabet.toList)

def symbol (y : Symbol) : Except (Failure BuildError) Automaton :=
  build [.accept 1, .move y 0 1, .sinkMove y 1]

theorem epsilon_wellFormed :
    WellFormed {Symbol.epsilon} #[Row.sinkOnly {Symbol.epsilon}] 0 where
  accept_ok := .inl (by simp)
  entry_ok s row hs y ts hy := by
    simp only [List.getElem?_toArray, List.getElem?_singleton] at hs
    split at hs
    · cases hs
      rw [Row.sinkOnly, Row.getElem?_tabulate] at hy
      split at hy
      · cases hy
        rename_i hmem
        exact ⟨.inr hmem, fun n hn => by simp at hn⟩
      · cases hy
    · cases hs

def epsilon : Automaton :=
  ⟨{Symbol.epsilon}, #[Row.sinkOnly {Symbol.epsilon}], 0, epsilon_wellFormed⟩

/-- The texts of `a` followed by the texts of `b`. The states of `a` keep their numbers and those of `b`
follow; the accept state of `a` leads on to the start of `b`. -/
def concat (a b : Automaton) : Except Fault Automaton := do
  let alphabet := mergedAlphabet [a, b]
  let right := a.footprint
  let first ← a.table.copy alphabet 0 0
  let second ← b.table.copy alphabet right 0
  let table ← (first ++ second).link a.accept right
  assemble alphabet table (← addStates right b.accept)

/-- The texts of `a` and the texts of `b`. A new start state leads into both, and both accept states lead
to a new accept state at the end of the table. -/
def disjunction (a b : Automaton) : Except Fault Automaton := do
  let alphabet := mergedAlphabet [a, b]
  let left := 1
  let right ← addStates left a.footprint
  let accept ← addStates right b.footprint
  -- The number of rows is computed ahead of the rows, so it has to fit as well.
  let _ ← addStates accept 1
  let first ← a.table.copy alphabet left 0
  let second ← b.table.copy alphabet right 0
  let table : Table := #[Row.sinkOnly alphabet] ++ first ++ second ++ #[Row.sinkOnly alphabet]
  let table ← table.link 0 left
  let table ← table.link 0 right
  let table ← table.link (← addStates left a.accept) accept
  let table ← table.link (← addStates right b.accept) accept
  assemble alphabet table accept

/-- Any number of texts of `a` in a row. State 0 is the start and the accept state; it leads into `a`, and
the accept state of `a` leads back to the start of `a` and to state 0. -/
def repetition (a : Automaton) : Except Fault Automaton := do
  let alphabet := mergedAlphabet [a]
  let start := 1
  let last ← addStates start a.accept
  let inner ← a.table.copy alphabet start 0
  let table : Table := #[Row.sinkOnly alphabet] ++ inner
  let table ← table.link 0 start
  let table ← table.link last start
  let table ← table.link last 0
  assemble alphabet table 0

end Automaton

end Automata
