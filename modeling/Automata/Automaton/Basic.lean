import Automata.Table

/-!
# Automata

The table of an automaton may be empty; such an automaton accepts the empty text alone. `violation?` names
the first thing that is wrong with the parts of an automaton, and an `Automaton` carries that it finds none.
-/

namespace Automata

inductive Invalid
  /-- The table is empty and the accept state is not 0. -/
  | emptyTable (accept : Nat)
  /-- The accept state is not a state of the table. -/
  | acceptOutOfRange (accept states : Nat)
  /-- A transition leads to a state that is not in the table. -/
  | targetOutOfRange (state : Nat) (symbol : Symbol) (target states : Nat)
  /-- A transition uses a symbol that is neither empty nor in the alphabet. -/
  | unknownSymbol (state : Nat) (symbol : Symbol)
  deriving DecidableEq, Repr

def Invalid.message : Invalid → String
  | .emptyTable accept => s!"Empty transition table with accept state {accept}."
  | .acceptOutOfRange accept states =>
    s!"Accept state {accept} out of range, the automaton has {states} states."
  | .targetOutOfRange state symbol target states =>
    s!"Transition ('{symbol}',{state}) targets {target}, the automaton has {states} states."
  | .unknownSymbol state symbol =>
    s!"Transition ('{symbol}',{state}) uses a symbol outside of the alphabet."

-- ---------------------------------------------------------------------------
-- Well-formed parts
-- ---------------------------------------------------------------------------

def AcceptOk (states accept : Nat) : Prop := accept < states ∨ states = 0 ∧ accept = 0

def EntryOk (alphabet : Alphabet) (states : Nat) (y : Symbol) (ts : TargetSet) : Prop :=
  (y = Symbol.epsilon ∨ y ∈ alphabet) ∧ ∀ n, Target.state n ∈ ts → n < states

/-- The accept state and all targets are states of the table, and all symbols are known. -/
structure WellFormed (alphabet : Alphabet) (table : Table) (accept : Nat) : Prop where
  accept_ok : AcceptOk table.size accept
  entry_ok : ∀ (s : Nat) (row : Row), table[s]? = some row →
    ∀ (y : Symbol) (ts : TargetSet), row[y]? = some ts → EntryOk alphabet table.size y ts

def acceptViolation? (states accept : Nat) : Option Invalid :=
  if accept < states then none
  else if states = 0 then if accept = 0 then none else some (.emptyTable accept)
  else some (.acceptOutOfRange accept states)

/-- An unknown symbol is named before a target out of range, of which the smallest is named. -/
def entryViolation? (alphabet : Alphabet) (states state : Nat) (y : Symbol) (ts : TargetSet) :
    Option Invalid :=
  if y = Symbol.epsilon ∨ y ∈ alphabet then
    (ts.states.find? fun n => states ≤ n).map (.targetOutOfRange state y · states)
  else some (.unknownSymbol state y)

def rowViolation? (alphabet : Alphabet) (states state : Nat) (row : Row) : Option Invalid :=
  row.toList.findSome? fun (y, ts) => entryViolation? alphabet states state y ts

def violation? (alphabet : Alphabet) (table : Table) (accept : Nat) : Option Invalid :=
  match acceptViolation? table.size accept with
  | some v => some v
  | none => table.toList.zipIdx.findSome? fun (row, state) => rowViolation? alphabet table.size state row

theorem acceptViolation?_eq_none_iff {states accept : Nat} :
    acceptViolation? states accept = none ↔ AcceptOk states accept := by
  unfold acceptViolation? AcceptOk
  split <;> simp_all
  split <;> simp_all

theorem entryViolation?_eq_none_iff {alphabet : Alphabet} {states state : Nat} {y : Symbol}
    {ts : TargetSet} :
    entryViolation? alphabet states state y ts = none ↔ EntryOk alphabet states y ts := by
  unfold entryViolation? EntryOk
  split <;> simp_all [TargetSet.mem_states]

theorem rowViolation?_eq_none_iff {alphabet : Alphabet} {states state : Nat} {row : Row} :
    rowViolation? alphabet states state row = none ↔
      ∀ (y : Symbol) (ts : TargetSet), row[y]? = some ts → EntryOk alphabet states y ts := by
  simp [rowViolation?, entryViolation?_eq_none_iff, Std.ExtTreeMap.mem_toList_iff_getElem?_eq_some]

theorem violation?_eq_none_iff {alphabet : Alphabet} {table : Table} {accept : Nat} :
    violation? alphabet table accept = none ↔ WellFormed alphabet table accept := by
  have rows : (table.toList.zipIdx.findSome? fun (row, state) =>
      rowViolation? alphabet table.size state row) = none ↔
      ∀ (s : Nat) (row : Row), table[s]? = some row →
        ∀ (y : Symbol) (ts : TargetSet), row[y]? = some ts → EntryOk alphabet table.size y ts := by
    simp only [List.findSome?_eq_none_iff, Prod.forall, List.mem_zipIdx_iff_getElem?,
      rowViolation?_eq_none_iff, Array.getElem?_toList]
    exact ⟨fun h s row => h row s, fun h row s => h s row⟩
  unfold violation?
  split
  · rename_i v hv
    refine iff_of_false (by simp) fun h => ?_
    rw [acceptViolation?_eq_none_iff.mpr h.accept_ok] at hv
    cases hv
  · rename_i hv
    rw [rows]
    exact ⟨fun h => ⟨acceptViolation?_eq_none_iff.mp hv, h⟩, fun h => h.entry_ok⟩

-- ---------------------------------------------------------------------------
-- The type of automata
-- ---------------------------------------------------------------------------

structure Automaton where
  alphabet : Alphabet
  table : Table
  accept : Nat
  wellFormed : WellFormed alphabet table accept

namespace Automaton

def make (alphabet : Alphabet) (table : Table) (accept : Nat) : Except Invalid Automaton :=
  match h : violation? alphabet table accept with
  | some v => .error v
  | none => .ok ⟨alphabet, table, accept, violation?_eq_none_iff.mp h⟩

theorem make_eq_ok_iff {alphabet : Alphabet} {table : Table} {accept : Nat} {a : Automaton} :
    make alphabet table accept = .ok a ↔
      a.alphabet = alphabet ∧ a.table = table ∧ a.accept = accept := by
  unfold make
  constructor
  · intro h
    split at h
    · cases h
    · cases h
      exact ⟨rfl, rfl, rfl⟩
  · rintro ⟨rfl, rfl, rfl⟩
    split
    · rename_i v h
      rw [violation?_eq_none_iff.mpr a.wellFormed] at h
      cases h
    · rfl

theorem ext {a b : Automaton} (alphabet : a.alphabet = b.alphabet) (table : a.table = b.table)
    (accept : a.accept = b.accept) : a = b := by
  cases a
  cases b
  simp_all

def size (a : Automaton) : Nat := a.table.size

/-- The states that a transition leads to from `s` under `y`, ascending; the sink is left out. There is
no answer for a state outside of the table. -/
def targets? (a : Automaton) (s : Nat) (y : Symbol) : Option (List Nat) :=
  a.table[s]?.map fun row => (row.targets y).states

def targets (a : Automaton) (s : Nat) (y : Symbol) : List Nat := (a.targets? s y).getD []

theorem targets_eq_nil {a : Automaton} {s : Nat} (h : a.size ≤ s) (y : Symbol) :
    a.targets s y = [] := by
  simp only [size] at h
  simp [targets, targets?, h]

instance : DecidableEq Automaton := fun a b =>
  if h : a.alphabet = b.alphabet ∧ a.table = b.table ∧ a.accept = b.accept then
    isTrue (by
      cases a
      cases b
      simp_all)
  else isFalse (by rintro rfl; exact h ⟨rfl, rfl, rfl⟩)

end Automaton

end Automata
