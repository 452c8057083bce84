/-!
# Faults

Faults are kept apart from errors: an error reports something about the input in words, a fault says that
the computation itself broke off.
-/

namespace Automata

/-- State numbers are below this bound, which is 2 to the power 64. -/
def stateLimit : Nat := 18446744073709551616

/-- A table that is made for all states up to a given one has at most this many rows: a row takes 24 bytes, and
the whole fewer than 2 to the power 63. -/
def rowLimit : Nat := 9223372036854775807 / 24

theorem rowLimit_lt_stateLimit : rowLimit < stateLimit := by decide

inductive Fault
  /-- A state number would not fit into 64 bits. -/
  | stateOverflow
  /-- A state number is too high for a table. -/
  | capacityOverflow
  /-- A state outside of the table was looked up. -/
  | noSuchState
  /-- The parts of an automaton that was put together are not well formed. -/
  | illFormed
  deriving DecidableEq, Repr

def addStates (a b : Nat) : Except Fault Nat :=
  if a + b < stateLimit then .ok (a + b) else .error .stateOverflow

theorem addStates_eq_ok_iff {a b c : Nat} : addStates a b = .ok c ↔ a + b < stateLimit ∧ c = a + b := by
  unfold addStates
  split
  · simp_all [eq_comm]
  · simp
    omega

inductive Failure (ε : Type)
  | error (e : ε)
  | fault (f : Fault)
  deriving DecidableEq, Repr

def Failure.map {ε ε' : Type} (g : ε → ε') : Failure ε → Failure ε'
  | .error e => .error (g e)
  | .fault f => .fault f

end Automata
