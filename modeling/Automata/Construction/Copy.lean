import Automata.Table

/-!
# Copies of tables

Every row of a copy has an entry for every symbol of the new alphabet; where there was no target it holds
the sink alone. An empty table is copied like one row without transitions.
-/

namespace Automata

namespace Target

/-- The target moved up; see `shift` for the range of states. -/
def moveBy (offset : Nat) : Target → Target
  | .state n => .state (n + offset)
  | .sink => .sink

theorem shift_eq_ok_iff {offset : Nat} {t t' : Target} :
    t.shift offset = .ok t' ↔ (∀ n, t = .state n → n + offset < stateLimit) ∧ t' = t.moveBy offset := by
  cases t with
  | sink => simp [shift, moveBy, eq_comm]
  | state n =>
    simp only [shift, moveBy, addStates, Functor.map, state.injEq, forall_eq']
    split
    · simp_all [Except.map, eq_comm]
    · simp only [Except.map, reduceCtorEq, false_iff, not_and]
      omega

end Target

def TargetSet.moveBy (offset : Nat) (ts : TargetSet) : TargetSet :=
  Std.ExtTreeSet.ofList (ts.toList.map (Target.moveBy offset))

theorem TargetSet.mem_moveBy {offset : Nat} {ts : TargetSet} {t : Target} :
    t ∈ ts.moveBy offset ↔ ∃ u ∈ ts, u.moveBy offset = t := by
  simp [moveBy, Std.ExtTreeSet.mem_ofList]

namespace Row

def sinkOnly (alphabet : Alphabet) : Row := tabulate alphabet fun _ => {Target.sink}

def copiedTargets (offset : Nat) (row : Row) (y : Symbol) : TargetSet :=
  if (row.targets y).isEmpty then {Target.sink} else (row.targets y).moveBy offset

def copy (alphabet : Alphabet) (offset : Nat) (row : Row) : Row :=
  tabulate alphabet (row.copiedTargets offset)

theorem getElem?_copy (alphabet : Alphabet) (offset : Nat) (row : Row) (y : Symbol) :
    (row.copy alphabet offset)[y]? =
      if y ∈ alphabet then some (row.copiedTargets offset y) else none :=
  getElem?_tabulate ..

def fits (alphabet : Alphabet) (offset : Nat) (row : Row) : Bool :=
  alphabet.toList.all fun y => (row.targets y).states.all fun n => n + offset < stateLimit

end Row

namespace Table

/-- The rows that a table takes up in a copy. -/
def padded (table : Table) : Table := if table.isEmpty then #[∅] else table

/-- A copy without the first `skipped` rows. Only the rows and symbols that are copied can leave the
range of states. -/
def copy (table : Table) (alphabet : Alphabet) (offset skipped : Nat) : Except Fault Table :=
  let rows := table.padded.extract skipped
  if rows.all (Row.fits alphabet offset) then .ok (rows.map (Row.copy alphabet offset))
  else .error .stateOverflow

end Table

end Automata
