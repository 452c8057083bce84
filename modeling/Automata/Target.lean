import Automata.Fault
import Std.Data.ExtTreeSet

/-! Targets of transitions. States are ordered by their numbers and the sink comes last. -/

namespace Automata

inductive Target
  | state (n : Nat)
  | sink
  deriving DecidableEq, Repr

namespace Target

protected def compare : Target → Target → Ordering
  | .state a, .state b => Ord.compare a b
  | .state _, .sink => .lt
  | .sink, .state _ => .gt
  | .sink, .sink => .eq

instance : Ord Target := ⟨Target.compare⟩

@[simp] theorem compare_state_state (a b : Nat) :
    Ord.compare (Target.state a) (.state b) = Ord.compare a b := rfl
@[simp] theorem compare_state_sink (a : Nat) : Ord.compare (Target.state a) .sink = .lt := rfl
@[simp] theorem compare_sink_state (a : Nat) : Ord.compare Target.sink (.state a) = .gt := rfl
@[simp] theorem compare_sink_sink : Ord.compare Target.sink .sink = .eq := rfl

instance : Std.OrientedOrd Target where
  eq_swap {a b} := by
    cases a <;> cases b <;> simp
    exact @Std.OrientedCmp.eq_swap Nat Ord.compare _ _ _

instance : Std.TransOrd Target where
  isLE_trans {a b c} := by
    cases a <;> cases b <;> cases c <;> simp
    exact @Std.TransCmp.isLE_trans Nat Ord.compare _ _ _ _

instance : Std.LawfulEqOrd Target where
  eq_of_compare {a b} := by
    cases a <;> cases b <;> simp

def state? : Target → Option Nat
  | .state n => some n
  | .sink => none

def shift (offset : Nat) : Target → Except Fault Target
  | .state n => .state <$> addStates n offset
  | .sink => .ok .sink

def render : Target → String
  | .state n => toString n
  | .sink => "-"

end Target

abbrev TargetSet := Std.ExtTreeSet Target

namespace TargetSet

def states (ts : TargetSet) : List Nat := ts.toList.filterMap Target.state?

theorem mem_states {ts : TargetSet} {n : Nat} : n ∈ ts.states ↔ Target.state n ∈ ts := by
  simp only [states, List.mem_filterMap, Std.ExtTreeSet.mem_toList]
  constructor
  · rintro ⟨t, ht, hn⟩
    cases t <;> simp_all [Target.state?]
  · exact fun h => ⟨_, h, rfl⟩

theorem ascending_states (ts : TargetSet) : ts.states.Pairwise (· < ·) := by
  have hascending : ts.toList.Pairwise (Ord.compare · · = .lt) := Std.ExtTreeSet.ordered_toList
  refine hascending.filterMap _ fun t t' h n hn n' hn' => ?_
  cases t with
  | sink => cases hn
  | state m =>
    cases t' with
    | sink => cases hn'
    | state m' =>
      cases hn
      cases hn'
      exact Nat.compare_eq_lt.mp h

end TargetSet

end Automata
