import Automata.Expr
import Automata.Proofs.Assembly
import Automata.Proofs.Exploration
import Automata.Proofs.Failures

/-!
# Values of expressions

The value of an expression does not depend on what was logged before (`Expr.eval_gives`). As long as its
table stays below the limit of state numbers (`Expr.rows`), an expression fails only with the failure of one
of its leaves (`Expr.Settles`).
-/

namespace Automata

namespace Logged

variable {ε α β : Type}

/-- The computation has this result, whatever was logged before. -/
def Gives (m : Logged ε α) (result : Except (Failure ε) α) : Prop :=
  ∀ events, (m.run.run events).1 = result

theorem Gives.report_eq {m : Logged ε α} {result : Except (Failure ε) α} (h : m.Gives result) :
    m.report.1 = result := h []

theorem Gives.report {m : Logged ε α} {result : Except (Failure ε) α} (h : m.Gives result) :
    m.Gives m.report.1 := by
  rw [h.report_eq]
  exact h

theorem gives_pure (a : α) : (pure a : Logged ε α).Gives (.ok a) := fun _ => rfl

theorem gives_throw (e : Failure ε) : (throw e : Logged ε α).Gives (.error e) := fun _ => rfl

theorem gives_liftM (result : Except (Failure ε) α) : (liftM result : Logged ε α).Gives result := by
  intro events
  cases result <;> rfl

theorem gives_emit (e : Event) : (emit e : Logged ε Unit).Gives (.ok ()) := fun _ => rfl

theorem Gives.bind {m : Logged ε α} {f : α → Logged ε β} {result : Except (Failure ε) α}
    {g : α → Except (Failure ε) β} (hm : m.Gives result) (hf : ∀ a, (f a).Gives (g a)) :
    (m >>= f).Gives (result >>= g) := by
  intro events
  have hresult := hm events
  rw [ExceptT.run_bind, StateT.run_bind]
  cases hrun : m.run.run events with
  | mk outcome later =>
    rw [hrun] at hresult
    subst hresult
    cases outcome with
    | error e => rfl
    | ok a => exact hf a later

theorem gives_emit_last (result : Except (Failure ε) α) (e : α → Event) :
    (do let a ← liftM result; emit (e a); return a : Logged ε α).Gives result := by
  have h := (gives_liftM result).bind fun a => (gives_emit (e a)).bind fun _ => gives_pure a
  -- The binds at the end reduce only once it is known whether there is a value.
  cases result <;> exact h

end Logged

-- ---------------------------------------------------------------------------
-- Expressions
-- ---------------------------------------------------------------------------

namespace Expr

def ofFault (outcome : Except Fault Automaton) : Except (Failure EvalError) Automaton :=
  outcome.mapError .fault

section
variable {names : String → Option Automaton} {x y : Expr}

-- ---------------------------------------------------------------------------
-- The value of each kind of expression
-- ---------------------------------------------------------------------------

theorem gives_concat {v w : Except (Failure EvalError) Automaton} (hx : (x.eval names).Gives v)
    (hy : (y.eval names).Gives w) : ((x.concat y).eval names).Gives (do
      let a ← v
      let b ← w
      ofFault (a.concat b)) :=
  hx.bind fun a => hy.bind fun b =>
    Logged.gives_emit_last (ofFault (a.concat b)) fun c => .concatenated a.size b.size c.size

theorem gives_disjunction {v w : Except (Failure EvalError) Automaton} (hx : (x.eval names).Gives v)
    (hy : (y.eval names).Gives w) : ((x.disjunction y).eval names).Gives (do
      let a ← v
      let b ← w
      ofFault (a.disjunction b)) :=
  hx.bind fun a => hy.bind fun b =>
    Logged.gives_emit_last (ofFault (a.disjunction b)) fun c => .joined a.size b.size c.size

theorem gives_repetition {v : Except (Failure EvalError) Automaton} (hx : (x.eval names).Gives v) :
    (x.repetition.eval names).Gives (do ofFault (← v).repetition) :=
  hx.bind fun a => Logged.gives_emit_last (ofFault a.repetition) fun c => .repeated a.size c.size

theorem gives_described (text : String) : ((described text).eval names).Gives
    ((Automaton.read text).mapError (Failure.map .read)) := by
  rw [eval, Eval.ofRead]
  exact Logged.gives_emit_last _ fun a : Automaton => .described a.size

theorem gives_name (n : String) : ((name n).eval names).Gives
    (match names n with
      | some a => .ok a
      | none => .error (.error (.unknownName n))) := by
  rw [eval]
  cases names n with
  | some a => exact Logged.gives_pure a
  | none => exact Logged.gives_throw _

theorem eval_gives (x : Expr) : (x.eval names).Gives (x.value names) := by
  induction x with
  | parts => exact (Logged.gives_liftM _).report
  | built => exact (Logged.gives_liftM _).report
  | described text => exact (gives_described text).report
  | symbol => exact (Logged.gives_liftM _).report
  | epsilon => exact (Logged.gives_pure _).report
  | concat x y hx hy => exact (gives_concat hx hy).report
  | disjunction x y hx hy => exact (gives_disjunction hx hy).report
  | repetition x hx => exact (gives_repetition hx).report
  | name n => exact (gives_name n).report

theorem value_symbol (y : Symbol) :
    (symbol y).value names = (Automaton.symbol y).mapError (Failure.map .build) :=
  (Logged.gives_liftM _).report_eq

theorem value_concat : (concat x y).value names = (do
    let a ← x.value names
    let b ← y.value names
    ofFault (a.concat b)) :=
  (gives_concat (eval_gives x) (eval_gives y)).report_eq

theorem value_disjunction : (disjunction x y).value names = (do
    let a ← x.value names
    let b ← y.value names
    ofFault (a.disjunction b)) :=
  (gives_disjunction (eval_gives x) (eval_gives y)).report_eq

theorem value_repetition : (repetition x).value names = (do ofFault (← x.value names).repetition) :=
  (gives_repetition (eval_gives x)).report_eq

-- ---------------------------------------------------------------------------
-- Rows and leaves
-- ---------------------------------------------------------------------------

/-- The rows of the table that an expression stands for. A leaf that fails has none. -/
def rows (names : String → Option Automaton) : Expr → Nat
  | .concat x y => max (x.rows names) 1 + max (y.rows names) 1
  | .disjunction x y => max (x.rows names) 1 + max (y.rows names) 1 + 2
  | .repetition x => max (x.rows names) 1 + 1
  | leaf => (leaf.value names).toOption.elim 0 Automaton.size

def leaves : Expr → List Expr
  | .concat x y | .disjunction x y => x.leaves ++ y.leaves
  | .repetition x => x.leaves
  | leaf => [leaf]

/-- There is a value with that many rows, or one of the leaves is the reason why there is none. -/
def Settles (names : String → Option Automaton) (x : Expr) : Prop :=
  (∃ a, x.value names = .ok a ∧ a.size = x.rows names) ∨
    ∃ e, x.value names = .error e ∧ ∃ leaf ∈ x.leaves, leaf.value names = .error e

theorem settles_leaf (hrows : x.rows names = (x.value names).toOption.elim 0 Automaton.size)
    (hleaves : x.leaves = [x]) : x.Settles names := by
  cases h : x.value names with
  | ok a => exact .inl ⟨a, h, by rw [hrows, h]; rfl⟩
  | error e => exact .inr ⟨e, h, x, by rw [hleaves]; exact List.mem_cons_self, h⟩

theorem Settles.binary {z : Expr} {op : Automaton → Automaton → Except Fault Automaton} {extra : Nat}
    (hx : x.Settles names) (hy : y.Settles names)
    (hvalue : z.value names = do
      let a ← x.value names
      let b ← y.value names
      ofFault (op a b))
    (hrows : z.rows names = max (x.rows names) 1 + max (y.rows names) 1 + extra)
    (hleaves : z.leaves = x.leaves ++ y.leaves)
    (hop : ∀ a b : Automaton, a.footprint + b.footprint + extra = z.rows names →
      ∃ c, op a b = .ok c ∧ c.size = a.footprint + b.footprint + extra) : z.Settles names := by
  rcases hx with ⟨a, ha, hsizeA⟩ | ⟨e, he, leaf, hleaf, hfail⟩
  · rcases hy with ⟨b, hb, hsizeB⟩ | ⟨e, he, leaf, hleaf, hfail⟩
    · have hsize : a.footprint + b.footprint + extra = z.rows names := by
        rw [hrows, ← hsizeA, ← hsizeB, Automaton.footprint, Automaton.footprint]
      obtain ⟨c, hc, hsizeC⟩ := hop a b hsize
      refine .inl ⟨c, ?_, hsizeC.trans hsize⟩
      rw [hvalue, ha, hb, ok_bind, ok_bind, hc]
      rfl
    · refine .inr ⟨e, ?_, leaf, ?_, hfail⟩
      · rw [hvalue, ha, he, ok_bind]
        rfl
      · rw [hleaves]
        exact List.mem_append_right _ hleaf
  · refine .inr ⟨e, ?_, leaf, ?_, hfail⟩
    · rw [hvalue, he]
      rfl
    · rw [hleaves]
      exact List.mem_append_left _ hleaf

theorem Settles.repetition (hx : x.Settles names) (h : x.repetition.rows names < stateLimit) :
    x.repetition.Settles names := by
  rcases hx with ⟨a, ha, hsizeA⟩ | ⟨e, he, hleaf⟩
  · have hsize : a.footprint + 1 = x.repetition.rows names := by
      rw [rows, ← hsizeA, Automaton.footprint]
    obtain ⟨c, hc, -, htable, -⟩ := Automaton.repetition_eq_ok (a := a) (by omega)
    refine .inl ⟨c, ?_, (Automaton.size_of_repetitionTable htable).trans hsize⟩
    rw [value_repetition, ha, ok_bind, hc]
    rfl
  · refine .inr ⟨e, ?_, hleaf⟩
    rw [value_repetition, he]
    rfl

/-- The combinators add no failure of their own, not even a fault. -/
theorem settles (x : Expr) (h : x.rows names < stateLimit) : x.Settles names := by
  induction x with
  | concat x y hx hy =>
    have hrows : (concat x y).rows names = max (x.rows names) 1 + max (y.rows names) 1 + 0 := rfl
    refine (hx (by omega)).binary (hy (by omega)) value_concat hrows rfl fun a b hab => ?_
    obtain ⟨c, hc, -, htable, -⟩ := Automaton.concat_eq_ok (a := a) (b := b) (by omega)
    exact ⟨c, hc, Automaton.size_of_concatTable htable⟩
  | disjunction x y hx hy =>
    have hrows : (disjunction x y).rows names = max (x.rows names) 1 + max (y.rows names) 1 + 2 := rfl
    refine (hx (by omega)).binary (hy (by omega)) value_disjunction hrows rfl fun a b hab => ?_
    obtain ⟨c, hc, -, htable, -⟩ := Automaton.disjunction_eq_ok (a := a) (b := b) (by omega)
    exact ⟨c, hc, Automaton.size_of_disjunctionTable htable⟩
  | repetition x hx =>
    have hrows : (repetition x).rows names = max (x.rows names) 1 + 1 := rfl
    exact (hx (by omega)).repetition h
  | _ => exact settles_leaf rfl rfl

theorem Settles.failsOnly {P : Failure EvalError → Prop} (h : x.Settles names)
    (hleaves : ∀ leaf ∈ x.leaves, FailsOnly P (leaf.value names)) : FailsOnly P (x.value names) := by
  rcases h with ⟨a, ha, -⟩ | ⟨e, he, leaf, hleaf, hfail⟩
  · rw [ha]
    exact failsOnly_ok a
  · rw [he, ← hfail]
    exact hleaves leaf hleaf

theorem failsOnly_of_gives {P : Failure EvalError → Prop} {result : Except (Failure EvalError) Automaton}
    (hx : (x.eval names).Gives result) (h : FailsOnly P result) : FailsOnly P (x.value names) := by
  rw [value, hx.report_eq]
  exact h

theorem failsOnly_leaf (x : Expr) :
    ∀ leaf ∈ x.leaves, FailsOnly (Failure.FaultIn Fault.Overflow) (leaf.value names) := by
  induction x with
  | parts alphabet table accept =>
    refine List.forall_mem_singleton.mpr (failsOnly_of_gives (Logged.gives_liftM _) ?_)
    exact (failsOnly_mapError _ _).map _
  | built steps =>
    refine List.forall_mem_singleton.mpr (failsOnly_of_gives (Logged.gives_liftM _) ?_)
    exact (Automaton.failsOnly_build steps).map _
  | described text =>
    refine List.forall_mem_singleton.mpr (failsOnly_of_gives (gives_described text) ?_)
    exact (Description.failsOnly_readLines _).map _
  | symbol y =>
    refine List.forall_mem_singleton.mpr (failsOnly_of_gives (Logged.gives_liftM _) ?_)
    exact (Automaton.failsOnly_build _).map _
  | epsilon => exact List.forall_mem_singleton.mpr (failsOnly_ok _)
  | name n =>
    refine List.forall_mem_singleton.mpr (failsOnly_of_gives (gives_name n) ?_)
    cases names n with
    | some a => exact failsOnly_ok a
    | none => exact failsOnly_error trivial
  | concat x y hx hy => exact List.forall_mem_append.mpr ⟨hx, hy⟩
  | disjunction x y hx hy => exact List.forall_mem_append.mpr ⟨hx, hy⟩
  | repetition x hx => exact hx

-- ---------------------------------------------------------------------------
-- All values
-- ---------------------------------------------------------------------------

/-- As long as no table reaches the limit of state numbers, an expression fails only with the failure of
one of its leaves, and breaks off only where a state of a builder step or of a description does not fit
into 64 bits or into a table. Its value has as many rows as the leaves say, an accept state and targets
in the table, known symbols only, and a search of any text stays inside the table. Automata that come
from elsewhere, such as a file, are the values of names. -/
theorem value_sound (names : String → Option Automaton) (x : Expr) (h : x.rows names < stateLimit) :
    (∀ e, x.value names = .error e → ∃ leaf ∈ x.leaves, leaf.value names = .error e) ∧
      (∀ f, x.value names = .error (.fault f) → f = .stateOverflow ∨ f = .capacityOverflow) ∧
      ∀ a, x.value names = .ok a →
        a.size = x.rows names ∧
        (a.accept < a.size ∨ a.size = 0 ∧ a.accept = 0) ∧
        (∀ (s : Nat) (row : Row), a.table[s]? = some row →
          ∀ (y : Symbol) (ts : TargetSet), row[y]? = some ts →
            (y = Symbol.epsilon ∨ y ∈ a.alphabet) ∧ ∀ n, Target.state n ∈ ts → n < a.size) ∧
        ∀ text, ∀ v ∈ a.visits text, v.state < a.size := by
  have hsettles := settles x h
  refine ⟨fun e he => ?_, fun f => hsettles.failsOnly (failsOnly_leaf x) (.fault f), fun a ha => ?_⟩
  · rcases hsettles with ⟨a, ha, -⟩ | ⟨e', he', hleaf⟩
    · rw [ha] at he
      cases he
    · rw [he'] at he
      cases he
      exact hleaf
  · have hsize : a.size = x.rows names := by
      rcases hsettles with ⟨a', ha', hsize⟩ | ⟨e, he, -⟩
      · rw [ha] at ha'
        cases ha'
        exact hsize
      · rw [ha] at he
        cases he
    exact ⟨hsize, a.wellFormed.accept_ok, a.wellFormed.entry_ok, fun text v =>
      Automaton.state_lt_of_mem_visits⟩

/-- Here one operand has no table and another is the value of a name. -/
theorem value_sound_emptyTable :
    ∃ b, Automaton.build [.accept 1, .move "ab" 0 1, .epsilonMove 1 0] = .ok b ∧
      let names : String → Option Automaton := fun n => if n = "b" then some b else none
      let x : Expr := .concat (.repetition (.parts {"a"} #[] 0)) (.disjunction (.name "b") (.symbol "a"))
      x.rows names < stateLimit ∧ ∃ a, x.value names = .ok a ∧
        a.size = x.rows names ∧ (a.accept < a.size ∨ a.size = 0 ∧ a.accept = 0) ∧
        ∀ text, ∀ v ∈ a.visits text, v.state < a.size := by
  refine ⟨_, rfl, ?_⟩
  intro names x
  have h : x.rows names < stateLimit := by decide
  have hleaves : ∀ leaf ∈ x.leaves, ∃ a, leaf.value names = .ok a := by
    refine List.forall_mem_cons.mpr ⟨⟨_, rfl⟩, List.forall_mem_cons.mpr ⟨⟨_, rfl⟩, ?_⟩⟩
    exact List.forall_mem_singleton.mpr ⟨_, rfl⟩
  obtain ⟨hfailure, -, hvalue⟩ := value_sound names x h
  cases hx : x.value names with
  | error e =>
    obtain ⟨leaf, hleaf, hfail⟩ := hfailure e hx
    obtain ⟨a, ha⟩ := hleaves leaf hleaf
    rw [hfail] at ha
    cases ha
  | ok a =>
    obtain ⟨hsize, haccept, -, hvisits⟩ := hvalue a hx
    exact ⟨h, a, rfl, hsize, haccept, hvisits⟩

end

end Expr

end Automata
