import Automata.Proofs.Layout
import Automata.Proofs.Overflow
import Automata.Proofs.Sequences

/-!
# What a description can say

`Automaton.steps` has one step for every target of a table, and a description is written with one line for
each of them. It is read as the same automaton if that has no symbol, no entry and no state besides those
that its transitions and its accept state need (`Automaton.Describable`). Reading gives no others.
-/

namespace Automata

def Step.adding (s : Nat) (y : Symbol) : Target → Step
  | .state d => if y = Symbol.epsilon then .epsilonMove s d else .move y s d
  | .sink => .sinkMove y s

/-- One step for every target of the table, by state, symbol and target. -/
def Automaton.steps (a : Automaton) : List Step :=
  a.table.entries.flatMap fun (s, y, ts) => ts.toList.map (Step.adding s y)

/-- The automata that have a description. -/
structure Automaton.Describable (a : Automaton) : Prop where
  size_pos : 0 < a.size
  size_le : a.size ≤ rowLimit
  symbol : ∀ y, y ∈ a.alphabet ↔ y ≠ Symbol.epsilon ∧ ∃ row ∈ a.table, y ∈ row
  plain : ∀ y ∈ a.alphabet, ∀ c ∈ y.toList, Text.isBlank c = false ∧ c ≠ '#'
  entry_ne : ∀ row ∈ a.table, ∀ y : Symbol, row[y]? ≠ some ∅
  sink_not_mem : ∀ row ∈ a.table, Target.sink ∉ row.targets Symbol.epsilon
  /-- The last state is the accept state, or it has a row, or a transition leads there. -/
  last : ∀ s, a.size = s + 1 →
    s = a.accept ∨ (∃ row, a.table[s]? = some row ∧ row ≠ ∅) ∨ ∃ r y, a.table.Leads r y s

namespace Description

/-- The text is laid out as a line for the accept state and a line for each of the steps. -/
def Writes (text : String) (p : Nat) (steps : List Step) : Prop :=
  ∃ first later, LaysOut text (first :: later) ∧ AcceptLine first p ∧ List.Forall₂ Means later steps

/-- The tokens of the line for a step. There is no line for a symbol without transitions. -/
def lineOf : Step → List String
  | .accept s => [toString s]
  | .symbol _ => []
  | .move y src dest => [y, toString src, toString dest]
  | .sinkMove y src => [y, toString src, "-"]
  | .epsilonMove src dest => [toString src, toString dest]

def writeLine (ts : List String) : List Char := [' '].intercalate (ts.map String.toList)

def write (steps : List Step) : String :=
  String.ofList (['\n'].intercalate (steps.map fun step => writeLine (lineOf step)))

end Description

theorem Row.mem_targets_iff {row : Row} {y : Symbol} {t : Target} :
    t ∈ row.targets y ↔ ∃ ts, row[y]? = some ts ∧ t ∈ ts := by
  rw [targets_eq]
  cases row[y]? <;> simp

theorem Row.mem_of_mem_targets {row : Row} {y : Symbol} {t : Target} (h : t ∈ row.targets y) : y ∈ row := by
  obtain ⟨ts, hts, -⟩ := mem_targets_iff.mp h
  exact Std.ExtTreeMap.mem_iff_isSome_getElem?.mpr (by rw [hts]; rfl)

theorem Row.exists_mem_targets {row : Row} {y : Symbol} (hne : row[y]? ≠ some ∅) (h : y ∈ row) :
    ∃ t, t ∈ row.targets y := by
  obtain ⟨ts, hts⟩ := Option.isSome_iff_exists.mp (Std.ExtTreeMap.mem_iff_isSome_getElem?.mp h)
  by_contra hnone
  refine hne (hts.trans (congrArg some ?_))
  rw [Std.ExtTreeSet.eq_empty_iff_forall_not_mem]
  exact fun t ht => hnone ⟨t, mem_targets_iff.mpr ⟨ts, hts, ht⟩⟩

-- ---------------------------------------------------------------------------
-- The steps of an automaton
-- ---------------------------------------------------------------------------

namespace Step

variable {s : Nat} {y : Symbol} {t : Target}

theorem transition?_adding : (adding s y t).transition? = some (s, y, t) := by
  cases t with
  | sink => rfl
  | state d =>
    rw [adding]
    split
    · rename_i hy
      rw [hy]
      rfl
    · rfl

theorem states_adding : (adding s y t).states = s :: t.state?.toList := by
  cases t with
  | sink => rfl
  | state d =>
    rw [adding]
    split <;> rfl

theorem symbol?_adding (h : y = Symbol.epsilon → t ≠ .sink) :
    (adding s y t).symbol? = if y = Symbol.epsilon then none else some y := by
  cases t with
  | sink => exact (if_neg fun hy => h hy rfl).symm
  | state d =>
    rw [adding]
    split <;> rfl

theorem symbol_of_sink {step : Step} (h : step.transition? = some (s, y, .sink)) : step.symbol? = some y := by
  cases step <;> simp_all [transition?, symbol?]

end Step

namespace Automaton

section
variable {a : Automaton} {step : Step} {steps : List Step}

theorem mem_steps_iff : step ∈ a.steps ↔
    ∃ s row, a.table[s]? = some row ∧ ∃ y, ∃ t ∈ row.targets y, step = Step.adding s y t := by
  simp only [steps, List.mem_flatMap, Prod.exists, Table.mem_entries_iff, List.mem_map,
    Std.ExtTreeSet.mem_toList, Row.mem_targets_iff]
  constructor
  · rintro ⟨s, y, ts, ⟨row, hrow, hts⟩, t, ht, rfl⟩
    exact ⟨s, row, hrow, y, t, ⟨ts, hts, ht⟩, rfl⟩
  · rintro ⟨s, row, hrow, y, t, ⟨ts, hts, ht⟩, rfl⟩
    exact ⟨s, y, ts, ⟨row, hrow, hts⟩, t, ht, rfl⟩

theorem Describable.symbol?_eq (h : a.Describable) {s : Nat} {row : Row} (hrow : a.table[s]? = some row)
    {y : Symbol} {t : Target} (ht : t ∈ row.targets y) :
    (Step.adding s y t).symbol? = if y = Symbol.epsilon then none else some y := by
  refine Step.symbol?_adding ?_
  rintro rfl rfl
  exact h.sink_not_mem row (Array.mem_of_getElem? hrow) ht

theorem Describable.symbol_ne (h : a.Describable) (hstep : step ∈ a.steps) :
    step.symbol? ≠ some Symbol.epsilon := by
  obtain ⟨s, row, hrow, y, t, ht, rfl⟩ := mem_steps_iff.mp hstep
  rw [h.symbol?_eq hrow ht]
  split
  · exact nofun
  · rename_i hy
    exact fun heq => hy (Option.some.inj heq)

theorem state_lt_of_mem_steps (hstep : step ∈ a.steps) : ∀ s ∈ step.states, s < a.size := by
  obtain ⟨s, row, hrow, y, t, ht, rfl⟩ := mem_steps_iff.mp hstep
  have hs : s < a.size := (Array.getElem?_eq_some_iff.mp hrow).1
  obtain ⟨ts, hts, ht⟩ := Row.mem_targets_iff.mp ht
  rw [Step.states_adding, List.forall_mem_cons]
  refine ⟨hs, fun n hn => ?_⟩
  cases t with
  | sink => cases hn
  | state d =>
    obtain rfl := List.mem_singleton.mp hn
    exact (a.wellFormed.entry_ok s row hrow y ts hts).2 n ht

theorem transition_mem_steps_iff {s : Nat} {y : Symbol} {t : Target} :
    (∃ step ∈ a.steps, step.transition? = some (s, y, t)) ↔
      ∃ row, a.table[s]? = some row ∧ t ∈ row.targets y := by
  constructor
  · rintro ⟨step, hstep, htransition⟩
    obtain ⟨s, row, hrow, y, t, ht, rfl⟩ := mem_steps_iff.mp hstep
    cases Step.transition?_adding.symm.trans htransition
    exact ⟨row, hrow, ht⟩
  · rintro ⟨row, hrow, ht⟩
    exact ⟨_, mem_steps_iff.mpr ⟨s, row, hrow, y, t, ht, rfl⟩, Step.transition?_adding⟩

theorem Describable.symbol_iff (h : a.Describable) (y : Symbol) :
    y ∈ a.alphabet ↔ ∃ step ∈ a.steps, step.symbol? = some y := by
  rw [h.symbol]
  constructor
  · rintro ⟨hy, row, hmem, hkey⟩
    obtain ⟨s, hrow⟩ := Array.mem_iff_getElem?.mp hmem
    obtain ⟨t, ht⟩ := Row.exists_mem_targets (h.entry_ne row hmem y) hkey
    exact ⟨_, mem_steps_iff.mpr ⟨s, row, hrow, y, t, ht, rfl⟩, by rw [h.symbol?_eq hrow ht, if_neg hy]⟩
  · rintro ⟨step, hstep, hsymbol⟩
    obtain ⟨s, row, hrow, z, t, ht, rfl⟩ := mem_steps_iff.mp hstep
    rw [h.symbol?_eq hrow ht] at hsymbol
    split at hsymbol
    · cases hsymbol
    · rename_i hz
      cases hsymbol
      exact ⟨hz, row, Array.mem_of_getElem? hrow, Row.mem_of_mem_targets ht⟩

theorem accept_lt (h : 0 < a.size) : a.accept < a.size :=
  a.wellFormed.accept_ok.resolve_right fun hempty => Nat.ne_of_gt h hempty.1

/-- The steps of a describable automaton leave nothing of it out. -/
theorem Describable.builtFrom (h : a.Describable) : a.BuiltFrom (.accept a.accept :: a.steps) where
  accept := List.mem_cons_self
  symbol y := by
    rw [h.symbol_iff]
    simp [Step.symbol?]
  state_lt := by
    rw [List.forall_mem_cons]
    exact ⟨by simpa [Step.states] using accept_lt h.size_pos, fun step => state_lt_of_mem_steps⟩
  size := by
    obtain ⟨s, hs⟩ := Nat.exists_eq_add_one.mpr h.size_pos
    rcases h.last s hs with rfl | ⟨row, hrow, hne⟩ | ⟨r, y, row, hrow, hd⟩
    · exact ⟨_, List.mem_cons_self, _, List.mem_singleton_self _, hs⟩
    · obtain ⟨y, hy⟩ : ∃ y, y ∈ row := by
        by_contra hnone
        exact hne (Std.ExtTreeMap.eq_empty_iff_forall_not_mem.mpr (not_exists.mp hnone))
      obtain ⟨t, ht⟩ := Row.exists_mem_targets (h.entry_ne row (Array.mem_of_getElem? hrow) y) hy
      have hstep : Step.adding s y t ∈ a.steps := mem_steps_iff.mpr ⟨s, row, hrow, y, t, ht, rfl⟩
      exact ⟨_, List.mem_cons_of_mem _ hstep, s, by simp [Step.states_adding], hs⟩
    · have hstep : Step.adding r y (.state s) ∈ a.steps := mem_steps_iff.mpr ⟨r, row, hrow, y, _, hd, rfl⟩
      exact ⟨_, List.mem_cons_of_mem _ hstep, s, by simp [Step.states_adding, Target.state?], hs⟩
  target s row hrow y t := by
    have hadded := transition_mem_steps_iff (a := a) (s := s) (y := y) (t := t)
    simp only [List.exists_mem_cons_iff, hadded, hrow, Option.some.injEq, exists_eq_left']
    simp [Step.transition?]
  entry_ne s row hrow := h.entry_ne row (Array.mem_of_getElem? hrow)

theorem transition_of_mem_steps (hstep : step ∈ a.steps) : ∃ s y t, step.transition? = some (s, y, t) := by
  obtain ⟨s, row, -, y, t, -, rfl⟩ := mem_steps_iff.mp hstep
  exact ⟨s, y, t, Step.transition?_adding⟩

theorem accept_not_mem_steps (p : Nat) : .accept p ∉ a.steps := by
  intro h
  obtain ⟨s, y, t, htransition⟩ := transition_of_mem_steps h
  cases htransition

theorem Describable.haveRoom (h : a.Describable) : Step.HaveRoom (.accept a.accept :: a.steps) :=
  fun step hstep s hs => Nat.lt_of_lt_of_le (h.builtFrom.state_lt step hstep s hs) h.size_le

theorem Describable.faultless (h : a.Describable) : Step.Faultless (.accept a.accept :: a.steps) := by
  have haccept : ∀ p, .accept p ∈ Step.accept a.accept :: a.steps → p = a.accept := fun p hp =>
    Step.accept.inj ((List.mem_cons.mp hp).resolve_right (accept_not_mem_steps p))
  rw [Step.faultless_iff]
  refine ⟨?_, fun p q hp hq => (haccept p hp).trans (haccept q hq).symm, fun step hstep s hs => ?_⟩
  · exact List.forall_mem_cons.mpr ⟨by simp [Step.symbol?], fun step => h.symbol_ne⟩
  · exact h.haveRoom.succ_lt step hstep s hs

end

end Automaton

-- ---------------------------------------------------------------------------
-- From an automaton to a text
-- ---------------------------------------------------------------------------

namespace Text

theorem denotes_toString {n : Nat} (h : n < stateLimit) : Denotes (toString n) n := by
  refine ⟨(toString n).toList, .inl rfl, ?_, fun c => isDigit_of_mem_toString, ?_, h⟩
  · exact mt String.toList_eq_nil_iff.mp (toString_ne_empty n)
  · exact (ofDigitChars_toString n).symm

end Text

theorem Automaton.Describable.denotes_toString {a : Automaton} (h : a.Describable) {s : Nat} (hs : s < a.size) :
    Text.Denotes (toString s) s :=
  Text.denotes_toString (Nat.lt_trans (Nat.lt_of_lt_of_le hs h.size_le) rowLimit_lt_stateLimit)

namespace Description

section
variable {a : Automaton} {text : String} {ts : List String} {step : Step} {steps : List Step} {n p : Nat}

theorem Means.mem_states (h : Means ts step) {token : String} {s : Nat} (hend : token ∈ ends ts)
    (hs : Text.Denotes token s) : s ∈ step.states := by
  cases h with
  | move hsrc hdest | epsilonMove hsrc hdest =>
    simp only [ends, List.mem_cons, List.not_mem_nil, or_false] at hend
    rcases hend with rfl | rfl
    · simp [Step.states, hs.eq hsrc]
    · simp [Step.states, hs.eq hdest]
  | sinkMove hsrc =>
    simp only [ends, List.mem_cons, List.not_mem_nil, or_false] at hend
    rcases hend with rfl | rfl
    · simp [Step.states, hs.eq hsrc]
    · exact absurd rfl hs.ne_dash

theorem not_breaksOff_of_means {first : List String} {later : List (Nat × List String)}
    (haccept : AcceptLine first p) (hlater : List.Forall₂ (fun line step => Means line.2 step) later steps)
    (hrange : ∀ step ∈ Step.accept p :: steps, ∀ s ∈ step.states, s + 1 < stateLimit) :
    ¬BreaksOff ((n, first) :: later) := by
  have hlast : ∀ step ∈ Step.accept p :: steps, stateLimit - 1 ∉ step.states := by
    intro step hstep hmem
    have := hrange step hstep _ hmem
    omega
  refine not_breaksOff fun token htoken hdenotes => ?_
  rw [stateTokens, List.mem_append, List.mem_flatMap] at htoken
  rcases htoken with hfirst | ⟨line, hline, hend⟩
  · refine hlast _ List.mem_cons_self ?_
    rw [hdenotes.eq (haccept.2 token hfirst)]
    exact List.mem_singleton_self p
  · obtain ⟨before, step, after, rfl, -, hmeans⟩ := exists_split_of_forall₂ hlater.flip line hline
    exact hlast step (by simp) (hmeans.mem_states hend hdenotes)

theorem Writes.read_eq (h : Writes text a.accept steps) (ha : a.Describable) (hsteps : steps.Perm a.steps) :
    Automaton.read text = .ok a := by
  obtain ⟨first, later, hlays, haccept, hmeans⟩ := h
  obtain ⟨⟨n, first⟩, lines, hentries, rfl, rfl⟩ := List.map_eq_cons_iff.mp (laysOut_iff.mp hlays)
  have hlater : List.Forall₂ (fun line step => Means line.2 step) lines steps :=
    List.forall₂_map_left_iff.mp hmeans
  have hmem : ∀ step, step ∈ Step.accept a.accept :: a.steps ↔ step ∈ Step.accept a.accept :: steps := by
    simp [hsteps.mem_iff]
  have hfaultless := ha.faultless.congr hmem
  have hover : ¬BreaksOff ((n, first) :: lines) :=
    not_breaksOff_of_means haccept hlater (Step.faultless_iff.mp hfaultless).2.2
  obtain ⟨b, hread, hb⟩ :=
    (Judged.good haccept hlater).read_eq_ok hentries hover (ha.haveRoom.congr hmem)
  rw [hread, hb.eq (ha.builtFrom.congr hmem) hfaultless]

-- ---------------------------------------------------------------------------
-- The text that is written
-- ---------------------------------------------------------------------------

theorem isToken_toString (n : Nat) : IsToken (toString n) := by
  refine ⟨Text.toString_ne_empty n, fun c hc => ?_⟩
  have hdigit := Text.isDigit_of_mem_toString hc
  refine ⟨Text.isBlank_eq_false_of_isDigit hdigit, ?_⟩
  rintro rfl
  exact absurd hdigit (by decide)

theorem isToken_dash : IsToken "-" :=
  ⟨by decide, List.forall_mem_singleton.mpr (by decide)⟩

theorem shows_writeLine (h : ∀ token ∈ ts, IsToken token) : Shows (writeLine ts) ts := by
  induction ts with
  | nil => exact .nil
  | cons token ts ih =>
    rw [List.forall_mem_cons] at h
    cases ts with
    | nil =>
      have hshows : Shows (token.toList ++ []) [token] := .token h.1 (by simp) .nil
      simpa [writeLine] using hshows
    | cons token' ts =>
      rw [writeLine, List.map_cons, List.map_cons, List.intercalate_cons_cons, List.append_assoc]
      refine .token h.1 ?_ (.blank (by decide) (ih h.2))
      rintro c ⟨⟩
      decide

theorem lineEnd_not_mem_writeLine (h : ∀ token ∈ ts, IsToken token) : '\n' ∉ writeLine ts := by
  have hplain : ¬Plain '\n' := by decide
  refine Text.not_mem_intercalate (by decide) ?_
  rw [List.forall_mem_map]
  exact fun token htoken hmem => hplain ((h token htoken).2 _ hmem)

theorem laysOut_write (hne : steps ≠ [])
    (h : ∀ step ∈ steps, lineOf step ≠ [] ∧ ∀ token ∈ lineOf step, IsToken token) :
    LaysOut (write steps) (steps.map lineOf) := by
  refine ⟨steps.map fun step => writeLine (lineOf step), by simpa using hne, ?_, String.toList_ofList, ?_⟩
  · rw [List.forall_mem_map]
    exact fun step hstep => lineEnd_not_mem_writeLine (h step hstep).2
  · clear hne
    induction steps with
    | nil => exact .nil
    | cons step steps ih =>
      rw [List.forall_mem_cons] at h
      exact .row (shows_writeLine h.1.2) h.1.1 (ih h.2)

theorem means_lineOf (ha : a.Describable) (hstep : step ∈ a.steps) :
    Means (lineOf step) step ∧ ∀ token ∈ lineOf step, IsToken token := by
  have hstate : ∀ s ∈ step.states, Text.Denotes (toString s) s := fun s hs =>
    ha.denotes_toString (Automaton.state_lt_of_mem_steps hstep s hs)
  have hsymbol : ∀ y, step.symbol? = some y → IsToken y := fun y hy =>
    have hmem : y ∈ a.alphabet := (ha.symbol_iff y).mpr ⟨step, hstep, hy⟩
    ⟨((ha.symbol y).mp hmem).1, ha.plain y hmem⟩
  cases step with
  | accept | symbol =>
    obtain ⟨s, y, t, htransition⟩ := Automaton.transition_of_mem_steps hstep
    cases htransition
  | move y s d =>
    simp only [Step.states, List.forall_mem_cons] at hstate
    refine ⟨.move hstate.1 hstate.2.1, ?_⟩
    simp only [lineOf, List.forall_mem_cons]
    exact ⟨hsymbol y rfl, isToken_toString s, isToken_toString d, List.forall_mem_nil _⟩
  | sinkMove y s =>
    refine ⟨.sinkMove (hstate s List.mem_cons_self), ?_⟩
    simp only [lineOf, List.forall_mem_cons]
    exact ⟨hsymbol y rfl, isToken_toString s, isToken_dash, List.forall_mem_nil _⟩
  | epsilonMove s d =>
    simp only [Step.states, List.forall_mem_cons] at hstate
    refine ⟨.epsilonMove hstate.1 hstate.2.1, ?_⟩
    simp only [lineOf, List.forall_mem_cons]
    exact ⟨isToken_toString s, isToken_toString d, List.forall_mem_nil _⟩

theorem Means.ne_nil (h : Means ts step) : ts ≠ [] := by
  cases h <;> exact nofun

theorem writes_write (ha : a.Describable) (hsteps : ∀ step ∈ steps, step ∈ a.steps) :
    Writes (write (.accept a.accept :: steps)) a.accept steps := by
  have hline : ∀ step ∈ steps, Means (lineOf step) step ∧ ∀ token ∈ lineOf step, IsToken token :=
    fun step hstep => means_lineOf ha (hsteps step hstep)
  have haccept : Text.Denotes (toString a.accept) a.accept :=
    ha.denotes_toString (Automaton.accept_lt ha.size_pos)
  refine ⟨[toString a.accept], steps.map lineOf, laysOut_write nofun ?_, ⟨nofun, ?_⟩, ?_⟩
  · rw [List.forall_mem_cons]
    refine ⟨⟨nofun, List.forall_mem_singleton.mpr (isToken_toString _)⟩, fun step hstep => ?_⟩
    exact ⟨(hline step hstep).1.ne_nil, (hline step hstep).2⟩
  · exact List.forall_mem_singleton.mpr haccept
  · rw [List.forall₂_map_left_iff, List.forall₂_same]
    exact fun step hstep => (hline step hstep).1

example : write [.accept 1, .move "-" 0 1, .sinkMove "7" 0, .epsilonMove 1 0] = "1\n- 0 1\n7 0 -\n1 0" := by
  decide +kernel

-- ---------------------------------------------------------------------------
-- From a text to an automaton
-- ---------------------------------------------------------------------------

theorem Means.of_symbol (h : Means ts step) {y : Symbol} (hy : step.symbol? = some y) :
    y ∈ ts ∧ ∃ s t, step.transition? = some (s, y, t) := by
  cases h with
  | move | sinkMove =>
    cases hy
    exact ⟨by simp, _, _, rfl⟩
  | epsilonMove => cases hy

theorem Means.of_state (h : Means ts step) {s : Nat} (hs : s ∈ step.states) :
    (∃ y t, step.transition? = some (s, y, t)) ∨ ∃ r y, step.transition? = some (r, y, .state s) := by
  cases h with
  | move | epsilonMove =>
    simp only [Step.states, List.mem_cons, List.not_mem_nil, or_false] at hs
    rcases hs with rfl | rfl
    · exact .inl ⟨_, _, rfl⟩
    · exact .inr ⟨_, _, rfl⟩
  | sinkMove =>
    obtain rfl := List.mem_singleton.mp hs
    exact .inl ⟨_, _, rfl⟩

theorem exists_builtFrom_of_read (h : Automaton.read text = .ok a) :
    ∃ p steps, a.BuiltFrom (.accept p :: steps) ∧ Step.HaveRoom (.accept p :: steps) ∧
      ∀ step ∈ steps, ∃ ts, Means ts step ∧ ∀ token ∈ ts, IsToken token := by
  have houtcome := outcome_read text
  rw [h] at houtcome
  cases houtcome with
  | ok _ hverdict hroom hbuilt =>
    -- A line that counts shows its tokens, so they have neither blanks nor number signs.
    have htokens : ∀ line ∈ entries text, ∀ token ∈ line.2, IsToken token := fun line hline =>
      (laysOut_iff.mpr rfl).isToken line.2 (List.mem_map_of_mem hline)
    generalize entries text = lines at hverdict htokens
    cases hverdict with
    | @good n p first later steps haccept hlater =>
      refine ⟨p, steps, hbuilt, hroom, fun step hstep => ?_⟩
      obtain ⟨before, line, after, rfl, -, hmeans⟩ := exists_split_of_forall₂ hlater step hstep
      exact ⟨line.2, hmeans, htokens line (by simp)⟩

end

end Description

namespace Automaton

section
variable {a : Automaton} {steps : List Step} {step : Step} {p s : Nat} {y : Symbol} {t : Target}

theorem BuiltFrom.exists_row (h : a.BuiltFrom steps) (hstep : step ∈ steps)
    (htransition : step.transition? = some (s, y, t)) :
    ∃ row, a.table[s]? = some row ∧ t ∈ row.targets y := by
  have hs : s < a.table.size := h.state_lt step hstep s (Step.source_mem_of_transition htransition)
  have hrow := Array.getElem?_eq_getElem hs
  exact ⟨_, hrow, (h.target s _ hrow y t).mpr ⟨step, hstep, htransition⟩⟩

section
variable (hmeans : ∀ step ∈ steps,
  ∃ ts, Description.Means ts step ∧ ∀ token ∈ ts, Description.IsToken token)
include hmeans

theorem isToken_of_symbol (hstep : step ∈ Step.accept p :: steps) (hy : step.symbol? = some y) :
    Description.IsToken y ∧ ∃ s t, step.transition? = some (s, y, t) := by
  rcases List.mem_cons.mp hstep with rfl | hstep
  · cases hy
  · obtain ⟨ts, hts, htokens⟩ := hmeans step hstep
    obtain ⟨hmem, htransition⟩ := hts.of_symbol hy
    exact ⟨htokens y hmem, htransition⟩

theorem BuiltFrom.accept_eq (h : a.BuiltFrom (.accept p :: steps)) : a.accept = p := by
  rcases List.mem_cons.mp h.accept with heq | hmem
  · exact Step.accept.inj heq
  · obtain ⟨ts, hts, -⟩ := hmeans _ hmem
    exact absurd rfl (hts.accept_ne _)

theorem BuiltFrom.last_of_state (h : a.BuiltFrom (.accept p :: steps))
    (hstep : step ∈ Step.accept p :: steps) (hs : s ∈ step.states) :
    s = a.accept ∨ (∃ row, a.table[s]? = some row ∧ row ≠ ∅) ∨ ∃ r y, a.table.Leads r y s := by
  rcases List.mem_cons.mp hstep with rfl | hmem
  · exact .inl ((List.mem_singleton.mp hs).trans (h.accept_eq hmeans).symm)
  · obtain ⟨ts, hts, -⟩ := hmeans step hmem
    rcases hts.of_state hs with ⟨y, t, htransition⟩ | ⟨r, y, htransition⟩
    · obtain ⟨row, hrow, ht⟩ := h.exists_row hstep htransition
      refine .inr (.inl ⟨row, hrow, ?_⟩)
      rintro rfl
      exact Std.ExtTreeMap.not_mem_empty (Row.mem_of_mem_targets ht)
    · exact .inr (.inr ⟨r, y, h.exists_row hstep htransition⟩)

theorem BuiltFrom.describable (h : a.BuiltFrom (.accept p :: steps))
    (hroom : Step.HaveRoom (.accept p :: steps)) : a.Describable where
  size_pos := by
    obtain ⟨-, -, s, -, hsize⟩ := h.size
    exact hsize ▸ s.succ_pos
  size_le := by
    obtain ⟨step, hstep, s, hs, hsize⟩ := h.size
    exact hsize ▸ hroom step hstep s hs
  symbol y := by
    constructor
    · intro hy
      obtain ⟨step, hstep, hy⟩ := (h.symbol y).mp hy
      obtain ⟨htoken, s, t, htransition⟩ := isToken_of_symbol hmeans hstep hy
      obtain ⟨row, hrow, ht⟩ := h.exists_row hstep htransition
      exact ⟨htoken.1, row, Array.mem_of_getElem? hrow, Row.mem_of_mem_targets ht⟩
    · rintro ⟨hne, row, hmem, hkey⟩
      obtain ⟨s, hrow⟩ := Array.mem_iff_getElem?.mp hmem
      obtain ⟨ts, hts⟩ := Option.isSome_iff_exists.mp (Std.ExtTreeMap.mem_iff_isSome_getElem?.mp hkey)
      exact (a.wellFormed.entry_ok s row hrow y ts hts).1.resolve_left hne
  plain y hy := by
    obtain ⟨step, hstep, hy⟩ := (h.symbol y).mp hy
    exact (isToken_of_symbol hmeans hstep hy).1.2
  entry_ne row hmem := by
    obtain ⟨s, hrow⟩ := Array.mem_iff_getElem?.mp hmem
    exact h.entry_ne s row hrow
  sink_not_mem row hmem hsink := by
    obtain ⟨s, hrow⟩ := Array.mem_iff_getElem?.mp hmem
    obtain ⟨step, hstep, htransition⟩ := (h.target s row hrow _ _).mp hsink
    exact (isToken_of_symbol hmeans hstep (Step.symbol_of_sink htransition)).1.1 rfl
  last s hs := by
    obtain ⟨step, hstep, n, hn, hsize⟩ := h.size
    obtain rfl : n = s := by omega
    exact h.last_of_state hmeans hstep hn

end

end

variable {a : Automaton} {text : String}

theorem describable_of_read (h : read text = .ok a) : a.Describable := by
  obtain ⟨p, steps, hbuilt, hroom, hmeans⟩ := Description.exists_builtFrom_of_read h
  exact hbuilt.describable hmeans hroom

/-- An automaton has a description exactly if it is describable. It then has one line for the accept state
and one for each of its steps, and it does not matter in which order and in which layout they are given. -/
theorem exists_read_eq_ok_iff (a : Automaton) :
    ((∃ text, read text = .ok a) ↔ a.Describable) ∧
      (a.Describable → ∀ steps, steps.Perm a.steps →
        read (Description.write (.accept a.accept :: steps)) = .ok a ∧
          ∀ text, Description.Writes text a.accept steps → read text = .ok a) := by
  have hwrites : a.Describable → ∀ steps, steps.Perm a.steps →
      read (Description.write (.accept a.accept :: steps)) = .ok a := fun ha steps hsteps =>
    (Description.writes_write ha fun step => hsteps.mem_iff.mp).read_eq ha hsteps
  refine ⟨⟨fun ⟨text, h⟩ => describable_of_read h, fun ha => ⟨_, hwrites ha a.steps (.refl _)⟩⟩, ?_⟩
  exact fun ha steps hsteps => ⟨hwrites ha steps hsteps, fun text htext => htext.read_eq ha hsteps⟩

end Automaton

end Automata
