import Automata.Search
import Automata.Proofs.Moves

/-!
# What a search explores

`Exploration` restates the search as a relation, and every law of the search is an induction on it. Visits
are reachable (`Exploration.reaches`), and those of a search that fails are closed under moves
(`Exploration.closed`). So a search decides the language (`accepts_iff_mem`).
-/

namespace Automata

def Task.config {text : List Char} : Task text → Config
  | .visit s _ => ⟨s, text⟩
  | .read rest _ s _ => ⟨s, rest⟩

def Visit.config (v : Visit) : Config := ⟨v.state, v.rest⟩

namespace Automaton

inductive Exploration (a : Automaton) :
    (text : List Char) → List (Task text) → StateSet → Bool → StateSet → List Visit → Prop
  | done {text : List Char} {seen : StateSet} : Exploration a text [] seen false seen []
  | readFound {text rest : List Char} {shorter : rest.length < text.length} {s depth : Nat}
      {agenda : List (Task text)} {seen seen' : StateSet} {visits : List Visit} :
      Exploration a rest [.visit s depth] ∅ true seen' visits →
      Exploration a text (.read rest shorter s depth :: agenda) seen true seen' visits
  | readFailed {text rest : List Char} {shorter : rest.length < text.length} {s depth : Nat}
      {agenda : List (Task text)} {seen inner seen' : StateSet} {found : Bool}
      {first second : List Visit} :
      Exploration a rest [.visit s depth] ∅ false inner first →
      Exploration a text agenda seen found seen' second →
      Exploration a text (.read rest shorter s depth :: agenda) seen found seen' (first ++ second)
  | accept {depth : Nat} {agenda : List (Task [])} {seen : StateSet} :
      Exploration a [] (.visit a.accept depth :: agenda) seen true seen [⟨a.accept, [], depth, false⟩]
  | again {text : List Char} {s depth : Nat} {agenda : List (Task text)} {seen seen' : StateSet}
      {found : Bool} {visits : List Visit} :
      ¬(text = [] ∧ s = a.accept) → s ∈ seen →
      Exploration a text agenda seen found seen' visits →
      Exploration a text (.visit s depth :: agenda) seen found seen' (⟨s, text, depth, false⟩ :: visits)
  | expand {text : List Char} {s depth : Nat} {agenda : List (Task text)} {seen seen' : StateSet}
      {found : Bool} {visits : List Visit} :
      ¬(text = [] ∧ s = a.accept) → s ∉ seen →
      Exploration a text (a.tasks text s (depth + 1) ++ agenda) (seen.insert s) found seen' visits →
      Exploration a text (.visit s depth :: agenda) seen found seen' (⟨s, text, depth, true⟩ :: visits)

section
variable {a : Automaton} {text : List Char} {agenda : List (Task text)} {seen seen' : StateSet}
  {found : Bool} {visits : List Visit}

/-- The search does what the relation says, on top of the trail it is given. -/
theorem explore_exploration (a : Automaton) (text : List Char) (agenda : List (Task text))
    (seen : StateSet) (trail : List Visit) :
    ∃ visits, (a.explore text agenda seen trail).trail = visits.reverse ++ trail ∧
      a.Exploration text agenda seen (a.explore text agenda seen trail).found
        (a.explore text agenda seen trail).seen visits := by
  fun_induction explore a text agenda seen trail with
  | case1 text seen trail => exact ⟨[], rfl, .done⟩
  | case2 text seen trail rest shorter s depth agenda inner hfound ih =>
    obtain ⟨visits, htrail, h⟩ := ih
    rw [hfound] at h
    exact ⟨visits, htrail, hfound ▸ .readFound h⟩
  | case3 text seen trail rest shorter s depth agenda inner hfound ih₁ ih₂ =>
    obtain ⟨first, htrail, h₁⟩ := ih₁
    obtain ⟨second, htrail', h₂⟩ := ih₂
    rw [Bool.eq_false_of_not_eq_true hfound] at h₁
    refine ⟨first ++ second, ?_, .readFailed h₁ h₂⟩
    rw [htrail', htrail]
    simp
  | case4 text seen trail s depth agenda h =>
    obtain ⟨rfl, rfl⟩ := h
    exact ⟨[_], rfl, .accept⟩
  | case5 text seen trail s depth agenda h hs ih =>
    obtain ⟨visits, htrail, h'⟩ := ih
    exact ⟨_ :: visits, by simp [htrail], .again h hs h'⟩
  | case6 text seen trail s depth agenda h hs ih =>
    obtain ⟨visits, htrail, h'⟩ := ih
    exact ⟨_ :: visits, by simp [htrail], .expand h hs h'⟩

-- ---------------------------------------------------------------------------
-- Tasks and moves
-- ---------------------------------------------------------------------------

theorem mem_symbolTasks_iff {s depth : Nat} {y : Symbol} {t : Task text} :
    t ∈ a.symbolTasks text s depth y ↔
      ∃ rest, ∃ h : y.after? text = some rest, ∃ d ∈ a.targets s y,
        t = .read rest (Symbol.length_lt_of_after? h) d depth := by
  unfold symbolTasks
  split
  · rename_i rest h
    constructor
    · intro ht
      obtain ⟨d, hd, rfl⟩ := List.mem_map.mp ht
      exact ⟨rest, h, d, hd, rfl⟩
    · rintro ⟨rest', h', d, hd, rfl⟩
      obtain rfl : rest = rest' := Option.some.inj (h.symm.trans h')
      exact List.mem_map.mpr ⟨d, hd, rfl⟩
  · rename_i h
    simp [h]

theorem move_iff_mem_tasks {s depth : Nat} {k : Config} :
    a.Move ⟨s, text⟩ k ↔ ∃ t ∈ a.tasks text s depth, t.config = k := by
  constructor
  · intro h
    cases h with
    | @epsilon _ d _ hd => exact ⟨.visit d depth, by simp [tasks, hd], rfl⟩
    | @symbol _ d y rest hy hne hd =>
      have hafter : y.after? (y.toList ++ rest) = some rest := Symbol.after?_eq_some_iff.mpr ⟨hne, rfl⟩
      refine ⟨.read rest (Symbol.length_lt_of_after? hafter) d depth, ?_, rfl⟩
      simp only [tasks, List.mem_append, List.mem_flatMap, Std.ExtTreeSet.mem_toList]
      exact .inr ⟨y, hy, mem_symbolTasks_iff.mpr ⟨rest, hafter, d, hd, rfl⟩⟩
  · rintro ⟨t, ht, rfl⟩
    simp only [tasks, List.mem_append, List.mem_map, List.mem_flatMap, Std.ExtTreeSet.mem_toList] at ht
    rcases ht with ⟨d, hd, rfl⟩ | ⟨y, hy, ht⟩
    · exact .epsilon hd
    · obtain ⟨rest, h, d, hd, rfl⟩ := mem_symbolTasks_iff.mp ht
      obtain ⟨hne, rfl⟩ := Symbol.after?_eq_some_iff.mp h
      exact .symbol hy hne hd

-- ---------------------------------------------------------------------------
-- Laws of an exploration
-- ---------------------------------------------------------------------------

/-- Nothing is visited that the agenda does not lead to. -/
theorem Exploration.reaches (h : a.Exploration text agenda seen found seen' visits) :
    ∀ v ∈ visits, ∃ t ∈ agenda, a.Reaches t.config v.config := by
  induction h with
  | done => simp
  | readFound _ ih =>
    intro v hv
    obtain ⟨t, ht, hr⟩ := ih v hv
    obtain rfl := List.mem_singleton.mp ht
    exact ⟨_, List.mem_cons_self, hr⟩
  | readFailed _ _ ih₁ ih₂ =>
    rw [List.forall_mem_append]
    constructor
    · intro v hv
      obtain ⟨t, ht, hr⟩ := ih₁ v hv
      obtain rfl := List.mem_singleton.mp ht
      exact ⟨_, List.mem_cons_self, hr⟩
    · intro v hv
      obtain ⟨t, ht, hr⟩ := ih₂ v hv
      exact ⟨t, List.mem_cons_of_mem _ ht, hr⟩
  | accept =>
    rw [List.forall_mem_singleton]
    exact ⟨_, List.mem_cons_self, .refl⟩
  | again _ _ _ ih =>
    rw [List.forall_mem_cons]
    refine ⟨⟨_, List.mem_cons_self, .refl⟩, fun v hv => ?_⟩
    obtain ⟨t, ht, hr⟩ := ih v hv
    exact ⟨t, List.mem_cons_of_mem _ ht, hr⟩
  | expand _ _ _ ih =>
    rw [List.forall_mem_cons]
    refine ⟨⟨_, List.mem_cons_self, .refl⟩, fun v hv => ?_⟩
    obtain ⟨t, ht, hr⟩ := ih v hv
    rcases List.mem_append.mp ht with ht | ht
    · -- The task is a move of the state that was expanded.
      exact ⟨_, List.mem_cons_self, .head (move_iff_mem_tasks.mpr ⟨t, ht, rfl⟩) hr⟩
    · exact ⟨t, List.mem_cons_of_mem _ ht, hr⟩

theorem Exploration.reaches_of_visit {s depth : Nat}
    (h : a.Exploration text [.visit s depth] seen found seen' visits) :
    ∀ v ∈ visits, a.Reaches ⟨s, text⟩ v.config := by
  intro v hv
  obtain ⟨t, ht, hreach⟩ := h.reaches v hv
  obtain rfl := List.mem_singleton.mp ht
  exact hreach

theorem Exploration.found_iff (h : a.Exploration text agenda seen found seen' visits) :
    found = true ↔ ⟨a.accept, []⟩ ∈ visits.map Visit.config := by
  induction h with
  | done => simp
  | readFound _ ih => exact ih
  | readFailed _ _ ih₁ ih₂ =>
    rw [List.map_append, List.mem_append, ← ih₁, ← ih₂]
    simp
  | accept => simp [Visit.config]
  | again hne _ _ ih | expand hne _ _ ih =>
    rw [ih, List.map_cons, List.mem_cons, or_iff_right]
    intro heq
    cases heq
    exact hne ⟨rfl, rfl⟩

theorem Exploration.agenda_visited (h : a.Exploration text agenda seen found seen' visits)
    (hfound : found = false) : ∀ t ∈ agenda, t.config ∈ visits.map Visit.config := by
  induction h with
  | done => simp
  | readFound => cases hfound
  | accept => cases hfound
  | readFailed _ _ ih₁ ih₂ =>
    rw [List.map_append, List.forall_mem_cons]
    exact ⟨List.mem_append_left _ (ih₁ rfl _ List.mem_cons_self),
      fun t ht => List.mem_append_right _ (ih₂ hfound t ht)⟩
  | again _ _ _ ih =>
    rw [List.map_cons, List.forall_mem_cons]
    exact ⟨List.mem_cons_self, fun t ht => List.mem_cons_of_mem _ (ih hfound t ht)⟩
  | expand _ _ _ ih =>
    rw [List.map_cons, List.forall_mem_cons]
    exact ⟨List.mem_cons_self,
      fun t ht => List.mem_cons_of_mem _ (ih hfound t (List.mem_append_right _ ht))⟩

/-- What a search that fails has visited is closed under moves. The states seen before it began are the
exception: their moves are not its business. -/
theorem Exploration.closed (h : a.Exploration text agenda seen found seen' visits)
    (hfound : found = false) :
    ∀ k ∈ visits.map Visit.config, (k.rest = text ∧ k.state ∈ seen) ∨
      ∀ k', a.Move k k' → k' ∈ visits.map Visit.config := by
  induction h with
  | done => simp
  | readFound => cases hfound
  | accept => cases hfound
  | readFailed _ _ ih₁ ih₂ =>
    rw [List.map_append, List.forall_mem_append]
    constructor
    · intro k hk
      -- The search of the shorter text began with nothing seen.
      have hmoves := (ih₁ rfl k hk).resolve_left fun h => by simp at h
      exact .inr fun k' hk' => List.mem_append_left _ (hmoves k' hk')
    · intro k hk
      exact (ih₂ hfound k hk).imp_right fun h k' hk' => List.mem_append_right _ (h k' hk')
  | again _ hs _ ih =>
    rw [List.map_cons, List.forall_mem_cons]
    refine ⟨.inl ⟨rfl, hs⟩, fun k hk => ?_⟩
    exact (ih hfound k hk).imp_right fun h k' hk' => List.mem_cons_of_mem _ (h k' hk')
  | @expand text s depth agenda seen _ _ visits _ _ hrest ih =>
    have hmoves : ∀ k', a.Move ⟨s, text⟩ k' → k' ∈ visits.map Visit.config := by
      intro k' hk'
      obtain ⟨t, ht, rfl⟩ := move_iff_mem_tasks.mp hk'
      exact hrest.agenda_visited hfound t (List.mem_append_left _ ht)
    rw [List.map_cons, List.forall_mem_cons]
    refine ⟨.inr fun k' hk' => List.mem_cons_of_mem _ (hmoves k' hk'), fun k hk => ?_⟩
    rcases ih hfound k hk with ⟨htext, hseen⟩ | h
    · rcases mem_insert_iff.mp hseen with hs | hseen
      · have hk : k = ⟨s, text⟩ := by rw [← htext, ← hs]
        exact .inr fun k' hk' => List.mem_cons_of_mem _ (hmoves k' (hk ▸ hk'))
      · exact .inl ⟨htext, hseen⟩
    · exact .inr fun k' hk' => List.mem_cons_of_mem _ (h k' hk')

theorem Exploration.mem_of_reaches {s depth : Nat}
    (h : a.Exploration text [.visit s depth] ∅ false seen' visits) {k : Config}
    (hk : a.Reaches ⟨s, text⟩ k) : k ∈ visits.map Visit.config := by
  induction hk with
  | refl => exact h.agenda_visited rfl _ List.mem_cons_self
  | tail _ hmove ih => exact (h.closed rfl _ ih).resolve_left (fun h => by simp at h) _ hmove

-- ---------------------------------------------------------------------------
-- The search over a whole text
-- ---------------------------------------------------------------------------

theorem search_exploration (h : a.table ≠ #[]) (text : String) :
    a.Exploration text.toList [.visit 0 0] ∅ (a.accepts text) (a.search text).seen (a.visits text) := by
  obtain ⟨visits, htrail, hexp⟩ := a.explore_exploration text.toList [.visit 0 0] ∅ []
  simpa [accepts, Automaton.visits, search, h, htrail] using hexp

theorem state_lt_of_mem_visits {text : String} {v : Visit} (hv : v ∈ a.visits text) :
    v.state < a.size := by
  by_cases htable : a.table = #[]
  · simp [Automaton.visits, search, htable] at hv
  · have hreach := (search_exploration htable text).reaches_of_visit v hv
    rcases Relation.ReflTransGen.cases_tail hreach with heq | ⟨k, -, hmove⟩
    · have hstart : v.state = 0 := congrArg Config.state heq
      have hpos : a.size ≠ 0 := by simpa [size] using htable
      omega
    · obtain ⟨y, hd, -⟩ := move_iff.mp hmove
      exact target_lt_of_mem_targets hd

theorem accepts_iff_mem (a : Automaton) (text : String) :
    a.accepts text = true ↔ text.toList ∈ a.language := by
  by_cases htable : a.table = #[]
  · simp [accepts, search, htable, language_of_table_eq_empty htable]
  · have hexp := search_exploration htable text
    constructor
    · intro h
      obtain ⟨v, hv, hconfig⟩ := List.mem_map.mp (hexp.found_iff.mp h)
      rw [language, mem_languageFrom, ← hconfig]
      exact hexp.reaches_of_visit v hv
    · intro h
      by_contra hfalse
      rw [Bool.eq_false_of_not_eq_true hfalse] at hexp
      have := hexp.found_iff.mpr (hexp.mem_of_reaches h)
      cases this

/-- A text is accepted when a run leads from the start, with the whole text left, to the accept state
with nothing left. Without a table that is the empty text alone. -/
theorem accepts_iff_reaches (a : Automaton) (text : String) :
    (a.accepts text = true ↔ a.Reaches ⟨0, text.toList⟩ ⟨a.accept, []⟩) ∧
      (a.table = #[] → (a.accepts text = true ↔ text = "")) := by
  refine ⟨a.accepts_iff_mem text, fun htable => ?_⟩
  rw [accepts_iff_mem, language_of_table_eq_empty htable]
  simp

end

end Automaton

end Automata
