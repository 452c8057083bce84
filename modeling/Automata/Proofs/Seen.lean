import Automata.Proofs.Expansions

/-!
# Searches that begin with states seen

A state seen before is not expanded again, but the accept state is recognised all the same. So a search gets
as far as epsilon moves lead that leave no state seen before it (`Exploration.mem_visits_iff`).
-/

namespace Automata

namespace Automaton

def FreshStep (a : Automaton) (seen : StateSet) (s d : Nat) : Prop :=
  s ∉ seen ∧ d ∈ a.targets s Symbol.epsilon

/-- Epsilon moves out of states not seen lead from the one state to the other, which may have been seen. -/
abbrev LeadsOn (a : Automaton) (seen : StateSet) : Nat → Nat → Prop :=
  Relation.ReflTransGen (a.FreshStep seen)

/-- A move that a search of `text` can make: at its own position it does not leave a state seen before. -/
def FreshMove (a : Automaton) (text : List Char) (seen : StateSet) (k k' : Config) : Prop :=
  a.Move k k' ∧ ¬(k.rest = text ∧ k.state ∈ seen)

abbrev FreshlyReaches (a : Automaton) (text : List Char) (seen : StateSet) : Config → Config → Prop :=
  Relation.ReflTransGen (a.FreshMove text seen)

section
variable {a : Automaton} {text : List Char} {seen seen' : StateSet} {found : Bool} {visits : List Visit}
  {s depth : Nat} {k k' : Config}

-- ---------------------------------------------------------------------------
-- Moves that avoid what was seen
-- ---------------------------------------------------------------------------

theorem FreshlyReaches.reaches (h : a.FreshlyReaches text seen k k') : a.Reaches k k' :=
  Relation.ReflTransGen.mono (fun _ _ hmove => hmove.1) _ _ h

theorem FreshlyReaches.of_insert (h : a.FreshlyReaches text (seen.insert s) k k') :
    a.FreshlyReaches text seen k k' := by
  have hmono : ∀ m m', a.FreshMove text (seen.insert s) m m' → a.FreshMove text seen m m' :=
    fun m m' hmove => ⟨hmove.1, fun hseen => hmove.2 ⟨hseen.1, mem_insert_iff.mpr (.inr hseen.2)⟩⟩
  exact Relation.ReflTransGen.mono hmono _ _ h

/-- What was seen at a position does not matter behind it. -/
theorem FreshlyReaches.of_shorter (hshorter : k.rest.length < text.length) (h : a.Reaches k k') :
    a.FreshlyReaches text seen k k' := by
  induction h with
  | refl => exact .refl
  | @tail m m' hreach hmove ih =>
    refine ih.tail ⟨hmove, fun hseen => ?_⟩
    have hle : m.rest.length ≤ k.rest.length := (suffix_of_reaches hreach).length_le
    rw [hseen.1] at hle
    omega

theorem LeadsOn.freshlyReaches {t : Nat} (h : a.LeadsOn seen s t) (text : List Char) :
    a.FreshlyReaches text seen ⟨s, text⟩ ⟨t, text⟩ := by
  induction h with
  | refl => exact .refl
  | tail _ hstep ih => exact ih.tail ⟨.epsilon hstep.2, fun hseen => hstep.1 hseen.2⟩

theorem freshlyReaches_iff :
    a.FreshlyReaches text seen ⟨s, text⟩ k ↔ (k.rest = text ∧ a.LeadsOn seen s k.state) ∨
      ∃ t, a.LeadsOn seen s t ∧ t ∉ seen ∧ ∃ y ∈ a.alphabet, y ≠ Symbol.epsilon ∧
        ∃ rest, text = y.toList ++ rest ∧ ∃ d ∈ a.targets t y, a.Reaches ⟨d, rest⟩ k := by
  constructor
  · intro h
    induction h with
    | refl => exact .inl ⟨rfl, .refl⟩
    | @tail m m' _ hmove ih =>
      obtain ⟨hmove, hfresh⟩ := hmove
      rcases ih with ⟨rfl, hleads⟩ | ⟨t, hleads, ht, y, hy, hne, rest, htext, d, hd, hreach⟩
      · have hm : m.state ∉ seen := fun hseen => hfresh ⟨rfl, hseen⟩
        cases hmove with
        | epsilon hd => exact .inl ⟨rfl, hleads.tail ⟨hm, hd⟩⟩
        | symbol hy hne hd => exact .inr ⟨_, hleads, hm, _, hy, hne, _, rfl, _, hd, .refl⟩
      · exact .inr ⟨t, hleads, ht, y, hy, hne, rest, htext, d, hd, hreach.tail hmove⟩
  · rintro (⟨hrest, hleads⟩ | ⟨t, hleads, ht, y, hy, hne, rest, rfl, d, hd, hreach⟩)
    · obtain ⟨t, rest⟩ := k
      obtain rfl : rest = text := hrest
      exact hleads.freshlyReaches rest
    · have hshorter : rest.length < (y.toList ++ rest).length :=
        Symbol.length_lt_of_after? (Symbol.after?_eq_some_iff.mpr ⟨hne, rfl⟩)
      have hread : a.FreshMove (y.toList ++ rest) seen ⟨t, y.toList ++ rest⟩ ⟨d, rest⟩ :=
        ⟨.symbol hy hne hd, fun hseen => ht hseen.2⟩
      exact ((hleads.freshlyReaches _).tail hread).trans (FreshlyReaches.of_shorter hshorter hreach)

-- ---------------------------------------------------------------------------
-- Visits
-- ---------------------------------------------------------------------------

theorem Exploration.freshlyReaches {agenda : List (Task text)}
    (h : a.Exploration text agenda seen found seen' visits) :
    ∀ v ∈ visits, ∃ t ∈ agenda, a.FreshlyReaches text seen t.config v.config := by
  induction h with
  | done => simp
  | @readFound _ _ shorter _ _ _ _ _ _ hinner _ =>
    intro v hv
    exact ⟨_, List.mem_cons_self, FreshlyReaches.of_shorter shorter (hinner.reaches_of_visit v hv)⟩
  | @readFailed _ _ shorter _ _ _ _ _ _ _ _ _ hinner _ _ ih =>
    rw [List.forall_mem_append]
    constructor
    · intro v hv
      exact ⟨_, List.mem_cons_self, FreshlyReaches.of_shorter shorter (hinner.reaches_of_visit v hv)⟩
    · intro v hv
      obtain ⟨t, ht, hreach⟩ := ih v hv
      exact ⟨t, List.mem_cons_of_mem _ ht, hreach⟩
  | accept =>
    rw [List.forall_mem_singleton]
    exact ⟨_, List.mem_cons_self, .refl⟩
  | again _ _ _ ih =>
    rw [List.forall_mem_cons]
    refine ⟨⟨_, List.mem_cons_self, .refl⟩, fun v hv => ?_⟩
    obtain ⟨t, ht, hreach⟩ := ih v hv
    exact ⟨t, List.mem_cons_of_mem _ ht, hreach⟩
  | @expand text s _ _ seen _ _ _ _ hs _ ih =>
    rw [List.forall_mem_cons]
    refine ⟨⟨_, List.mem_cons_self, .refl⟩, fun v hv => ?_⟩
    obtain ⟨t, ht, hreach⟩ := ih v hv
    rcases List.mem_append.mp ht with ht | ht
    · have hmove : a.FreshMove text seen ⟨s, text⟩ t.config :=
        ⟨move_iff_mem_tasks.mpr ⟨t, ht, rfl⟩, fun hseen => hs hseen.2⟩
      exact ⟨_, List.mem_cons_self, .head hmove (FreshlyReaches.of_insert hreach)⟩
    · exact ⟨t, List.mem_cons_of_mem _ ht, FreshlyReaches.of_insert hreach⟩

theorem Exploration.freshlyReaches_of_mem (h : a.Exploration text [.visit s depth] seen found seen' visits)
    (hk : k ∈ visits.map Visit.config) : a.FreshlyReaches text seen ⟨s, text⟩ k := by
  obtain ⟨v, hv, rfl⟩ := List.mem_map.mp hk
  obtain ⟨t, ht, hreach⟩ := h.freshlyReaches v hv
  obtain rfl := List.mem_singleton.mp ht
  exact hreach

theorem Exploration.mem_visits_iff (h : a.Exploration text [.visit s depth] seen false seen' visits) :
    k ∈ visits.map Visit.config ↔ a.FreshlyReaches text seen ⟨s, text⟩ k := by
  refine ⟨h.freshlyReaches_of_mem, fun hk => ?_⟩
  induction hk with
  | refl => exact h.agenda_visited rfl _ List.mem_cons_self
  | tail _ hmove ih => exact (h.closed rfl _ ih).resolve_left hmove.2 _ hmove.1

theorem Exploration.found_iff_freshlyReaches
    (h : a.Exploration text [.visit s depth] seen found seen' visits) :
    found = true ↔ a.FreshlyReaches text seen ⟨s, text⟩ ⟨a.accept, []⟩ := by
  refine ⟨fun hfound => h.freshlyReaches_of_mem (h.found_iff.mp hfound), fun hreach => ?_⟩
  cases found with
  | true => rfl
  | false => exact h.found_iff.mpr (h.mem_visits_iff.mpr hreach)

theorem found_explore_iff_mem (a : Automaton) (text : List Char) (s depth : Nat) (trail : List Visit) :
    (a.explore text [.visit s depth] ∅ trail).found = true ↔ text ∈ a.languageFrom s := by
  obtain ⟨visits, -, h⟩ := a.explore_exploration text [.visit s depth] ∅ trail
  rw [h.found_iff_freshlyReaches, mem_languageFrom]
  have hmono : ∀ m m', a.Move m m' → a.FreshMove text ∅ m m' := fun m m' hmove => ⟨hmove, by simp⟩
  exact ⟨FreshlyReaches.reaches, Relation.ReflTransGen.mono hmono _ _⟩

-- ---------------------------------------------------------------------------
-- States seen
-- ---------------------------------------------------------------------------

theorem Exploration.mem_seen_iff {agenda : List (Task text)} {t : Nat}
    (h : a.Exploration text agenda seen found seen' visits) (hfound : found = false) :
    t ∈ seen' ↔ t ∈ seen ∨ ⟨t, text⟩ ∈ expansionsOf visits := by
  induction h with
  | done => simp
  | readFound => cases hfound
  | accept => cases hfound
  | @readFailed _ _ shorter _ _ _ _ _ _ _ _ _ hinner _ _ ih =>
    rw [expansionsOf_append, List.mem_append, or_iff_right (hinner.not_mem_of_shorter shorter t)]
    exact ih hfound
  | again _ _ _ ih => exact ih hfound
  | expand _ _ _ ih =>
    rw [ih hfound, mem_insert_iff, expansionsOf_cons_true, List.mem_cons, Config.mk.injEq,
      and_iff_left rfl, or_assoc, or_left_comm]

theorem Exploration.mem_expansionsOf_iff_leadsOn {t : Nat}
    (h : a.Exploration text [.visit s depth] seen false seen' visits) :
    ⟨t, text⟩ ∈ expansionsOf visits ↔ a.LeadsOn seen s t ∧ t ∉ seen := by
  constructor
  · intro hmem
    have ht : t ∉ seen := fun hseen => by
      have hcount := h.count_here_le t
      rw [if_pos hseen] at hcount
      exact absurd hmem (List.count_eq_zero.mp (Nat.le_zero.mp hcount))
    have hreach := h.freshlyReaches_of_mem (List.mem_map.mpr (exists_visit_of_mem_expansionsOf hmem))
    rcases freshlyReaches_iff.mp hreach with ⟨-, hleads⟩ | ⟨_, _, _, y, _, hne, rest, htext, _, _, hlater⟩
    · exact ⟨hleads, ht⟩
    · -- A symbol that is read does not come back.
      have hshorter := Symbol.length_lt_of_after? (Symbol.after?_eq_some_iff.mpr ⟨hne, htext⟩)
      have hle : text.length ≤ rest.length := (suffix_of_reaches hlater).length_le
      omega
  · rintro ⟨hleads, ht⟩
    have hvisited := h.mem_visits_iff.mpr (hleads.freshlyReaches text)
    exact (h.mem_expansionsOf rfl _ hvisited).resolve_left fun hseen => ht hseen.2

/-- A search that begins with states seen succeeds if and only if epsilon moves out of states not seen lead
to the accept state with nothing left, or to a state not seen where a symbol can be read behind which a
search that has seen nothing succeeds; depths and trails do not matter. If it fails, the states seen
afterwards are those seen before together with all states not seen to which such moves lead. -/
theorem explore_found_seen (a : Automaton) (text : List Char) (s depth depth' : Nat) (seen : StateSet)
    (trail trail' : List Visit) :
    ((a.explore text [.visit s depth] seen trail).found = true ↔
      (text = [] ∧ a.LeadsOn seen s a.accept) ∨
        ∃ t, a.LeadsOn seen s t ∧ t ∉ seen ∧ ∃ y ∈ a.alphabet, y ≠ Symbol.epsilon ∧
          ∃ rest, text = y.toList ++ rest ∧ ∃ d ∈ a.targets t y,
            (a.explore rest [.visit d depth'] ∅ trail').found = true) ∧
      ((a.explore text [.visit s depth] seen trail).found = false →
        ∀ t, t ∈ (a.explore text [.visit s depth] seen trail).seen ↔
          t ∈ seen ∨ a.LeadsOn seen s t ∧ t ∉ seen) := by
  obtain ⟨visits, -, h⟩ := a.explore_exploration text [.visit s depth] seen trail
  constructor
  · rw [h.found_iff_freshlyReaches, freshlyReaches_iff, eq_comm (b := text)]
    simp only [found_explore_iff_mem, mem_languageFrom]
  · intro hfailed t
    rw [h.mem_seen_iff hfailed]
    rw [hfailed] at h
    rw [h.mem_expansionsOf_iff_leadsOn]

end

end Automaton

end Automata
