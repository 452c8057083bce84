import Automata.Proofs.Exploration

/-!
# How deep a search is nested

Below an open call, an epsilon move leaves one state less that can still be expanded at the same position,
and a call behind a symbol may expand all states again but has less text left. So there are never more open
calls than pairs of a state and a position, and one (`Automaton.searchWithin_eq_search`).
-/

namespace Automata

/-- A call is about the text that is left, a state and its depth, the states expanded at the position and
the trail so far. -/
abbrev Call := (text : List Char) → (s depth : Nat) → StateSet → List Visit → Option Outcome

def Task.depth {text : List Char} : Task text → Nat
  | .visit _ depth => depth
  | .read _ _ _ depth => depth

namespace Automaton

/-- Does tasks one after the other until one succeeds. Those at this position share the states that were
expanded; a shorter text begins with none. -/
def inTurn (call : Call) {text : List Char} : List (Task text) → StateSet → List Visit → Option Outcome
  | [], seen, trail => some ⟨false, seen, trail⟩
  | .visit s depth :: agenda, seen, trail =>
    (call text s depth seen trail).bind fun o =>
      if o.found then some o else inTurn call agenda o.seen o.trail
  | .read rest _ s depth :: agenda, seen, trail =>
    (call rest s depth ∅ trail).bind fun o =>
      if o.found then some o else inTurn call agenda seen o.trail

/-- The recursive search, in which at most `limit` calls are open at one moment. -/
def nested (a : Automaton) (limit : Nat) : Call := fun text s depth seen trail =>
  match limit with
  | 0 => none
  | limit + 1 =>
    if text = [] ∧ s = a.accept then some ⟨true, seen, ⟨s, text, depth, false⟩ :: trail⟩
    else if s ∈ seen then some ⟨false, seen, ⟨s, text, depth, false⟩ :: trail⟩
    else
      inTurn (a.nested limit) (a.tasks text s (depth + 1)) (seen.insert s)
        (⟨s, text, depth, true⟩ :: trail)

def searchWithin (a : Automaton) (limit : Nat) (text : String) : Option Outcome :=
  if a.table.isEmpty then some ⟨text.isEmpty, ∅, []⟩ else a.nested limit text.toList 0 0 ∅ []

section
variable {a : Automaton} {call : Call} {text : List Char} {seen : StateSet} {trail : List Visit}
  {limit s depth : Nat}

-- ---------------------------------------------------------------------------
-- Agendas in parts
-- ---------------------------------------------------------------------------

theorem explore_append (a : Automaton) (text : List Char) (agenda later : List (Task text)) (seen : StateSet)
    (trail : List Visit) : a.explore text (agenda ++ later) seen trail =
      if (a.explore text agenda seen trail).found then a.explore text agenda seen trail
      else a.explore text later (a.explore text agenda seen trail).seen
        (a.explore text agenda seen trail).trail := by
  fun_induction explore a text agenda seen trail with
  | case1 => rfl
  | case2 text seen trail rest shorter s depth agenda inner hfound =>
    rw [List.cons_append, explore, if_pos hfound, if_pos hfound]
  | case3 text seen trail rest shorter s depth agenda inner hfound _ ih =>
    rw [List.cons_append, explore, if_neg hfound, ih]
  | case4 text seen trail s depth agenda h => rw [List.cons_append, explore, if_pos h, if_pos rfl]
  | case5 text seen trail s depth agenda h hs ih =>
    rw [List.cons_append, explore, if_neg h, if_pos hs, ih]
  | case6 text seen trail s depth agenda h hs ih =>
    rw [List.cons_append, explore, if_neg h, if_neg hs, ← List.append_assoc, ih]

theorem unseen_explore_le (a : Automaton) (text : List Char) (agenda : List (Task text)) (seen : StateSet)
    (trail : List Visit) (h : (a.explore text agenda seen trail).found = false) :
    a.unseen (a.explore text agenda seen trail).seen ≤ a.unseen seen := by
  fun_induction explore a text agenda seen trail with
  | case1 => exact Nat.le_refl _
  | case2 text seen trail rest shorter s depth agenda inner hfound =>
    rw [hfound] at h
    cases h
  | case3 text seen trail rest shorter s depth agenda inner hfound _ ih => exact ih h
  | case4 => cases h
  | case5 text seen trail s depth agenda _ _ ih => exact ih h
  | case6 text seen trail s depth agenda _ _ ih => exact Nat.le_trans (ih h) (a.unseen_insert_le seen s)

theorem inTurn_eq_explore {agenda : List (Task text)}
    (hvisit : ∀ s depth seen' trail, a.unseen seen' ≤ a.unseen seen →
      call text s depth seen' trail = some (a.explore text [.visit s depth] seen' trail))
    (hread : ∀ rest s depth trail, rest.length < text.length →
      call rest s depth ∅ trail = some (a.explore rest [.visit s depth] ∅ trail)) :
    inTurn call agenda seen trail = some (a.explore text agenda seen trail) := by
  induction agenda generalizing seen trail with
  | nil => rw [inTurn, explore]
  | cons t agenda ih =>
    cases t with
    | visit s depth =>
      have hsplit := a.explore_append text [.visit s depth] agenda seen trail
      rw [List.singleton_append] at hsplit
      rw [inTurn, hvisit s depth seen trail (Nat.le_refl _), Option.bind_some, hsplit]
      split
      · rfl
      · rename_i hfound
        have hle := a.unseen_explore_le text [.visit s depth] seen trail (Bool.eq_false_iff.mpr hfound)
        exact ih fun s depth seen' trail h => hvisit s depth seen' trail (Nat.le_trans h hle)
    | read rest shorter s depth =>
      rw [inTurn, hread rest s depth trail shorter, Option.bind_some, explore]
      split
      · rfl
      · exact ih hvisit

-- ---------------------------------------------------------------------------
-- Calls that are enough
-- ---------------------------------------------------------------------------

theorem unseen_empty (a : Automaton) : a.unseen ∅ = a.size := by
  simp [unseen]

/-- One call is enough where nothing can be expanded any more. Each state that can still be expanded here,
and each at a later position, is worth one more. -/
theorem nested_eq_explore (h : a.unseen seen + a.size * text.length < limit) :
    a.nested limit text s depth seen trail = some (a.explore text [.visit s depth] seen trail) := by
  induction limit generalizing text s depth seen trail with
  | zero => exact absurd h (Nat.not_lt_zero _)
  | succ limit ih =>
    rw [nested, explore]
    split
    · rfl
    split
    · rw [explore]
    rename_i hs
    rw [List.append_nil]
    by_cases hsize : s < a.size
    · have hless := unseen_insert_lt hsize hs
      refine inTurn_eq_explore (fun s depth seen' trail hseen' => ih ?_) fun rest s depth trail hrest => ih ?_
      · omega
      · have hlater : a.size * (rest.length + 1) ≤ a.size * text.length := Nat.mul_le_mul_left _ hrest
        rw [Nat.mul_add, Nat.mul_one] at hlater
        rw [unseen_empty]
        omega
    · rw [tasks_eq_nil (Nat.le_of_not_lt hsize), inTurn, explore]

-- ---------------------------------------------------------------------------
-- Depths of visits
-- ---------------------------------------------------------------------------

theorem depth_of_mem_tasks {t : Task text} (h : t ∈ a.tasks text s depth) : t.depth = depth := by
  simp only [tasks, List.mem_append, List.mem_map, List.mem_flatMap] at h
  rcases h with ⟨d, -, rfl⟩ | ⟨y, -, h⟩
  · rfl
  · obtain ⟨rest, -, d, -, rfl⟩ := mem_symbolTasks_iff.mp h
    rfl

theorem depth_lt_of_inTurn {bound : Nat} {agenda : List (Task text)} {o : Outcome}
    (hcall : ∀ text s seen trail o, call text s depth seen trail = some o →
      ∀ v ∈ o.trail, v ∈ trail ∨ v.depth < bound)
    (hagenda : ∀ t ∈ agenda, t.depth = depth) (h : inTurn call agenda seen trail = some o) :
    ∀ v ∈ o.trail, v ∈ trail ∨ v.depth < bound := by
  induction agenda generalizing seen trail with
  | nil =>
    cases h
    exact fun v hv => .inl hv
  | cons t agenda ih =>
    rw [List.forall_mem_cons] at hagenda
    obtain ⟨hdepth, hagenda⟩ := hagenda
    -- Either kind of task is one call, and the rest of the agenda if that fails.
    have hfirst : ∀ {text s seen trail next} {first : Outcome}, call text s depth seen trail = some first →
        (if first.found then some first else inTurn call agenda next first.trail) = some o →
        ∀ v ∈ o.trail, v ∈ trail ∨ v.depth < bound := by
      intro text s seen trail next first hfirst hrest v hv
      split at hrest
      · cases hrest
        exact hcall _ _ _ _ _ hfirst v hv
      · exact (ih hagenda hrest v hv).elim (hcall _ _ _ _ _ hfirst v) .inr
    cases t with
    | visit s depth =>
      cases hdepth
      obtain ⟨first, hcall', hrest⟩ := Option.bind_eq_some_iff.mp h
      exact hfirst hcall' hrest
    | read rest shorter s depth =>
      cases hdepth
      obtain ⟨first, hcall', hrest⟩ := Option.bind_eq_some_iff.mp h
      exact hfirst hcall' hrest

/-- The depth of a visit is the number of calls around its own. -/
theorem depth_lt_of_nested {o : Outcome} (h : a.nested limit text s depth seen trail = some o) :
    ∀ v ∈ o.trail, v ∈ trail ∨ v.depth < depth + limit := by
  induction limit generalizing text s depth seen trail o with
  | zero => cases h
  | succ limit ih =>
    have hhere : ∀ {expanded}, ∀ v ∈ ⟨s, text, depth, expanded⟩ :: trail,
        v ∈ trail ∨ v.depth < depth + (limit + 1) := by
      intro expanded v hv
      rcases List.mem_cons.mp hv with rfl | hv
      · exact .inr (Nat.lt_add_of_pos_right (Nat.succ_pos limit))
      · exact .inl hv
    rw [nested] at h
    split at h
    · cases h
      exact hhere
    split at h
    · cases h
      exact hhere
    intro v hv
    have hbound : depth + 1 + limit = depth + (limit + 1) := by omega
    refine (depth_lt_of_inTurn (fun _ _ _ _ _ hcall => ?_) (fun t ht => depth_of_mem_tasks ht) h v hv).elim
      (hhere v) .inr
    rw [← hbound]
    exact ih hcall

end

-- ---------------------------------------------------------------------------
-- The search over a whole text
-- ---------------------------------------------------------------------------

/-- With room for one call for each state and position, and one more, the recursion comes to an end with the
outcome of the search, and no visit lies deeper. -/
theorem searchWithin_eq_search (a : Automaton) (text : String) :
    a.searchWithin (a.size * (text.length + 1) + 1) text = some (a.search text) ∧
      ∀ v ∈ a.visits text, v.depth + 1 ≤ a.size * (text.length + 1) + 1 := by
  by_cases htable : a.table.isEmpty
  · simp [searchWithin, visits, search, htable]
  · have hlimit : a.unseen ∅ + a.size * text.toList.length < a.size * (text.length + 1) + 1 := by
      rw [unseen_empty, String.length_toList, Nat.mul_add, Nat.mul_one]
      omega
    have hsearch : a.searchWithin (a.size * (text.length + 1) + 1) text = some (a.search text) := by
      rw [searchWithin, search, if_neg htable, if_neg htable]
      exact nested_eq_explore hlimit
    refine ⟨hsearch, fun v hv => ?_⟩
    rw [searchWithin, if_neg htable] at hsearch
    have hdepth := depth_lt_of_nested hsearch v (List.mem_reverse.mp hv)
    rw [Nat.zero_add] at hdepth
    exact hdepth.resolve_left List.not_mem_nil

end Automaton

end Automata
