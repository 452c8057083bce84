import Automata.Builder
import Automata.Log.Event
import Automata.Proofs.Exploration

/-! What a search records: one event for every visit, in the order of the search
(`Logged.report_accepts`). -/

namespace Automata

theorem Logged.report_accepts {ε : Type} (a : Automaton) (text : String) :
    (Logged.accepts a text : Logged ε Bool).report =
      (.ok (a.accepts text), (a.visits text).map .visiting) := by
  have hevents : ((a.search text).trail.map Event.visiting ++ []).reverse =
      (a.visits text).map .visiting := by
    rw [List.append_nil, Automaton.visits, List.map_reverse]
  exact congrArg (Prod.mk _) hevents

def Event.config? : Event → Option Config
  | .visiting v => some v.config
  | _ => none

namespace Automaton

/-- The configurations that the log of a test shows, in order. -/
def records (a : Automaton) (text : String) : List Config :=
  (Logged.accepts a text : Logged Empty Bool).report.2.filterMap Event.config?

section
variable {a : Automaton} {text : String}

theorem records_eq (a : Automaton) (text : String) : a.records text = (a.visits text).map Visit.config := by
  rw [records, Logged.report_accepts, List.filterMap_map]
  exact congrFun List.filterMap_eq_map (a.visits text)

/-- A search that succeeds ends with the visit that accepts, which is the only one of its kind. -/
theorem Exploration.ends {text : List Char} {agenda : List (Task text)} {seen seen' : StateSet}
    {found : Bool} {visits : List Visit} (h : a.Exploration text agenda seen found seen' visits)
    (hfound : found = true) : ∃ before, visits.map Visit.config = before ++ [⟨a.accept, []⟩] ∧
      ⟨a.accept, []⟩ ∉ before := by
  induction h with
  | done => cases hfound
  | readFound _ ih => exact ih rfl
  | @readFailed _ _ _ _ _ _ _ _ _ _ first _ hinner _ _ ih =>
    obtain ⟨before, hend, hnot⟩ := ih hfound
    exact ⟨first.map Visit.config ++ before, by simp [hend], by simpa [← hinner.found_iff] using hnot⟩
  | accept => exact ⟨[], rfl, List.not_mem_nil⟩
  | again hne _ _ ih | expand hne _ _ ih =>
    obtain ⟨before, hend, hnot⟩ := ih hfound
    refine ⟨_ :: before, congrArg (List.cons _) hend, ?_⟩
    rintro (_ | ⟨_, hmem⟩)
    · exact hne ⟨rfl, rfl⟩
    · exact hnot hmem

/-- The log of a test holds reachable configurations only. It holds all of them when the text is rejected,
none of which accepts; otherwise its last record accepts and no other does. -/
theorem records_sound_complete (h : a.table ≠ #[]) (text : String) :
    (∀ k ∈ a.records text, a.Reaches ⟨0, text.toList⟩ k) ∧
      (a.accepts text = false →
        (∀ k, k ∈ a.records text ↔ a.Reaches ⟨0, text.toList⟩ k) ∧ ⟨a.accept, []⟩ ∉ a.records text) ∧
      (a.accepts text = true →
        ∃ before, a.records text = before ++ [⟨a.accept, []⟩] ∧ ⟨a.accept, []⟩ ∉ before) := by
  have hexp := search_exploration h text
  have hsound : ∀ k ∈ a.records text, a.Reaches ⟨0, text.toList⟩ k := by
    intro k hk
    rw [records_eq] at hk
    obtain ⟨v, hv, rfl⟩ := List.mem_map.mp hk
    exact hexp.reaches_of_visit v hv
  refine ⟨hsound, fun hreject => ?_, fun haccept => ?_⟩
  · rw [hreject] at hexp
    refine ⟨fun k => ⟨hsound k, fun hk => ?_⟩, ?_⟩
    · rw [records_eq]
      exact hexp.mem_of_reaches hk
    · rw [records_eq, ← hexp.found_iff]
      exact Bool.false_ne_true
  · rw [records_eq]
    exact hexp.ends haccept

/-- Here epsilon moves lead round between the two states from which the letter can be read. -/
theorem records_sound_complete_cycle :
    ∃ a, build [.accept 2, .epsilonMove 0 1, .epsilonMove 1 0, .move "a" 1 2] = .ok a ∧
      a.table ≠ #[] ∧ a.accepts "b" = false ∧ a.accepts "a" = true ∧
      (∀ k, k ∈ a.records "b" ↔ a.Reaches ⟨0, "b".toList⟩ k) ∧ ⟨a.accept, []⟩ ∉ a.records "b" ∧
      ∃ before, a.records "a" = before ++ [⟨a.accept, []⟩] ∧ ⟨a.accept, []⟩ ∉ before := by
  obtain ⟨a, ha⟩ : ∃ a, build [.accept 2, .epsilonMove 0 1, .epsilonMove 1 0, .move "a" 1 2] = .ok a :=
    ⟨_, rfl⟩
  have htable : a.table ≠ #[] := by cases ha; exact nofun
  have haccept : a.accept = 2 := by cases ha; rfl
  have hsymbols : a.alphabet.toList = ["a"] := by cases ha; rfl
  have hepsilon : a.targets 0 "" = [1] ∧ a.targets 1 "" = [0] := by cases ha; exact ⟨rfl, rfl⟩
  have hletter : a.targets 0 "a" = [] ∧ a.targets 1 "a" = [2] := by cases ha; exact ⟨rfl, rfl⟩
  have hrejected : a.accepts "b" = false := by
    simp [accepts, search, explore, tasks, symbolTasks, Symbol.after?, Symbol.dropLetters?,
      Symbol.epsilon, htable, haccept, hsymbols, hepsilon]
  have haccepted : a.accepts "a" = true := by
    simp [accepts, search, explore, tasks, symbolTasks, Symbol.after?, Symbol.dropLetters?,
      Symbol.epsilon, htable, haccept, hsymbols, hepsilon, hletter]
  obtain ⟨hall, hnone⟩ := (records_sound_complete htable "b").2.1 hrejected
  exact ⟨a, ha, htable, hrejected, haccepted, hall, hnone,
    (records_sound_complete htable "a").2.2 haccepted⟩

end

end Automaton

end Automata
