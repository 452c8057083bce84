import Automata.Proofs.Records

/-!
# What can be observed of an automaton

A search looks at the accept state and at the states that symbols lead to, and at nothing else
(`Automaton.accepts_eq_of_alike`). The alphabet only decides which symbols are tried.
-/

namespace Automata

namespace Automaton

/-- Two automata with the same states, the same accept state and the same states behind every symbol. -/
structure Alike (a b : Automaton) : Prop where
  size : a.size = b.size
  accept : a.accept = b.accept
  targets : ∀ s < a.size, ∀ y d, d ∈ a.targets s y ↔ d ∈ b.targets s y

section
variable {a b : Automaton} {text : List Char} {s depth : Nat} {y : Symbol}

theorem Alike.targets_eq (h : a.Alike b) (s : Nat) (y : Symbol) : a.targets s y = b.targets s y := by
  by_cases hs : s < a.size
  · exact (a.ascending_targets s y).eq_of_mem_iff (b.ascending_targets s y) (h.targets s hs y)
  · have hs : a.size ≤ s := Nat.le_of_not_lt hs
    rw [Automaton.targets_eq_nil hs, Automaton.targets_eq_nil (h.size ▸ hs)]

theorem symbolTasks_congr (h : a.targets s y = b.targets s y) :
    a.symbolTasks text s depth y = b.symbolTasks text s depth y := by
  unfold symbolTasks
  split
  · rw [h]
  · rfl

theorem mem_alphabet_of_symbolTasks (h : a.symbolTasks text s depth y ≠ []) : y ∈ a.alphabet := by
  obtain ⟨t, ht⟩ := List.exists_mem_of_ne_nil _ h
  obtain ⟨rest, hafter, d, hd, -⟩ := mem_symbolTasks_iff.mp ht
  exact (symbol_of_mem_targets hd).resolve_left (Symbol.after?_eq_some_iff.mp hafter).1

theorem flatMap_filter_ne_nil {α β : Type} (f : α → List β) (l : List α) :
    (l.filter (f · ≠ [])).flatMap f = l.flatMap f := by
  induction l with
  | nil => rfl
  | cons x l ih =>
    rw [List.filter_cons, List.flatMap_cons, ← ih]
    split
    · rfl
    · rename_i hx
      have hempty : f x = [] := by simpa using hx
      rw [hempty, List.nil_append]

/-- The same states behind every symbol make the same tasks, in the same order. -/
theorem tasks_eq (h : ∀ y, a.targets s y = b.targets s y) : a.tasks text s depth = b.tasks text s depth := by
  have htasks : a.symbolTasks text s depth = b.symbolTasks text s depth :=
    funext fun y => symbolTasks_congr (h y)
  have hused : a.alphabet.filter (a.symbolTasks text s depth · ≠ []) =
      b.alphabet.filter (a.symbolTasks text s depth · ≠ []) := by
    apply Std.ExtTreeSet.ext_mem
    intro y
    simp only [Std.ExtTreeSet.mem_filter, Std.ExtTreeSet.get_eq, decide_eq_true_eq, exists_prop]
    refine and_congr_left fun hy => iff_of_true (mem_alphabet_of_symbolTasks hy) ?_
    rw [htasks] at hy
    exact mem_alphabet_of_symbolTasks hy
  have hlists := congrArg Std.ExtTreeSet.toList hused
  rw [Std.ExtTreeSet.toList_filter, Std.ExtTreeSet.toList_filter] at hlists
  rw [tasks, tasks, h Symbol.epsilon, ← flatMap_filter_ne_nil _ a.alphabet.toList, hlists,
    flatMap_filter_ne_nil, htasks]

theorem explore_eq (haccept : a.accept = b.accept)
    (htasks : ∀ text s depth, a.tasks text s depth = b.tasks text s depth) (text : List Char)
    (agenda : List (Task text)) (seen : StateSet) (trail : List Visit) :
    a.explore text agenda seen trail = b.explore text agenda seen trail := by
  fun_induction explore a text agenda seen trail with
  | case1 => rw [explore]
  | case2 text seen trail rest shorter s depth agenda inner hfound ih =>
    rw [explore, ← ih, if_pos hfound]
  | case3 text seen trail rest shorter s depth agenda inner hfound ih₁ ih₂ =>
    rw [explore, ← ih₁, if_neg hfound, ih₂]
  | case4 text seen trail s depth agenda h => rw [explore, if_pos (haccept ▸ h)]
  | case5 text seen trail s depth agenda h hs ih =>
    rw [explore, if_neg (haccept ▸ h), if_pos hs, ih]
  | case6 text seen trail s depth agenda h hs ih =>
    rw [explore, if_neg (haccept ▸ h), if_neg hs, ih, htasks]

theorem Alike.search_eq (h : a.Alike b) (text : String) : a.search text = b.search text := by
  have hempty : a.table.isEmpty = b.table.isEmpty := by
    rw [Array.isEmpty, Array.isEmpty]
    exact congrArg (decide <| · = 0) h.size
  have hexplore := explore_eq h.accept (fun _ s _ => tasks_eq (h.targets_eq s)) text.toList [.visit 0 0] ∅ []
  rw [search, search, hempty, hexplore]

/-- Alike automata give the same verdict and the same log, event by event. -/
theorem accepts_eq_of_alike {ε : Type} (h : a.Alike b) (text : String) :
    a.accepts text = b.accepts text ∧
      (Logged.accepts a text : Logged ε Bool).report.2 = (Logged.accepts b text : Logged ε Bool).report.2 := by
  have hsearch := h.search_eq text
  simp only [Logged.report_accepts, accepts, visits, hsearch, and_self]

/-- The second automaton has sinks beside a state and alone, an entry that is empty, a symbol that leads
nowhere and the empty symbol in its alphabet. -/
theorem accepts_eq_of_alike_sinks :
    ∃ a b, make {"a"} #[(∅ : Row).add "a" (.state 1), ∅] 1 = .ok a ∧
      make {"", "a", "b"} #[((∅ : Row).add "a" (.state 1)).add "a" .sink,
        ((∅ : Row).add "" .sink).insert "b" ∅] 1 = .ok b ∧
      a.Alike b ∧ ∀ text, a.accepts text = b.accepts text ∧
        (Logged.accepts a text : Logged Empty Bool).report.2 =
          (Logged.accepts b text : Logged Empty Bool).report.2 := by
  obtain ⟨a, ha⟩ : ∃ a, make {"a"} #[(∅ : Row).add "a" (.state 1), ∅] 1 = .ok a := ⟨_, rfl⟩
  obtain ⟨b, hb⟩ : ∃ b, make {"", "a", "b"} #[((∅ : Row).add "a" (.state 1)).add "a" .sink,
    ((∅ : Row).add "" .sink).insert "b" ∅] 1 = .ok b := ⟨_, rfl⟩
  obtain ⟨-, htable, haccept⟩ := make_eq_ok_iff.mp ha
  obtain ⟨-, htable', haccept'⟩ := make_eq_ok_iff.mp hb
  have halike : a.Alike b := by
    refine ⟨by rw [size, size, htable, htable']; rfl, haccept.trans haccept'.symm, fun s hs y d => ?_⟩
    obtain rfl | rfl : s = 0 ∨ s = 1 := by
      have : s < 2 := by simpa [size, htable] using hs
      omega
    · by_cases hy : "a" = y <;>
        simp [mem_targets_iff, htable, htable', Table.Leads, Row.Leads, Row.targets_eq, Row.getElem?_add, hy]
    · by_cases hy : "" = y <;> by_cases hy' : "b" = y <;>
        simp [mem_targets_iff, htable, htable', Table.Leads, Row.Leads, Row.targets_eq, Row.getElem?_add,
          Std.ExtTreeMap.getElem?_insert, hy, hy']
  exact ⟨a, b, ha, hb, halike, fun text => accepts_eq_of_alike halike text⟩

end

end Automaton

end Automata
