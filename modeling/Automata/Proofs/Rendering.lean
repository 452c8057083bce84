import Automata.Automaton.Render
import Automata.Builder
import Automata.Proofs.Encoding
import Automata.Proofs.Quoting
import Automata.Proofs.Tables
import Automata.Text.Numeral

/-!
# The written form tells the automaton

Each line and each item of a list ends in front of a character that it does not have itself, if the symbols
have neither a line end nor a comma (`Symbol.Legible`). A state without entries has no line, so the number of
states has to be known (`Automaton.eq_of_render_eq`).
-/

namespace Automata

namespace Text

theorem not_mem_toString {c : Char} (h : c.isDigit = false) (n : Nat) : c ∉ (toString n).toList := fun hmem =>
  Bool.false_ne_true (h.symm.trans (isDigit_of_mem_toString hmem))

/-- A list is cut at its commas. All items but the first one have a space in front. -/
theorem splitOn_intercalate_comma {x : List Char} {xs : List (List Char)} (hx : ',' ∉ x)
    (hxs : ∀ y ∈ xs, ',' ∉ y) :
    ([',', ' '].intercalate (x :: xs)).splitOn ',' = x :: xs.map (' ' :: ·) := by
  induction xs generalizing x with
  | nil => rw [List.intercalate_singleton, List.splitOn_eq_singleton hx, List.map_nil]
  | cons y xs ih =>
    rw [List.forall_mem_cons] at hxs
    have hspace : ' ' :: [',', ' '].intercalate (y :: xs) = [',', ' '].intercalate ((' ' :: y) :: xs) := by
      cases xs <;> simp
    rw [List.intercalate_cons_cons, List.append_assoc, List.cons_append, List.cons_append, List.nil_append,
      List.splitOn_append_cons_self_of_not_mem hx, hspace, ih (by simpa using hxs.1) hxs.2, List.map_cons]

theorem intercalate_comma_inj {xs ys : List (List Char)} (hxs : ∀ x ∈ xs, x ≠ [] ∧ ',' ∉ x)
    (hys : ∀ y ∈ ys, y ≠ [] ∧ ',' ∉ y) (h : [',', ' '].intercalate xs = [',', ' '].intercalate ys) :
    xs = ys := by
  have hcut := congrArg (List.splitOn ',') h
  cases xs with
  | nil =>
    cases ys with
    | nil => rfl
    | cons y ys =>
      rw [List.forall_mem_cons] at hys
      rw [splitOn_intercalate_comma hys.1.2 fun y hy => (hys.2 y hy).2] at hcut
      exact absurd (List.cons.inj hcut).1.symm hys.1.1
  | cons x xs =>
    rw [List.forall_mem_cons] at hxs
    rw [splitOn_intercalate_comma hxs.1.2 fun x hx => (hxs.2 x hx).2] at hcut
    cases ys with
    | nil => exact absurd (List.cons.inj hcut).1 hxs.1.1
    | cons y ys =>
      rw [List.forall_mem_cons] at hys
      rw [splitOn_intercalate_comma hys.1.2 fun y hy => (hys.2 y hy).2] at hcut
      obtain ⟨rfl, htail⟩ := List.cons.inj hcut
      rw [List.map_injective_iff.mpr (fun _ _ => (List.cons.inj · |>.2)) htail]

theorem join_lines_inj {xs ys : List String} (hxs : ∀ x ∈ xs, '\n' ∉ x.toList)
    (hys : ∀ y ∈ ys, '\n' ∉ y.toList)
    (h : String.join (xs.map (· ++ "\n")) = String.join (ys.map (· ++ "\n"))) : xs = ys := by
  rw [← String.toList_inj, String.toList_join, String.toList_join, List.flatMap_map, List.flatMap_map] at h
  induction xs generalizing ys with
  | nil =>
    cases ys with
    | nil => rfl
    | cons y ys => simp at h
  | cons x xs ih =>
    cases ys with
    | nil => simp at h
    | cons y ys =>
      rw [List.forall_mem_cons] at hxs hys
      rw [List.flatMap_cons, List.flatMap_cons, String.toList_append, String.toList_append, List.append_assoc,
        List.append_assoc] at h
      obtain ⟨hline, hrest⟩ := append_cons_inj hxs.1 hys.1 h
      rw [String.toList_inj.mp hline, ih hxs.2 hys.2 hrest]

end Text

/-- A symbol that its written form tells: it does not end a line or an item, and it is not the letter that
stands for epsilon. -/
structure Symbol.Legible (y : Symbol) : Prop where
  lineEnd : '\n' ∉ y.toList
  comma : ',' ∉ y.toList
  letter : y ≠ "ε"

-- ---------------------------------------------------------------------------
-- Items
-- ---------------------------------------------------------------------------

namespace Symbol

variable {y z : Symbol}

theorem legible_epsilon : Legible epsilon := ⟨by decide, by decide, by decide⟩

theorem render_ne (y : Symbol) : y.render ≠ "" := by
  unfold render
  split
  · decide
  · assumption

theorem Legible.not_mem_render (h : y.Legible) : '\n' ∉ y.render.toList ∧ ',' ∉ y.render.toList := by
  unfold render
  split
  · decide
  · exact ⟨h.lineEnd, h.comma⟩

theorem Legible.render_inj (hy : y.Legible) (hz : z.Legible) (h : y.render = z.render) : y = z := by
  unfold render at h
  split at h <;> split at h
  · simp_all
  · exact absurd h.symm hz.letter
  · exact absurd h hy.letter
  · exact h

end Symbol

namespace Target

theorem render_inj {t t' : Target} (h : t.render = t'.render) : t = t' := by
  have hdash : ∀ n : Nat, toString n ≠ "-" := fun n heq =>
    Text.not_mem_toString (c := '-') (by decide) n (by simp [heq])
  cases t with
  | state n =>
    cases t' with
    | state m => rw [Text.toString_inj h]
    | sink => exact absurd h (hdash n)
  | sink =>
    cases t' with
    | state m => exact absurd h.symm (hdash m)
    | sink => rfl

theorem render_ne (t : Target) : t.render ≠ "" := by
  cases t with
  | state n => exact Text.toString_ne_empty n
  | sink => decide

theorem not_mem_render (t : Target) : '\n' ∉ t.render.toList ∧ ',' ∉ t.render.toList := by
  cases t with
  | state n => exact ⟨Text.not_mem_toString (by decide) n, Text.not_mem_toString (by decide) n⟩
  | sink => decide

end Target

theorem braced_inj {xs ys : List String} (hxs : ∀ x ∈ xs, x ≠ "" ∧ ',' ∉ x.toList)
    (hys : ∀ y ∈ ys, y ≠ "" ∧ ',' ∉ y.toList) (h : braced xs = braced ys) : xs = ys := by
  have hitems : ∀ {xs : List String}, (∀ x ∈ xs, x ≠ "" ∧ ',' ∉ x.toList) →
      ∀ x ∈ xs.map String.toList, x ≠ [] ∧ ',' ∉ x := fun hxs =>
    List.forall_mem_map.mpr fun x hx => ⟨mt String.toList_eq_nil_iff.mp (hxs x hx).1, (hxs x hx).2⟩
  have hlist := congrArg String.toList h
  simp only [braced, String.toList_append, String.toList_intercalate] at hlist
  refine List.map_injective_iff.mpr (fun _ _ => String.toList_inj.mp) ?_
  exact Text.intercalate_comma_inj (hitems hxs) (hitems hys)
    (List.append_cancel_left (List.append_cancel_right hlist))

theorem lineEnd_not_mem_braced {xs : List String} (h : ∀ x ∈ xs, '\n' ∉ x.toList) :
    '\n' ∉ (braced xs).toList := by
  simp only [braced, String.toList_append, String.toList_intercalate, List.mem_append, not_or]
  refine ⟨⟨by decide, Text.not_mem_intercalate (by decide) ?_⟩, by decide⟩
  rwa [List.forall_mem_map]

-- ---------------------------------------------------------------------------
-- Lines of entries
-- ---------------------------------------------------------------------------

theorem targets_of_render_eq {ts ts' : TargetSet}
    (h : ts.toList.map Target.render = ts'.toList.map Target.render) : ts = ts' :=
  Std.ExtTreeSet.toList_inj.mp (List.map_injective_iff.mpr (fun _ _ => Target.render_inj) h)

section
variable {s s' : Nat} {y z : Symbol} {ts ts' : TargetSet}

theorem toList_renderEntry : (renderEntry s y ts).toList =
    ' ' :: ' ' :: '(' :: (y.render.toList ++ ',' :: ((toString s).toList ++ ')' ::
      (' ' :: '=' :: '>' :: ' ' :: (braced (ts.toList.map Target.render)).toList))) := by
  simp [renderEntry]

theorem renderEntry_inj (hy : y.Legible) (hz : z.Legible) (h : renderEntry s y ts = renderEntry s' z ts') :
    s = s' ∧ y = z ∧ ts = ts' := by
  have hparen : ∀ n : Nat, ')' ∉ (toString n).toList := Text.not_mem_toString (by decide)
  have hitems : ∀ {ts : TargetSet}, ∀ x ∈ ts.toList.map Target.render, x ≠ "" ∧ ',' ∉ x.toList :=
    List.forall_mem_map.mpr fun t _ => ⟨t.render_ne, t.not_mem_render.2⟩
  rw [← String.toList_inj, toList_renderEntry, toList_renderEntry] at h
  simp only [List.cons.injEq, true_and] at h
  -- The symbol may have a parenthesis, but it has no comma; the state has no parenthesis.
  obtain ⟨hsymbol, hrest⟩ := Text.append_cons_inj hy.not_mem_render.2 hz.not_mem_render.2 h
  obtain ⟨hstate, htargets⟩ := Text.append_cons_inj (hparen s) (hparen s') hrest
  simp only [List.cons.injEq, true_and] at htargets
  rw [String.toList_inj] at hsymbol hstate htargets
  exact ⟨Text.toString_inj hstate, hy.render_inj hz hsymbol,
    targets_of_render_eq (braced_inj hitems hitems htargets)⟩

theorem lineEnd_not_mem_renderEntry (hy : y.Legible) : '\n' ∉ (renderEntry s y ts).toList := by
  have hbraced : '\n' ∉ (braced (ts.toList.map Target.render)).toList :=
    lineEnd_not_mem_braced (List.forall_mem_map.mpr fun t _ => t.not_mem_render.1)
  have hstate : '\n' ∉ (toString s).toList := Text.not_mem_toString (by decide) s
  rw [toList_renderEntry]
  simp only [List.mem_cons, List.mem_append, hy.not_mem_render.1, hstate, hbraced, or_false, false_or]
  decide

end

-- ---------------------------------------------------------------------------
-- The written form
-- ---------------------------------------------------------------------------

section
variable {α β : Type} {f : α → β}

theorem mem_of_map_eq {xs ys : List α} (h : xs.map f = ys.map f)
    (hinj : ∀ x ∈ xs, ∀ y ∈ ys, f x = f y → x = y) : ∀ x ∈ xs, x ∈ ys := by
  intro x hx
  have hmem : f x ∈ ys.map f := h ▸ List.mem_map_of_mem hx
  obtain ⟨y, hy, heq⟩ := List.mem_map.mp hmem
  exact hinj x hx y hy heq.symm ▸ hy

end

namespace Automaton

variable {a b : Automaton}

theorem lines_eq (a : Automaton) : a.lines =
    ("ACCEPT: " ++ toString a.accept) :: ("ALPHABET: " ++ braced (a.alphabet.toList.map Symbol.render)) ::
      "TRANSITIONS:" :: a.table.entries.map fun (s, y, ts) => renderEntry s y ts := by
  rw [lines, Table.entries, List.map_flatMap]
  simp only [List.map_map]
  rfl

/-- States without entries have to be counted. -/
theorem table_eq_of_mem_entries_iff (hsize : a.size = b.size)
    (h : ∀ e, e ∈ a.table.entries ↔ e ∈ b.table.entries) : a.table = b.table := by
  refine Array.ext hsize fun s hs hs' => Std.ExtTreeMap.ext_getElem? fun y => Option.ext fun ts => ?_
  have hentry := h (s, y, ts)
  simpa [Table.mem_entries_iff, hs, hs'] using hentry

section
variable (ha : ∀ y ∈ a.alphabet, y.Legible)
include ha

theorem legible_of_mem_entries {s : Nat} {y : Symbol} {ts : TargetSet} (h : (s, y, ts) ∈ a.table.entries) :
    y.Legible := by
  obtain ⟨row, hrow, hts⟩ := Table.mem_entries_iff.mp h
  rcases (a.wellFormed.entry_ok s row hrow y ts hts).1 with rfl | hy
  · exact Symbol.legible_epsilon
  · exact ha y hy

theorem lineEnd_not_mem_lines : ∀ line ∈ a.lines, '\n' ∉ line.toList := by
  have haccept : '\n' ∉ ("ACCEPT: " ++ toString a.accept).toList := by
    rw [String.toList_append, List.mem_append, not_or]
    exact ⟨by decide, Text.not_mem_toString (by decide) _⟩
  have halphabet : '\n' ∉ ("ALPHABET: " ++ braced (a.alphabet.toList.map Symbol.render)).toList := by
    rw [String.toList_append, List.mem_append, not_or]
    refine ⟨by decide, lineEnd_not_mem_braced (List.forall_mem_map.mpr fun y hy => ?_)⟩
    exact (ha y (Std.ExtTreeSet.mem_toList.mp hy)).not_mem_render.1
  rw [lines_eq, List.forall_mem_cons, List.forall_mem_cons, List.forall_mem_cons, List.forall_mem_map]
  exact ⟨haccept, halphabet, by decide,
    fun e he => lineEnd_not_mem_renderEntry (legible_of_mem_entries ha he)⟩

variable (hb : ∀ y ∈ b.alphabet, y.Legible)
include hb

theorem mem_alphabet_of_braced_eq
    (h : braced (a.alphabet.toList.map Symbol.render) = braced (b.alphabet.toList.map Symbol.render)) :
    ∀ y ∈ a.alphabet, y ∈ b.alphabet := by
  have hitems : ∀ {alphabet : Alphabet}, (∀ y ∈ alphabet, y.Legible) →
      ∀ x ∈ alphabet.toList.map Symbol.render, x ≠ "" ∧ ',' ∉ x.toList := fun h =>
    List.forall_mem_map.mpr fun y hy =>
      ⟨y.render_ne, (h y (Std.ExtTreeSet.mem_toList.mp hy)).not_mem_render.2⟩
  have hmem := mem_of_map_eq (braced_inj (hitems ha) (hitems hb) h)
  simp only [Std.ExtTreeSet.mem_toList] at hmem
  exact hmem fun y hy z hz => (ha y hy).render_inj (hb z hz)

theorem mem_entries_of_map_eq (h : (a.table.entries.map fun (s, y, ts) => renderEntry s y ts) =
    b.table.entries.map fun (s, y, ts) => renderEntry s y ts) :
    ∀ e ∈ a.table.entries, e ∈ b.table.entries := by
  refine mem_of_map_eq h ?_
  rintro ⟨s, y, ts⟩ he ⟨s', z, ts'⟩ he' heq
  obtain ⟨rfl, rfl, rfl⟩ := renderEntry_inj (legible_of_mem_entries ha he) (legible_of_mem_entries hb he') heq
  rfl

end

/-- Automata with equally many states and the same written form are the same, whatever else their symbols
are like. -/
theorem eq_of_render_eq (hsize : a.size = b.size) (ha : ∀ y ∈ a.alphabet, y.Legible)
    (hb : ∀ y ∈ b.alphabet, y.Legible) (h : a.render = b.render) : a = b := by
  have hlines : a.lines = b.lines :=
    Text.join_lines_inj (lineEnd_not_mem_lines ha) (lineEnd_not_mem_lines hb) h
  rw [lines_eq, lines_eq] at hlines
  obtain ⟨haccept, hlines⟩ := List.cons.inj hlines
  obtain ⟨halphabet, hlines⟩ := List.cons.inj hlines
  obtain ⟨-, hentries⟩ := List.cons.inj hlines
  have hbraced := (String.append_right_inj _).mp halphabet
  apply ext
  · exact Std.ExtTreeSet.ext_mem fun y =>
      ⟨mem_alphabet_of_braced_eq ha hb hbraced y, mem_alphabet_of_braced_eq hb ha hbraced.symm y⟩
  · exact table_eq_of_mem_entries_iff hsize fun e =>
      ⟨mem_entries_of_map_eq ha hb hentries e, mem_entries_of_map_eq hb ha hentries.symm e⟩
  · exact Text.toString_inj ((String.append_right_inj _).mp haccept)

/-- Here the symbols look like parts of the written form, and the accept state has no entries. -/
theorem eq_of_render_eq_imitation :
    ∃ a b,
      build [.accept 1, .move "0) => \x7b0\x7d" 0 2, .sinkMove "  (" 0, .epsilonMove 2 0, .symbol "-"] =
        .ok a ∧
      build [.symbol "-", .epsilonMove 2 0, .sinkMove "  (" 0, .move "0) => \x7b0\x7d" 0 2, .accept 1] =
        .ok b ∧
      a.size = b.size ∧ (∀ y ∈ a.alphabet, y.Legible) ∧ (∀ y ∈ b.alphabet, y.Legible) ∧
      a.render = b.render ∧ a = b := by
  obtain ⟨a, ha⟩ : ∃ a, build [.accept 1, .move "0) => \x7b0\x7d" 0 2, .sinkMove "  (" 0, .epsilonMove 2 0,
    .symbol "-"] = .ok a := ⟨_, rfl⟩
  obtain ⟨b, hb⟩ : ∃ b, build [.symbol "-", .epsilonMove 2 0, .sinkMove "  (" 0, .move "0) => \x7b0\x7d" 0 2,
    .accept 1] = .ok b := ⟨_, rfl⟩
  have hsize : a.size = b.size := by cases ha; cases hb; rfl
  have hsymbols : a.alphabet.toList = ["  (", "-", "0) => \x7b0\x7d"] ∧
      b.alphabet.toList = ["  (", "-", "0) => \x7b0\x7d"] := by
    cases ha
    cases hb
    exact ⟨rfl, rfl⟩
  have hrender : a.render = b.render := by cases ha; cases hb; rfl
  have hlegible : ∀ y ∈ ["  (", "-", "0) => \x7b0\x7d"], Symbol.Legible y := by
    simp only [List.forall_mem_cons]
    exact ⟨⟨by decide, by decide, by decide⟩, ⟨by decide, by decide, by decide⟩,
      ⟨by decide, by decide, by decide⟩, nofun⟩
  have hla : ∀ y ∈ a.alphabet, y.Legible := by
    simpa only [← Std.ExtTreeSet.mem_toList, hsymbols.1] using hlegible
  have hlb : ∀ y ∈ b.alphabet, y.Legible := by
    simpa only [← Std.ExtTreeSet.mem_toList, hsymbols.2] using hlegible
  exact ⟨a, b, ha, hb, hsize, hla, hlb, hrender, eq_of_render_eq hsize hla hlb hrender⟩

end Automaton

end Automata
