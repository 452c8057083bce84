import Automata.Proofs.Files
import Automata.Proofs.Overflow

/-! Which errors a description can have. All but one name a line that has a token
(`Description.Reported`). -/

namespace Automata

namespace Text

theorem readDigits_ne_empty (value : Nat) (digits : List Char) :
    readDigits value digits ≠ .error .empty := by
  induction digits generalizing value with
  | nil => simp [readDigits]
  | cons c digits ih =>
    rw [readDigits]
    dsimp only
    split
    · split
      · exact ih _
      · simp
    · simp

theorem ne_empty_of_readNumeral {token : String} {e : NumeralError} (htoken : token ≠ "")
    (h : readNumeral token = .error e) : e ≠ .empty := by
  rintro rfl
  unfold readNumeral at h
  split at h
  · rename_i hnil
    exact htoken (String.toList_eq_nil_iff.mp hnil)
  · exact readDigits_ne_empty _ _ h
  · exact readDigits_ne_empty _ _ h

end Text

/-- The line that an error names. -/
def ReadError.line? : ReadError → Option Nat
  | .incompleteTransition n | .illFormedTransition n | .build _ n | .numeral _ n => some n
  | .missingAccept | .file _ => none

namespace Description

def TokensAt (text : String) (n : Nat) (ts : List String) : Prop :=
  ∃ i line, n = i + 1 ∧ (Text.lines text)[i]? = some line ∧ tokens line = ts

/-- The errors that are reported of a text. -/
inductive Reported (text : String) : ReadError → Prop
  | missingAccept : (∀ line ∈ Text.lines text, tokens line = []) → Reported text .missingAccept
  | incompleteTransition {n : Nat} {token : String} :
      TokensAt text n [token] → Reported text (.incompleteTransition n)
  | illFormedTransition {n : Nat} {ts : List String} :
      TokensAt text n ts → 3 < ts.length → Reported text (.illFormedTransition n)
  | numeral {n : Nat} {ts : List String} {token : String} {e : NumeralError} :
      TokensAt text n ts → token ∈ ts → Text.readNumeral token = .error e → e ≠ .empty →
      Reported text (.numeral e n)
  /-- This is an error of the first line that has a token. -/
  | duplicateAccept {n p q : Nat} {token other : String} {others : List String} :
      TokensAt text n (token :: others) → (∀ m < n, ∀ ts, TokensAt text m ts → ts = []) →
      Text.Denotes token p → other ∈ others → Text.Denotes other q → p ≠ q →
      Reported text (.build (.duplicateAccept p q) n)

section
variable {text : String} {n : Nat} {ts : List String}

-- ---------------------------------------------------------------------------
-- Lines of the text
-- ---------------------------------------------------------------------------

theorem significant_lines (text : String) :
    significant ((Text.lines text).map .ok) = significant (linesOfText text) := by
  have hreturn : ∀ part : List Char,
      content (.ok (String.ofList (part ++ ['\r']))) = content (.ok (String.ofList part)) := by
    intro part
    rw [String.ofList_append]
    exact content_push_return (.ok (String.ofList part))
  rw [Text.lines_eq, List.map_map, Function.comp_def, significant_handedOver rfl hreturn]
  rfl

theorem mem_entries_iff : (n, ts) ∈ entries text ↔ TokensAt text n ts ∧ ts ≠ [] := by
  have hmem : (n, ts) ∈ entries text ↔ (n, .ok ts) ∈ significant ((Text.lines text).map .ok) := by
    rw [significant_lines, significant_linesOfText]
    simp
  rw [hmem, significant, List.zipIdx_map, List.filterMap_map, TokensAt]
  simp only [List.mem_filterMap, Function.comp_apply, Prod.exists, Prod.map_apply, id_eq,
    List.mem_zipIdx_iff_le_and_getElem?_sub]
  constructor
  · rintro ⟨line, m, ⟨hm, hline⟩, hsome⟩
    split at hsome
    · cases hsome
    · rename_i hne
      cases hsome
      exact ⟨⟨n - 1, line, (Nat.sub_add_cancel hm).symm, hline, rfl⟩, hne⟩
  · rintro ⟨⟨i, line, rfl, hline, rfl⟩, hne⟩
    exact ⟨line, i + 1, ⟨by omega, hline⟩, if_neg hne⟩

theorem ordered_entries (text : String) : (entries text).Pairwise fun line line' => line.1 < line'.1 := by
  refine List.Pairwise.filter _ (List.pairwise_map.mpr ?_)
  rw [← List.pairwise_map (f := Prod.snd), List.zipIdx_map_snd]
  exact List.pairwise_lt_range'

theorem TokensAt.le_length (h : TokensAt text n ts) : 1 ≤ n ∧ n ≤ (Text.lines text).length := by
  obtain ⟨i, line, rfl, hline, -⟩ := h
  exact ⟨by omega, (List.getElem?_eq_some_iff.mp hline).1⟩

theorem eq_nil_of_lt_first {first : List String} {later : List (Nat × List String)} {m : Nat}
    (hentries : entries text = (n, first) :: later) (hm : m < n) (h : TokensAt text m ts) : ts = [] := by
  by_contra hne
  have hmem := mem_entries_iff.mpr ⟨h, hne⟩
  have hordered := ordered_entries text
  rw [hentries] at hmem hordered
  rcases List.mem_cons.mp hmem with heq | hmem
  · cases heq
    exact Nat.lt_irrefl _ hm
  · exact Nat.lt_asymm hm ((List.pairwise_cons.mp hordered).1 _ hmem)

-- ---------------------------------------------------------------------------
-- Errors
-- ---------------------------------------------------------------------------

theorem BadTransition.reported {e : ReadError} (h : BadTransition n ts e) (hts : TokensAt text n ts)
    (htokens : ∀ token ∈ ts, token ≠ "") : Reported text e := by
  cases h with
  | incomplete => exact .incompleteTransition hts
  | illFormed hlength => exact .illFormedTransition hts hlength
  | source htoken | dest _ htoken | symbolSource htoken | symbolDest _ _ htoken =>
    exact .numeral hts (by simp) htoken (Text.ne_empty_of_readNumeral (htokens _ (by simp)) htoken)

theorem Judged.reported {e : ReadError} {lines : List (Nat × List String)}
    (h : Judged lines (.error e)) (hentries : entries text = lines) : Reported text e := by
  have hline : ∀ {m ts}, (m, ts) ∈ lines → TokensAt text m ts ∧ ∀ token ∈ ts, token ≠ "" := by
    intro m ts hmem
    rw [← hentries] at hmem
    exact ⟨(mem_entries_iff.mp hmem).1, ne_empty_of_mem_entries hmem⟩
  cases h with
  | noLine =>
    refine .missingAccept fun line hline => ?_
    obtain ⟨i, hi⟩ := List.mem_iff_getElem?.mp hline
    by_contra hne
    have hmem := mem_entries_iff.mpr ⟨⟨i, line, rfl, hi, rfl⟩, hne⟩
    rw [hentries] at hmem
    cases hmem
  | acceptNumeral _ htoken =>
    obtain ⟨hts, htokens⟩ := hline List.mem_cons_self
    exact .numeral hts (by simp) htoken (Text.ne_empty_of_readNumeral (htokens _ (by simp)) htoken)
  | acceptTwice hsame htoken hne _ =>
    obtain ⟨first, others, rfl⟩ := List.exists_cons_of_ne_nil hsame.1
    exact .duplicateAccept (hline List.mem_cons_self).1 (fun m hm ts => eq_nil_of_lt_first hentries hm)
      (hsame.2 first List.mem_cons_self) (by simp) htoken hne
  | badTransition _ _ hbad =>
    obtain ⟨hts, htokens⟩ := hline (List.mem_cons_of_mem _ (List.mem_append_right _ List.mem_cons_self))
    exact hbad.reported hts htokens

theorem Reported.line_le {e : ReadError} (h : Reported text e) :
    ∀ n ∈ e.line?, 1 ≤ n ∧ n ≤ (Text.lines text).length := by
  cases h with
  | missingAccept => exact nofun
  | incompleteTransition hts | illFormedTransition hts | numeral hts | duplicateAccept hts =>
    rintro n ⟨⟩
    exact hts.le_length

end

end Description

namespace Automaton

/-- The error of a text is that no line has a token, or it names a line of the text that has one: a line with
too few or too many tokens, a token on it that is not a numeral, or two accept states on the first line
that has a token. No other error of a builder is passed on, no error comes from the end of the text or
from its delivery, and no numeral is found empty. -/
theorem read_error_reported {text : String} {e : ReadError} (h : read text = .error (.error e)) :
    Description.Reported text e ∧ (∀ n ∈ e.line?, 1 ≤ n ∧ n ≤ (Text.lines text).length) ∧
      (∀ e' n, e = .build e' n → ∃ p q, e' = .duplicateAccept p q) ∧ (∀ f, e ≠ .file f) ∧
      ∀ n, e ≠ .numeral .empty n := by
  have hreported : Description.Reported text e := by
    have houtcome := Description.outcome_read text
    rw [h] at houtcome
    cases houtcome with
    | error _ hverdict => exact hverdict.reported rfl
  refine ⟨hreported, hreported.line_le, ?_, ?_, ?_⟩
  · rintro _ _ rfl
    cases hreported
    exact ⟨_, _, rfl⟩
  · rintro _ rfl
    cases hreported
  · rintro _ rfl
    cases hreported with
    | numeral _ _ _ hne => exact hne rfl

/-- The accept state is given three times, once in another spelling and once as another state. -/
theorem read_error_reported_duplicate :
    let text := "\n# states\r\n 3 +03 4#5\n0 1\n"
    let e := ReadError.build (.duplicateAccept 3 4) 3
    read text = .error (.error e) ∧ Description.Reported text e ∧
      (∀ n ∈ e.line?, 1 ≤ n ∧ n ≤ (Text.lines text).length) ∧
      (∀ e' n, e = .build e' n → ∃ p q, e' = .duplicateAccept p q) ∧ (∀ f, e ≠ .file f) ∧
      ∀ n, e ≠ .numeral .empty n := by
  have h : read "\n# states\r\n 3 +03 4#5\n0 1\n" = .error (.error (.build (.duplicateAccept 3 4) 3)) := by
    decide +kernel
  exact ⟨h, read_error_reported h⟩

end Automaton

end Automata
