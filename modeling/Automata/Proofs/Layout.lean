import Automata.Proofs.Encoding
import Automata.Proofs.Reading

/-! The layout of a description: `Description.Shows` leaves the choice of blanks and comments to the writer,
and every text can be seen in this way (`shows_iff`, `laysOut_iff`). -/

namespace Automata

namespace Text

theorem isBlank_eq_false_of_isDigit {c : Char} (h : c.isDigit = true) : isBlank c = false := by
  have hranges : ∀ r ∈ blankRanges, r.2 < 48 ∨ 57 < r.1 := by decide
  have hc : 48 ≤ c.toNat ∧ c.toNat ≤ 57 := Char.isDigit_iff_toNat.mp h
  rw [Bool.eq_false_iff, ne_eq, isBlank, Ranges.contains_iff]
  rintro ⟨r, hr, hfirst, hlast⟩
  have := hranges r hr
  omega

end Text

namespace Description

def Plain (c : Char) : Prop := Text.isBlank c = false ∧ c ≠ '#'

instance : DecidablePred Plain := fun c => inferInstanceAs (Decidable (Text.isBlank c = false ∧ c ≠ '#'))

def IsToken (token : String) : Prop := token ≠ "" ∧ ∀ c ∈ token.toList, Plain c

/-- The tokens that a line shows. A token goes on until a blank, a comment or the end of the line. -/
inductive Shows : List Char → List String → Prop
  | nil : Shows [] []
  | comment {rest : List Char} : Shows ('#' :: rest) []
  | blank {c : Char} {line : List Char} {ts : List String} :
      Text.isBlank c = true → Shows line ts → Shows (c :: line) ts
  | token {token : String} {line : List Char} {ts : List String} :
      IsToken token → (∀ c ∈ line.head?, ¬Plain c) → Shows line ts →
      Shows (token.toList ++ line) (token :: ts)

inductive ShowsAll : List (List Char) → List (List String) → Prop
  | nil : ShowsAll [] []
  | idle {line : List Char} {lines : List (List Char)} {rows : List (List String)} :
      Shows line [] → ShowsAll lines rows → ShowsAll (line :: lines) rows
  | row {line : List Char} {ts : List String} {lines : List (List Char)} {rows : List (List String)} :
      Shows line ts → ts ≠ [] → ShowsAll lines rows → ShowsAll (line :: lines) (ts :: rows)

/-- The lines of the text that count have these tokens. -/
def LaysOut (text : String) (rows : List (List String)) : Prop :=
  ∃ lines, lines ≠ [] ∧ (∀ line ∈ lines, '\n' ∉ line) ∧ text.toList = ['\n'].intercalate lines ∧
    ShowsAll lines rows

section
variable {c : Char} {line : List Char} {ts : List String} {rows : List (List String)}

-- ---------------------------------------------------------------------------
-- Cutting a line
-- ---------------------------------------------------------------------------

theorem not_plain_iff : ¬Plain c ↔ Text.isBlank c = true ∨ c = '#' := by
  rw [Plain, not_and_or, Bool.not_eq_false, ne_eq, not_not]

theorem ne_sign_of_isBlank (h : Text.isBlank c = true) : c ≠ '#' := by
  rintro rfl
  exact absurd h (by decide)

theorem words_comment (rest : List Char) : words ('#' :: rest) = [] := by
  simp [words]

theorem words_blank (h : Text.isBlank c = true) (line : List Char) : words (c :: line) = words line := by
  rw [words, List.takeWhile_cons_of_pos (by simpa using ne_sign_of_isBlank h),
    List.splitOnP_cons_eq_if_modifyHead, if_pos h, List.filter_cons_of_neg (by simp)]
  rfl

theorem words_token {token : String} (htoken : IsToken token) (hend : ∀ c ∈ line.head?, ¬Plain c) :
    words (token.toList ++ line) = token :: words line := by
  have hblank : ∀ c ∈ token.toList, Text.isBlank c = false := fun c hc => (htoken.2 c hc).1
  have hne : token.toList ≠ [] := mt String.toList_eq_nil_iff.mp htoken.1
  have hone : ((token.toList.splitOnP Text.isBlank).filter (· ≠ [])).map String.ofList = [token] := by
    rw [List.splitOnP_eq_singleton hblank, List.filter_cons_of_pos (by simpa using hne)]
    simp
  rw [words, List.takeWhile_append_of_pos fun c hc => by simpa using (htoken.2 c hc).2]
  -- The token is followed by the end of the line, a blank or a comment.
  cases line with
  | nil => simpa [words] using hone
  | cons c line =>
    rcases not_plain_iff.mp (hend c rfl) with hc | rfl
    · rw [words_blank hc, List.takeWhile_cons_of_pos (by simpa using ne_sign_of_isBlank hc),
        List.splitOnP_append_cons_of_forall_mem hblank c hc, List.filter_cons_of_pos (by simpa using hne),
        List.map_cons, String.ofList_toList]
      rfl
    · rw [words_comment, List.takeWhile_cons_of_neg (by simp), List.append_nil]
      exact hone

theorem Shows.words_eq (h : Shows line ts) : words line = ts := by
  induction h with
  | nil => rfl
  | comment => exact words_comment _
  | blank hc _ ih => rw [words_blank hc, ih]
  | token htoken hend _ ih => rw [words_token htoken hend, ih]

theorem Shows.exists_cons (h : Shows line ts) (hc : Plain c) : ∃ ts, Shows (c :: line) ts := by
  have halone : (∀ d ∈ line.head?, ¬Plain d) → ∃ ts, Shows (c :: line) ts := by
    intro hend
    have hone : IsToken (String.ofList [c]) := ⟨by simp, by simpa using hc⟩
    exact ⟨_, by simpa using Shows.token hone hend h⟩
  cases h with
  | nil => exact halone nofun
  | comment => exact halone (by simp [Plain])
  | blank hblank => exact halone (by simp [Plain, hblank])
  | @token token line ts htoken hend hline =>
    have hlonger : IsToken (String.ofList (c :: token.toList)) :=
      ⟨by simp, by simpa using ⟨hc, htoken.2⟩⟩
    exact ⟨_, by simpa using Shows.token hlonger hend hline⟩

theorem exists_shows (line : List Char) : ∃ ts, Shows line ts := by
  induction line with
  | nil => exact ⟨[], .nil⟩
  | cons c line ih =>
    obtain ⟨ts, hts⟩ := ih
    by_cases hc : Plain c
    · exact hts.exists_cons hc
    · rcases not_plain_iff.mp hc with hblank | rfl
      · exact ⟨ts, .blank hblank hts⟩
      · exact ⟨[], .comment⟩

theorem shows_iff : Shows line ts ↔ words line = ts := by
  refine ⟨Shows.words_eq, ?_⟩
  rintro rfl
  obtain ⟨ts, hts⟩ := exists_shows line
  rwa [hts.words_eq]

theorem Shows.isToken (h : Shows line ts) : ∀ token ∈ ts, IsToken token := by
  induction h with
  | nil | comment => exact nofun
  | blank _ _ ih => exact ih
  | token htoken _ _ ih => exact List.forall_mem_cons.mpr ⟨htoken, ih⟩

-- ---------------------------------------------------------------------------
-- Cutting a text
-- ---------------------------------------------------------------------------

theorem showsAll_iff {lines : List (List Char)} :
    ShowsAll lines rows ↔ (lines.map words).filter (· ≠ []) = rows := by
  constructor
  · intro h
    induction h with
    | nil => rfl
    | idle hline _ ih => rw [List.map_cons, hline.words_eq, List.filter_cons_of_neg (by simp), ih]
    | row hline hne _ ih =>
      rw [List.map_cons, hline.words_eq, List.filter_cons_of_pos (by simpa using hne), ih]
  · rintro rfl
    induction lines with
    | nil => exact .nil
    | cons line lines ih =>
      by_cases h : words line = []
      · simpa [h] using ShowsAll.idle (shows_iff.mpr h) ih
      · simpa [h] using ShowsAll.row (shows_iff.mpr rfl) h ih

theorem map_snd_entries (text : String) :
    (entries text).map Prod.snd = ((text.toList.splitOn '\n').map words).filter (· ≠ []) := by
  have hwords : (text.toList.splitOn '\n').map words =
      ((text.toList.splitOn '\n').zipIdx 1).map fun line => words line.1 := by
    conv_lhs => rw [← List.zipIdx_map_fst 1 (text.toList.splitOn '\n'), List.map_map]
    rfl
  rw [hwords, entries, List.filter_map, List.filter_map, List.map_map]
  rfl

theorem laysOut_iff {text : String} : LaysOut text rows ↔ (entries text).map Prod.snd = rows := by
  rw [map_snd_entries, ← showsAll_iff]
  constructor
  · rintro ⟨lines, hne, hlines, htext, hshows⟩
    rwa [htext, List.splitOn_intercalate '\n' hlines hne]
  · intro h
    refine ⟨_, List.splitOn_ne_nil _ _, ?_, (List.intercalate_splitOn '\n').symm, h⟩
    rw [List.splitOn_eq_splitOnP, ← Text.segments_eq_splitOnP]
    exact Text.not_mem_of_mem_segments

theorem LaysOut.isToken {text : String} (h : LaysOut text rows) :
    ∀ ts ∈ rows, ∀ token ∈ ts, IsToken token := by
  obtain ⟨lines, -, -, -, hshows⟩ := h
  induction hshows with
  | nil => exact nofun
  | idle _ _ ih => exact ih
  | row hline _ _ ih => exact List.forall_mem_cons.mpr ⟨hline.isToken, ih⟩

end

end Description

end Automata
