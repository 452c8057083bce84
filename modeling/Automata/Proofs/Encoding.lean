import Automata.Source
import Automata.Text.Lines
import Mathlib.Data.List.Basic

/-!
# Lines of bytes and lines of a text

In UTF-8 a byte below 128 stands for the character of that number alone (`Text.eq_of_ascii_mem`). So lines
can be cut before they are decoded (`Source.lines_utf8`).
-/

namespace Automata

namespace Text

section
variable {α β : Type} {p : α → Bool}

theorem segments_ne_nil (xs : List α) : segments p xs ≠ [] := by
  rw [← List.length_pos_iff, length_segments]
  omega

theorem segments_append_separator {s : α} (hs : p s) (xs ys : List α) :
    segments p (xs ++ s :: ys) = segments p xs ++ segments p ys := by
  induction xs with
  | nil => simp [segments_cons, segments_nil, hs]
  | cons x xs ih =>
    rw [List.cons_append, segments_cons, segments_cons, ih]
    split
    · rfl
    · obtain ⟨first, more, heq⟩ := List.exists_cons_of_ne_nil (segments_ne_nil (p := p) xs)
      rw [heq]
      rfl

theorem segments_append_of_forall {xs : List α} (h : ∀ x ∈ xs, p x = false) (ys : List α) :
    segments p (xs ++ ys) = (segments p ys).modifyHead (xs ++ ·) := by
  induction xs with
  | nil => cases hys : segments p ys <;> simp [hys]
  | cons x xs ih =>
    rw [List.forall_mem_cons] at h
    rw [List.cons_append, segments_cons, h.1, ih h.2]
    cases segments p ys <;> simp

theorem intercalate_append_cons (s : α) (before after : List (List α)) (line : List α) :
    [s].intercalate (before ++ line :: after) =
      before.flatMap (· ++ [s]) ++ line ++ after.flatMap (s :: ·) := by
  induction before with
  | nil =>
    induction after generalizing line with
    | nil => simp
    | cons next after ih => simpa using ih next
  | cons first before ih =>
    rw [List.cons_append, List.flatMap_cons, List.append_assoc, List.append_assoc, ← List.append_assoc _ line,
      ← ih]
    cases before <;> simp

theorem not_mem_intercalate {s : α} {sep : List α} {lines : List (List α)} (hsep : s ∉ sep)
    (h : ∀ line ∈ lines, s ∉ line) : s ∉ sep.intercalate lines := by
  induction lines with
  | nil => exact List.not_mem_nil
  | cons line lines ih =>
    rw [List.forall_mem_cons] at h
    cases lines with
    | nil => simpa using h.1
    | cons next lines =>
      rw [List.intercalate_cons_cons, List.mem_append, List.mem_append, not_or, not_or]
      exact ⟨⟨h.1, hsep⟩, ih h.2⟩

section
variable [BEq α] [LawfulBEq α] {s : α}

theorem intercalate_segments (xs : List α) : [s].intercalate (segments (· == s) xs) = xs := by
  induction xs with
  | nil => rfl
  | cons x xs ih =>
    obtain ⟨first, more, heq⟩ := List.exists_cons_of_ne_nil (segments_ne_nil (p := (· == s)) xs)
    rw [heq] at ih
    rw [segments_cons, heq]
    split
    · rename_i hx
      simp [eq_of_beq hx, ih]
    · rw [← ih]
      cases more <;> simp

theorem not_mem_of_mem_segments {xs : List α} : ∀ line ∈ segments (· == s) xs, s ∉ line := by
  induction xs with
  | nil => simp [segments_nil]
  | cons x xs ih =>
    obtain ⟨first, more, heq⟩ := List.exists_cons_of_ne_nil (segments_ne_nil (p := (· == s)) xs)
    rw [heq, List.forall_mem_cons] at ih
    rw [segments_cons, heq]
    split
    · exact List.forall_mem_cons.mpr ⟨List.not_mem_nil, List.forall_mem_cons.mpr ih⟩
    · rename_i hx
      refine List.forall_mem_cons.mpr ⟨?_, ih.2⟩
      rw [List.mem_cons, not_or]
      exact ⟨fun h => hx (beq_iff_eq.mpr h.symm), ih.1⟩

end

/-- The lines that a reader of lines hands over, given the parts between line feeds: a carriage return in
front of a line feed goes with it, and there is no line behind the last line feed. -/
def handedOver [DecidableEq α] (ret : α) (parts : List (List α)) : List (List α) :=
  let closed := parts.dropLast.map fun line => if line.getLast? = some ret then line.dropLast else line
  match parts.getLast? with
  | none | some [] => closed
  | some line => closed ++ [line]

theorem lines_eq (text : String) : lines text =
    (handedOver '\r' (segments (· == '\n') text.toList)).map String.ofList := by
  unfold lines handedOver dropReturn
  cases h : (segments (· == '\n') text.toList).getLast? with
  | none => simp [h]
  | some line => cases line <;> simp [h]

end

-- ---------------------------------------------------------------------------
-- Bytes of a character
-- ---------------------------------------------------------------------------

/-- The bytes of a character by its number. Behind the first byte, and in it too where there are several,
stand the digits of the number to the base 64. -/
theorem utf8EncodeChar_digits (c : Char) :
    (c.toNat < 128 ∧ String.utf8EncodeChar c = [.ofNat c.toNat]) ∨
    ((128 ≤ c.toNat ∧ c.toNat < 2048) ∧
      String.utf8EncodeChar c = [.ofNat (c.toNat / 64 + 192), .ofNat (c.toNat % 64 + 128)]) ∨
    ((2048 ≤ c.toNat ∧ c.toNat < 65536) ∧
      String.utf8EncodeChar c = [.ofNat (c.toNat / 64 / 64 + 224), .ofNat (c.toNat / 64 % 64 + 128),
        .ofNat (c.toNat % 64 + 128)]) ∨
    ((65536 ≤ c.toNat ∧ c.toNat < 1114112) ∧
      String.utf8EncodeChar c = [.ofNat (c.toNat / 64 / 64 / 64 + 240),
        .ofNat (c.toNat / 64 / 64 % 64 + 128), .ofNat (c.toNat / 64 % 64 + 128),
        .ofNat (c.toNat % 64 + 128)]) := by
  have hrange : c.val.toNat < 1114112 := by
    have hvalid : c.val.toNat < 55296 ∨ 57343 < c.val.toNat ∧ c.val.toNat < 1114112 := c.valid
    omega
  have htwo : ∀ n, n / 64 / 64 = n / 4096 := fun n => Nat.div_div_eq_div_mul ..
  have hthree : ∀ n, n / 4096 / 64 = n / 262144 := fun n => Nat.div_div_eq_div_mul ..
  simp only [htwo, hthree, Char.toNat, String.utf8EncodeChar]
  generalize c.val.toNat = n at hrange
  split
  · exact .inl ⟨by omega, rfl⟩
  · split
    · exact .inr (.inl ⟨by omega, by rw [Nat.mod_eq_of_lt (by omega)]⟩)
    · split
      · exact .inr (.inr (.inl ⟨by omega, by rw [Nat.mod_eq_of_lt (by omega)]⟩))
      · exact .inr (.inr (.inr ⟨by omega, by rw [Nat.mod_eq_of_lt (by omega)]⟩))

theorem utf8EncodeChar_cases (c : Char) :
    (c.toNat < 128 ∧ String.utf8EncodeChar c = [c.val.toUInt8]) ∨
      ∀ b ∈ String.utf8EncodeChar c, 128 ≤ b.toNat := by
  rcases utf8EncodeChar_digits c with ⟨hc, hbytes⟩ | ⟨hc, hbytes⟩ | ⟨hc, hbytes⟩ | ⟨hc, hbytes⟩
  · exact .inl ⟨hc, hbytes⟩
  all_goals
    refine .inr ?_
    simp only [hbytes, List.forall_mem_cons, UInt8.toNat_ofNat', List.not_mem_nil, false_implies,
      implies_true, and_true]
    omega

theorem eq_of_ascii_mem {c d : Char} (hd : d.toNat < 128)
    (h : d.val.toUInt8 ∈ String.utf8EncodeChar c) : c = d := by
  have hbyte : ∀ {e : Char}, e.toNat < 128 → e.val.toUInt8.toNat = e.toNat := by
    intro e he
    rw [UInt32.toNat_toUInt8]
    exact Nat.mod_eq_of_lt (Nat.lt_trans he (by decide))
  rcases utf8EncodeChar_cases c with ⟨hc, hsingle⟩ | hhigh
  · rw [hsingle, List.mem_singleton] at h
    apply Char.toNat_inj.mp
    rw [← hbyte hc, ← h, hbyte hd]
  · have := hhigh _ h
    rw [hbyte hd] at this
    omega

def utf8 (text : String) : List UInt8 := text.toUTF8.data.toList

theorem utf8_eq (text : String) : utf8 text = text.toList.flatMap String.utf8EncodeChar := by
  rw [utf8, String.toUTF8_eq_toByteArray, ← String.utf8Encode_toList, List.utf8Encode,
    List.toList_data_toByteArray]

theorem utf8_ofList (cs : List Char) : utf8 (String.ofList cs) = cs.flatMap String.utf8EncodeChar := by
  rw [utf8_eq, String.toList_ofList]

theorem utf8_append (s t : String) : utf8 (s ++ t) = utf8 s ++ utf8 t := by
  simp only [utf8_eq, String.toList_append, List.flatMap_append]

theorem segments_flatMap_utf8 (cs : List Char) :
    segments (· == 10) (cs.flatMap String.utf8EncodeChar) =
      (segments (· == '\n') cs).map (·.flatMap String.utf8EncodeChar) := by
  induction cs with
  | nil => rfl
  | cons c cs ih =>
    rw [List.flatMap_cons, segments_cons]
    by_cases hc : c = '\n'
    · subst hc
      rw [if_pos (by decide), List.map_cons, ← ih]
      exact segments_cons 10 _
    · have hfree : ∀ b ∈ String.utf8EncodeChar c, (b == 10) = false := by
        intro b hb
        rw [beq_eq_false_iff_ne]
        rintro rfl
        exact hc (eq_of_ascii_mem (d := '\n') (by decide) hb)
      rw [if_neg (by simpa using hc), segments_append_of_forall hfree, ih]
      cases segments (· == '\n') cs <;> simp

end Text

-- ---------------------------------------------------------------------------
-- Decoding
-- ---------------------------------------------------------------------------

theorem decodeLine_eq_ok_iff {bytes : List UInt8} {text : String} :
    decodeLine bytes = .ok text ↔ bytes = Text.utf8 text := by
  unfold decodeLine String.fromUTF8?
  split
  · rename_i line hline
    split at hline
    · cases hline
      simp only [Except.ok.injEq, ← String.toByteArray_inj, String.fromUTF8, Text.utf8,
        String.toUTF8_eq_toByteArray, ByteArray.ext_iff]
      exact ⟨fun h => by rw [← h], fun h => by rw [h]⟩
    · cases hline
  · rename_i hnone
    simp only [dite_eq_right_iff, reduceCtorEq, imp_false] at hnone
    simp only [reduceCtorEq, false_iff]
    rintro rfl
    exact hnone text.isValidUTF8

theorem decodeLine_utf8 (text : String) : decodeLine (Text.utf8 text) = .ok text :=
  decodeLine_eq_ok_iff.mpr rfl

theorem decodeLine_eq_error {bytes : List UInt8} (h : ∀ text, bytes ≠ Text.utf8 text) :
    decodeLine bytes = .error .encoding := by
  cases hline : decodeLine bytes with
  | ok text => exact absurd (decodeLine_eq_ok_iff.mp hline) (h text)
  | error e =>
    unfold decodeLine at hline
    split at hline
    · cases hline
    · exact hline.symm

theorem Source.lines_utf8 (text : String) : Source.lines (.content (Text.utf8 text)) = linesOfText text := by
  rw [Source.lines, linesOfText, Text.utf8_eq, Text.segments_flatMap_utf8, List.map_map]
  apply List.map_congr_left
  intro line _
  rw [Function.comp_apply, ← Text.utf8_ofList]
  exact decodeLine_utf8 _

theorem decodeLine_concat_return (bytes : List UInt8) :
    decodeLine (bytes ++ [13]) = (decodeLine bytes).map (·.push '\r') := by
  by_cases h : ∃ text, bytes = Text.utf8 text
  · obtain ⟨text, rfl⟩ := h
    rw [decodeLine_utf8]
    apply decodeLine_eq_ok_iff.mpr
    rw [Text.utf8_eq, Text.utf8_eq, String.toList_push, List.flatMap_append]
    rfl
  · rw [decodeLine_eq_error (not_exists.mp h), Except.map]
    apply decodeLine_eq_error
    intro text htext
    rw [Text.utf8_eq] at htext
    rcases List.eq_nil_or_concat text.toList with hnil | ⟨cs, c, hconcat⟩
    · simp [hnil] at htext
    · rw [hconcat, List.concat_eq_append, List.flatMap_append, List.flatMap_singleton] at htext
      have hlast : 13 ∈ String.utf8EncodeChar c := by
        obtain ⟨before, b, heq⟩ :=
          (List.eq_nil_or_concat (String.utf8EncodeChar c)).resolve_left String.utf8EncodeChar_ne_nil
        rw [List.concat_eq_append] at heq
        rw [heq, ← List.append_assoc] at htext
        obtain ⟨-, hb⟩ := List.append_inj' htext rfl
        rw [heq, ← hb]
        simp
      obtain rfl := Text.eq_of_ascii_mem (d := '\r') (by decide) hlast
      obtain ⟨hbytes, -⟩ := List.append_inj' htext rfl
      exact h ⟨String.ofList cs, by rw [hbytes, Text.utf8_ofList]⟩

end Automata
