import Automata.Proofs.Encoding
import Automata.Symbol

/-! Texts are in the same order character by character and, in UTF-8, byte by byte. -/

namespace Automata

namespace Text

theorem toNat_byte {n : Nat} (h : n < 256) : (UInt8.ofNat n).toNat = n := UInt8.toNat_ofNat_of_lt' h

/-- The lower character has the lower byte where the bytes first differ, whatever follows. -/
theorem utf8EncodeChar_append_lt {c d : Char} (h : c < d) (x y : List UInt8) :
    String.utf8EncodeChar c ++ x < String.utf8EncodeChar d ++ y := by
  have hlt : c.toNat < d.toNat := h
  -- Characters with more bytes have a higher first byte, the others are compared digit by digit.
  rcases utf8EncodeChar_digits c with ⟨hc, hbytes⟩ | ⟨hc, hbytes⟩ | ⟨hc, hbytes⟩ | ⟨hc, hbytes⟩ <;>
    rcases utf8EncodeChar_digits d with ⟨hd, hbytes'⟩ | ⟨hd, hbytes'⟩ | ⟨hd, hbytes'⟩ | ⟨hd, hbytes'⟩ <;>
    simp (disch := omega) only [hbytes, hbytes', List.cons_append, List.nil_append,
      List.cons_lt_cons_iff, UInt8.lt_iff_toNat_lt, ← UInt8.toNat_inj, toNat_byte] <;>
    omega

theorem utf8EncodeChar_ne_nil (c : Char) : String.utf8EncodeChar c ≠ [] := by
  rcases utf8EncodeChar_digits c with ⟨-, hbytes⟩ | ⟨-, hbytes⟩ | ⟨-, hbytes⟩ | ⟨-, hbytes⟩ <;>
    simp [hbytes]

theorem flatMap_utf8EncodeChar_lt {cs ds : List Char} (h : cs < ds) :
    cs.flatMap String.utf8EncodeChar < ds.flatMap String.utf8EncodeChar := by
  induction h with
  | @nil d ds =>
    obtain ⟨b, bytes, heq⟩ := List.exists_cons_of_ne_nil (utf8EncodeChar_ne_nil d)
    rw [List.flatMap_cons, heq]
    exact .nil
  | rel hlt => exact utf8EncodeChar_append_lt hlt _ _
  | cons _ ih => exact List.append_left_lt ih

theorem utf8_lt_iff {s t : String} : utf8 s < utf8 t ↔ s < t := by
  have mono : ∀ {s t : String}, s < t → utf8 s < utf8 t := fun h => by
    rw [utf8_eq, utf8_eq]
    exact flatMap_utf8EncodeChar_lt h
  refine ⟨fun h => ?_, mono⟩
  by_contra hle
  rw [String.not_lt] at hle
  by_cases heq : s = t
  · exact List.lt_irrefl _ (heq ▸ h)
  · have hlt : t < s := String.not_le.mp fun hge => heq (String.le_antisymm hge hle)
    exact List.lt_asymm h (mono hlt)

end Text

theorem Symbol.compare_eq_lt_iff {y z : Symbol} : compare y z = .lt ↔ Text.utf8 y < Text.utf8 z := by
  rw [Text.utf8_lt_iff]
  exact compareOfLessAndEq_eq_lt

end Automata
