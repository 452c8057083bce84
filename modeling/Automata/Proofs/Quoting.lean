import Automata.Text.Quoted
import Automata.Text.Segment
import Mathlib.Data.List.Basic

/-! Quoted text can be read back: no code of a character is the beginning of another one and none begins
with a quote (`Text.quote_append_inj`). -/

namespace Automata.Text

-- ---------------------------------------------------------------------------
-- Hexadecimal digits
-- ---------------------------------------------------------------------------

theorem digitChar_inj : ∀ m < 16, ∀ n < 16, Nat.digitChar m = Nat.digitChar n → m = n := by
  decide

theorem exists_digit_of_mem_toDigits {n : Nat} {c : Char} (h : c ∈ Nat.toDigits 16 n) :
    ∃ d < 16, c = Nat.digitChar d := by
  induction n using Nat.strongRecOn with
  | _ n ih =>
    rw [Nat.toDigits_eq_if (by decide)] at h
    split at h
    · rename_i hn
      exact ⟨n, hn, List.mem_singleton.mp h⟩
    · rename_i hn
      rcases List.mem_append.mp h with h | h
      · exact ih (n / 16) (by omega) h
      · exact ⟨n % 16, Nat.mod_lt n (by decide), List.mem_singleton.mp h⟩

theorem not_mem_toDigits {c : Char} (h : ∀ d < 16, c ≠ Nat.digitChar d) (n : Nat) :
    c ∉ Nat.toDigits 16 n := by
  intro hmem
  obtain ⟨d, hd, hc⟩ := exists_digit_of_mem_toDigits hmem
  exact h d hd hc

theorem toDigits_inj {m n : Nat} (h : Nat.toDigits 16 m = Nat.toDigits 16 n) : m = n := by
  induction m using Nat.strongRecOn generalizing n with
  | _ m ih =>
    rw [Nat.toDigits_eq_if (by decide), Nat.toDigits_eq_if (n := n) (by decide)] at h
    split at h <;> split at h
    · rename_i hm hn
      exact digitChar_inj m hm n hn (List.singleton_inj.mp h)
    · simp [List.singleton_eq_append_iff] at h
    · simp [List.append_eq_singleton_iff] at h
    · obtain ⟨hinit, hlast⟩ := List.append_inj' h rfl
      have hdiv : m / 16 = n / 16 := ih (m / 16) (by omega) hinit
      have hmod : m % 16 = n % 16 := digitChar_inj _ (Nat.mod_lt m (by decide)) _ (Nat.mod_lt n (by decide))
        (List.singleton_inj.mp hlast)
      rw [← Nat.div_add_mod m 16, ← Nat.div_add_mod n 16, hdiv, hmod]

-- ---------------------------------------------------------------------------
-- Codes of characters
-- ---------------------------------------------------------------------------

def letters : List (Char × Char) :=
  [('\x00', '0'), ('\t', 't'), ('\n', 'n'), ('\r', 'r'), ('"', '"'), ('\\', '\\')]

theorem escapeChar_cases (c : Char) :
    (∃ m, (c, m) ∈ letters ∧ escapeChar c = ['\\', m]) ∨ escapeChar c = escapeCode c ∨
      (c ∉ letters.map Prod.fst ∧ escapeChar c = [c]) := by
  unfold escapeChar
  by_cases hc : c ∈ letters.map Prod.fst
  · left
    simp only [letters, List.map_cons, List.map_nil, List.mem_cons, List.not_mem_nil, or_false] at hc
    rcases hc with rfl | rfl | rfl | rfl | rfl | rfl
    all_goals exact ⟨_, by decide, rfl⟩
  · right
    have hne := hc
    simp only [letters, List.map_cons, List.map_nil, List.mem_cons, List.not_mem_nil, or_false, not_or] at hne
    obtain ⟨h₁, h₂, h₃, h₄, h₅, h₆⟩ := hne
    rw [if_neg h₁, if_neg h₂, if_neg h₃, if_neg h₄, if_neg h₅, if_neg h₆]
    split
    · exact .inl rfl
    · exact .inr ⟨hc, rfl⟩

theorem eq_of_mem_letters {c d m : Char} (hc : (c, m) ∈ letters) (hd : (d, m) ∈ letters) : c = d := by
  have h : ∀ p ∈ letters, ∀ q ∈ letters, p.2 = q.2 → p.1 = q.1 := by decide
  exact h _ hc _ hd rfl

theorem ne_of_mem_letters {c m : Char} (h : (c, m) ∈ letters) : m ≠ 'u' ∧ m ≠ '\n' := by
  have hall : ∀ p ∈ letters, p.2 ≠ 'u' ∧ p.2 ≠ '\n' := by decide
  exact hall _ h

theorem append_cons_inj {xs ys xs' ys' : List Char} {s : Char} (hxs : s ∉ xs) (hxs' : s ∉ xs')
    (h : xs ++ s :: ys = xs' ++ s :: ys') : xs = xs' ∧ ys = ys' := by
  have hfree : ∀ {zs : List Char}, s ∉ zs → ∀ z ∈ zs, (z == s) = false := fun hzs z hz =>
    beq_eq_false_iff_ne.mpr fun heq => hzs (heq ▸ hz)
  have hsegments := congrArg (segments (· == s)) h
  rw [segments_append_cons (hfree hxs) (beq_self_eq_true s),
    segments_append_cons (hfree hxs') (beq_self_eq_true s)] at hsegments
  obtain rfl := (List.cons.inj hsegments).1
  exact ⟨rfl, (List.cons.inj (List.append_cancel_left h)).2⟩

theorem escapeCode_append_inj {c d : Char} {x y : List Char}
    (h : escapeCode c ++ x = escapeCode d ++ y) : c = d ∧ x = y := by
  have hbrace : ∀ n, '\x7d' ∉ Nat.toDigits 16 n := not_mem_toDigits (by decide)
  simp only [escapeCode, List.cons_append, List.append_assoc, List.cons.injEq, true_and, List.nil_append] at h
  obtain ⟨hdigits, rfl⟩ := append_cons_inj (hbrace _) (hbrace _) h
  exact ⟨Char.toNat_inj.mp (toDigits_inj hdigits), rfl⟩

/-- No code begins another one. -/
theorem escapeChar_append_inj {c d : Char} {x y : List Char} (h : escapeChar c ++ x = escapeChar d ++ y) :
    c = d ∧ x = y := by
  have hslash : ∀ {e : Char}, e ∉ letters.map Prod.fst → '\\' ≠ e := by
    rintro e he rfl
    exact he (by decide)
  rcases escapeChar_cases c with ⟨m, hm, hc⟩ | hc | ⟨hplain, hc⟩ <;>
    rcases escapeChar_cases d with ⟨n, hn, hd⟩ | hd | ⟨hplain', hd⟩ <;> rw [hc, hd] at h
  · obtain ⟨rfl, rfl⟩ : m = n ∧ x = y := by simpa using h
    exact ⟨eq_of_mem_letters hm hn, rfl⟩
  · exact absurd (List.cons.inj (List.cons.inj h).2).1 (ne_of_mem_letters hm).1
  · exact absurd (List.cons.inj h).1 (hslash hplain')
  · exact absurd (List.cons.inj (List.cons.inj h).2).1.symm (ne_of_mem_letters hn).1
  · exact escapeCode_append_inj h
  · exact absurd (List.cons.inj h).1 (hslash hplain')
  · exact absurd (List.cons.inj h).1.symm (hslash hplain)
  · exact absurd (List.cons.inj h).1.symm (hslash hplain)
  · exact List.cons.inj h

theorem escapeChar_append_ne (c : Char) (x y : List Char) : escapeChar c ++ x ≠ '"' :: y := by
  intro h
  rcases escapeChar_cases c with ⟨m, -, hc⟩ | hc | ⟨hplain, hc⟩ <;> rw [hc] at h
  · exact absurd (List.cons.inj h).1 (by decide)
  · exact absurd (List.cons.inj h).1 (by decide)
  · refine hplain ?_
    rw [(List.cons.inj h).1]
    decide

theorem lineEnd_not_mem_escapeChar (c : Char) : '\n' ∉ escapeChar c := by
  have hdigits : ∀ n, '\n' ∉ Nat.toDigits 16 n := not_mem_toDigits (by decide)
  rcases escapeChar_cases c with ⟨m, hm, hc⟩ | hc | ⟨hplain, hc⟩ <;> rw [hc]
  · simpa using (ne_of_mem_letters hm).2.symm
  · simpa [escapeCode] using hdigits c.toNat
  · rintro hmem
    obtain rfl := List.mem_singleton.mp hmem
    exact hplain (by decide)

-- ---------------------------------------------------------------------------
-- Texts
-- ---------------------------------------------------------------------------

theorem toList_quote (text : String) :
    (quote text).toList = '"' :: (text.toList.flatMap escapeChar ++ ['"']) := by
  simp [quote]

theorem flatMap_escapeChar_inj {cs ds x y : List Char}
    (h : cs.flatMap escapeChar ++ '"' :: x = ds.flatMap escapeChar ++ '"' :: y) : cs = ds ∧ x = y := by
  induction cs generalizing ds with
  | nil =>
    cases ds with
    | nil => exact ⟨rfl, (List.cons.inj h).2⟩
    | cons d ds =>
      rw [List.flatMap_cons, List.append_assoc] at h
      exact absurd h.symm (escapeChar_append_ne d _ _)
  | cons c cs ih =>
    rw [List.flatMap_cons, List.append_assoc] at h
    cases ds with
    | nil => exact absurd h (escapeChar_append_ne c _ _)
    | cons d ds =>
      rw [List.flatMap_cons, List.append_assoc] at h
      obtain ⟨rfl, hrest⟩ := escapeChar_append_inj h
      obtain ⟨rfl, rfl⟩ := ih hrest
      exact ⟨rfl, rfl⟩

/-- Whatever follows a quoted text, the text can be told, and what follows. -/
theorem quote_append_inj {u v : String} {x y : List Char}
    (h : (quote u).toList ++ x = (quote v).toList ++ y) : u = v ∧ x = y := by
  simp only [toList_quote, List.cons_append, List.append_assoc, List.nil_append, List.cons.injEq, true_and] at h
  obtain ⟨htext, hrest⟩ := flatMap_escapeChar_inj h
  exact ⟨String.toList_inj.mp htext, hrest⟩

theorem lineEnd_not_mem_quote (text : String) : '\n' ∉ (quote text).toList := by
  simp only [toList_quote, List.mem_cons, List.mem_append, List.mem_flatMap, List.not_mem_nil, or_false, not_or,
    not_exists, not_and]
  exact ⟨by decide, fun c _ => lineEnd_not_mem_escapeChar c, by decide⟩

end Automata.Text
