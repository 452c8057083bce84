import Automata.Description
import Automata.Proofs.Assembly
import Automata.Proofs.Building

/-!
# What a description means

`Description.Judged` says what the lines of a description mean: the error of the first bad one, or the steps
that they stand for. It does not mention a builder. There is always a meaning
(`Description.exists_judged`), and reading follows it unless a state number is too high for that
(`Description.BreaksOff`, `Step.HaveRoom`).
-/

namespace Automata

-- ---------------------------------------------------------------------------
-- Lists that are read from the left
-- ---------------------------------------------------------------------------

section
variable {α β : Type} {R : α → β → Prop}

theorem forall_or_first (P : α → Prop) (xs : List α) : (∀ x ∈ xs, P x) ∨
    ∃ before x after, xs = before ++ x :: after ∧ (∀ y ∈ before, P y) ∧ ¬P x := by
  induction xs with
  | nil => simp
  | cons x xs ih =>
    by_cases hx : P x
    · rcases ih with h | ⟨before, y, after, rfl, hbefore, hy⟩
      · exact .inl (List.forall_mem_cons.mpr ⟨hx, h⟩)
      · exact .inr ⟨x :: before, y, after, rfl, List.forall_mem_cons.mpr ⟨hx, hbefore⟩, hy⟩
    · exact .inr ⟨[], x, xs, rfl, by simp, hx⟩

theorem exists_forall₂ {xs : List α} (h : ∀ x ∈ xs, ∃ y, R x y) : ∃ ys, List.Forall₂ R xs ys := by
  induction xs with
  | nil => exact ⟨[], .nil⟩
  | cons x xs ih =>
    rw [List.forall_mem_cons] at h
    obtain ⟨y, hy⟩ := h.1
    obtain ⟨ys, hys⟩ := ih h.2
    exact ⟨y :: ys, .cons hy hys⟩

theorem exists_split_of_forall₂ {xs : List α} {ys : List β} (h : List.Forall₂ R xs ys) :
    ∀ y ∈ ys, ∃ before x after, xs = before ++ x :: after ∧ (∃ ys', List.Forall₂ R before ys') ∧ R x y := by
  induction h with
  | nil => simp
  | @cons x y xs ys hxy _ ih =>
    rw [List.forall_mem_cons]
    refine ⟨⟨[], x, xs, rfl, ⟨[], .nil⟩, hxy⟩, fun y' hy' => ?_⟩
    obtain ⟨before, x', after, rfl, ⟨ys', hbefore⟩, hxy'⟩ := ih y' hy'
    exact ⟨x :: before, x', after, rfl, ⟨y :: ys', .cons hxy hbefore⟩, hxy'⟩

end

-- ---------------------------------------------------------------------------
-- Numerals
-- ---------------------------------------------------------------------------

namespace Text

/-- A numeral for a state: decimal digits, perhaps behind a plus sign, of a value below the limit. -/
def Denotes (token : String) (s : Nat) : Prop :=
  ∃ digits : List Char, (token.toList = digits ∨ token.toList = '+' :: digits) ∧ digits ≠ [] ∧
    (∀ c ∈ digits, c.isDigit = true) ∧ s = Nat.ofDigitChars 10 digits 0 ∧ s < stateLimit

theorem le_ofDigitChars (digits : List Char) (value : Nat) : value ≤ Nat.ofDigitChars 10 digits value := by
  induction digits generalizing value with
  | nil => simp
  | cons c digits ih =>
    rw [Nat.ofDigitChars_cons]
    exact Nat.le_trans (by omega) (ih _)

/-- A value that leaves the range stays out of it, whatever digits follow. -/
theorem readDigits_eq_ok_iff {value s : Nat} {digits : List Char} (h : value < stateLimit) :
    readDigits value digits = .ok s ↔
      (∀ c ∈ digits, c.isDigit = true) ∧ s = Nat.ofDigitChars 10 digits value ∧ s < stateLimit := by
  induction digits generalizing value with
  | nil =>
    simp only [readDigits, Except.ok.injEq, List.not_mem_nil, false_implies, implies_true, true_and,
      Nat.ofDigitChars_nil]
    omega
  | cons c digits ih =>
    rw [readDigits, List.forall_mem_cons, Nat.ofDigitChars_cons, Nat.mul_comm 10]
    split
    · rename_i hdigit
      dsimp only
      split
      · rename_i hvalue
        rw [ih hvalue, and_iff_right hdigit]
      · rename_i hvalue
        have := le_ofDigitChars digits (value * 10 + (c.toNat - '0'.toNat))
        simp only [reduceCtorEq, false_iff, not_and]
        omega
    · rename_i hdigit
      simp [hdigit]

theorem readNumeral_eq_ok_iff {token : String} {s : Nat} :
    readNumeral token = .ok s ↔ Denotes token s := by
  have hplus : ¬Char.isDigit '+' = true := by decide
  unfold readNumeral Denotes
  split
  · rename_i hnil
    simp [hnil]
  · rename_i c cs hcons
    rw [readDigits_eq_ok_iff (by decide), hcons]
    constructor
    · rintro ⟨hdigits, hvalue⟩
      exact ⟨c :: cs, .inr rfl, by simp, hdigits, hvalue⟩
    · rintro ⟨digits, rfl | heq, -, hdigits, hvalue⟩
      · exact absurd (hdigits '+' List.mem_cons_self) hplus
      · cases heq
        exact ⟨hdigits, hvalue⟩
  · rename_i hnil hother
    rw [readDigits_eq_ok_iff (by decide)]
    constructor
    · rintro ⟨hdigits, hvalue⟩
      exact ⟨_, .inl rfl, hnil, hdigits, hvalue⟩
    · rintro ⟨digits, heq | heq, hne, hdigits, hvalue⟩
      · exact heq ▸ ⟨hdigits, hvalue⟩
      · obtain ⟨c, cs, rfl⟩ := List.exists_cons_of_ne_nil hne
        exact absurd heq (hother c cs)

theorem denotes_or_error (token : String) :
    (∃ s, Denotes token s) ∨ ∃ e, readNumeral token = .error e := by
  cases hread : readNumeral token with
  | ok s => exact .inl ⟨s, readNumeral_eq_ok_iff.mp hread⟩
  | error e => exact .inr ⟨e, rfl⟩

theorem Denotes.eq {token : String} {s s' : Nat} (h : Denotes token s) (h' : Denotes token s') : s = s' :=
  Except.ok.inj ((readNumeral_eq_ok_iff.mpr h).symm.trans (readNumeral_eq_ok_iff.mpr h'))

theorem Denotes.ne_dash {token : String} {s : Nat} (h : Denotes token s) : token ≠ "-" := by
  rintro rfl
  cases readNumeral_eq_ok_iff.mpr h

theorem segments_eq_splitOnP {α : Type} {p : α → Bool} (xs : List α) : segments p xs = xs.splitOnP p := by
  induction xs with
  | nil => rfl
  | cons x xs ih => rw [segments_cons, List.splitOnP_cons_eq_if_modifyHead, ih]

end Text

namespace Description

-- ---------------------------------------------------------------------------
-- Lines and tokens
-- ---------------------------------------------------------------------------

def words (line : List Char) : List String :=
  (((line.takeWhile (· ≠ '#')).splitOnP Text.isBlank).filter (· ≠ [])).map String.ofList

/-- The lines that have tokens, with their numbers from 1. -/
def entries (text : String) : List (Nat × List String) :=
  (((text.toList.splitOn '\n').zipIdx 1).map fun (line, n) => (n, words line)).filter (·.2 ≠ [])

theorem tokens_eq_words (line : List Char) : tokens (String.ofList line) = words line := by
  rw [tokens, words, String.toList_ofList, Text.segments_eq_splitOnP]

theorem significant_linesOfText (text : String) :
    significant (linesOfText text) = (entries text).map fun line => (line.1, .ok line.2) := by
  have number : ∀ (lines : List (List Char)) (n : Nat),
      ((lines.map fun line => (.ok (String.ofList line) : Line)).zipIdx n).filterMap
        (fun (line, n) => match line with
          | .error e => some (n, .error e)
          | .ok line => if tokens line = [] then none else some (n, .ok (tokens line))) =
      (((lines.zipIdx n).map fun (line, n) => (n, words line)).filter (·.2 ≠ [])).map
        fun line => (line.1, (.ok line.2 : Except FileError (List String))) := by
    intro lines
    induction lines with
    | nil => simp
    | cons line lines ih =>
      intro n
      by_cases h : words line = []
      · simp [tokens_eq_words, h, ih]
      · simp [tokens_eq_words, h, ih]
  rw [significant, linesOfText, Text.segments_eq_splitOnP, entries, List.splitOn_eq_splitOnP]
  exact number _ 1

theorem ne_nil_of_mem_entries {text : String} {line : Nat × List String} (h : line ∈ entries text) :
    line.2 ≠ [] := by
  simpa using (List.mem_filter.mp h).2

theorem ne_empty_of_mem_entries {text : String} {line : Nat × List String} (h : line ∈ entries text) :
    ∀ token ∈ line.2, token ≠ "" := by
  obtain ⟨⟨line, n⟩, -, rfl⟩ := List.mem_map.mp (List.mem_of_mem_filter h)
  simp only [words, List.mem_map, List.mem_filter]
  rintro token ⟨cs, ⟨-, hcs⟩, rfl⟩
  simpa using hcs

-- ---------------------------------------------------------------------------
-- The meaning of lines
-- ---------------------------------------------------------------------------

def AcceptLine (tokens : List String) (p : Nat) : Prop :=
  tokens ≠ [] ∧ ∀ token ∈ tokens, Text.Denotes token p

inductive Means : List String → Step → Prop
  | move {y src dest : String} {s d : Nat} :
      Text.Denotes src s → Text.Denotes dest d → Means [y, src, dest] (.move y s d)
  | sinkMove {y src : String} {s : Nat} :
      Text.Denotes src s → Means [y, src, "-"] (.sinkMove y s)
  | epsilonMove {src dest : String} {s d : Nat} :
      Text.Denotes src s → Text.Denotes dest d → Means [src, dest] (.epsilonMove s d)

/-- A bad transition line and its error. The source is judged before the target, and the dash is a target
only behind a symbol. -/
inductive BadTransition (n : Nat) : List String → ReadError → Prop
  | incomplete {token : String} : BadTransition n [token] (.incompleteTransition n)
  | illFormed {tokens : List String} :
      3 < tokens.length → BadTransition n tokens (.illFormedTransition n)
  | source {src dest : String} {e : NumeralError} :
      Text.readNumeral src = .error e → BadTransition n [src, dest] (.numeral e n)
  | dest {src dest : String} {s : Nat} {e : NumeralError} :
      Text.Denotes src s → Text.readNumeral dest = .error e → BadTransition n [src, dest] (.numeral e n)
  | symbolSource {y src dest : String} {e : NumeralError} :
      Text.readNumeral src = .error e → BadTransition n [y, src, dest] (.numeral e n)
  | symbolDest {y src dest : String} {s : Nat} {e : NumeralError} :
      Text.Denotes src s → dest ≠ "-" → Text.readNumeral dest = .error e →
      BadTransition n [y, src, dest] (.numeral e n)

/-- What the lines of a description mean: an error, or the steps that build the automaton.

On the line of the accept state all tokens have to be numerals before two of them are compared; then the
first token and the first one that differs from it make the error. After it, the first bad line decides. -/
inductive Judged : List (Nat × List String) → Except ReadError (List Step) → Prop
  | noLine : Judged [] (.error .missingAccept)
  | acceptNumeral {n : Nat} {before after : List String} {token : String} {e : NumeralError}
      {later : List (Nat × List String)} :
      (∀ t ∈ before, ∃ s, Text.Denotes t s) → Text.readNumeral token = .error e →
      Judged ((n, before ++ token :: after) :: later) (.error (.numeral e n))
  | acceptTwice {n p q : Nat} {same after : List String} {token : String}
      {later : List (Nat × List String)} :
      AcceptLine same p → Text.Denotes token q → p ≠ q → (∀ t ∈ after, ∃ s, Text.Denotes t s) →
      Judged ((n, same ++ token :: after) :: later) (.error (.build (.duplicateAccept p q) n))
  | badTransition {n p m : Nat} {first tokens : List String} {before later : List (Nat × List String)}
      {steps : List Step} {e : ReadError} :
      AcceptLine first p → List.Forall₂ (fun line step => Means line.2 step) before steps →
      BadTransition m tokens e → Judged ((n, first) :: (before ++ (m, tokens) :: later)) (.error e)
  | good {n p : Nat} {first : List String} {later : List (Nat × List String)} {steps : List Step} :
      AcceptLine first p → List.Forall₂ (fun line step => Means line.2 step) later steps →
      Judged ((n, first) :: later) (.ok (.accept p :: steps))

def ends : List String → List String
  | [src, dest] | [_, src, dest] => [src, dest]
  | _ => []

/-- The tokens of a description that stand where a state is expected. -/
def stateTokens : List (Nat × List String) → List String
  | [] => []
  | (_, first) :: later => first ++ later.flatMap fun line => ends line.2

/-- Reading gets to a line that needs the last number of 64 bits as a state. On the line of the accept state
this is decided by the first token alone. -/
inductive BreaksOff : List (Nat × List String) → Prop
  | accept {n : Nat} {token : String} {others : List String} {later : List (Nat × List String)} :
      Text.Denotes token (stateLimit - 1) → BreaksOff ((n, token :: others) :: later)
  | transition {n p m : Nat} {first tokens : List String} {before later : List (Nat × List String)}
      {steps : List Step} {step : Step} :
      AcceptLine first p → List.Forall₂ (fun line step => Means line.2 step) before steps →
      Means tokens step → stateLimit - 1 ∈ step.states →
      BreaksOff ((n, first) :: (before ++ (m, tokens) :: later))

section
variable {n : Nat} {tokens : List String} {step : Step} {e : ReadError}

theorem stateOf_eq_ok {token : String} {s : Nat} (h : Text.Denotes token s) : stateOf n token = .ok s := by
  rw [stateOf, Text.readNumeral_eq_ok_iff.mpr h]
  rfl

theorem stateOf_eq_error {token : String} {e : NumeralError} (h : Text.readNumeral token = .error e) :
    stateOf n token = .error (.error (.numeral e n)) := by
  rw [stateOf, h]
  rfl

theorem Means.transition_eq (h : Means tokens step) : transition n tokens = .ok step := by
  cases h with
  | move hsrc hdest =>
    rw [transition, stateOf_eq_ok hsrc, ok_bind, if_neg hdest.ne_dash, stateOf_eq_ok hdest]
    rfl
  | sinkMove hsrc =>
    rw [transition, stateOf_eq_ok hsrc]
    rfl
  | epsilonMove hsrc hdest =>
    rw [transition, stateOf_eq_ok hsrc, ok_bind, stateOf_eq_ok hdest]
    rfl

theorem BadTransition.transition_eq (h : BadTransition n tokens e) :
    transition n tokens = .error (.error e) := by
  cases h with
  | incomplete => rfl
  | illFormed hlength =>
    match tokens, hlength with
    | _ :: _ :: _ :: _ :: _, _ => rfl
  | source hsrc | symbolSource hsrc =>
    rw [transition, stateOf_eq_error hsrc]
    rfl
  | dest hsrc hdest =>
    rw [transition, stateOf_eq_ok hsrc, ok_bind, stateOf_eq_error hdest]
    rfl
  | symbolDest hsrc hne hdest =>
    rw [transition, stateOf_eq_ok hsrc, ok_bind, if_neg hne, stateOf_eq_error hdest]
    rfl

theorem means_or_badTransition (n : Nat) (h : tokens ≠ []) :
    (∃ step, Means tokens step) ∨ ∃ e, BadTransition n tokens e := by
  match tokens with
  | [] => exact absurd rfl h
  | [_] => exact .inr ⟨_, .incomplete⟩
  | [src, dest] =>
    rcases Text.denotes_or_error src with ⟨s, hsrc⟩ | ⟨e, hsrc⟩
    · rcases Text.denotes_or_error dest with ⟨d, hdest⟩ | ⟨e, hdest⟩
      · exact .inl ⟨_, .epsilonMove hsrc hdest⟩
      · exact .inr ⟨_, .dest hsrc hdest⟩
    · exact .inr ⟨_, .source hsrc⟩
  | [y, src, dest] =>
    rcases Text.denotes_or_error src with ⟨s, hsrc⟩ | ⟨e, hsrc⟩
    · by_cases hdash : dest = "-"
      · subst hdash
        exact .inl ⟨_, .sinkMove hsrc⟩
      · rcases Text.denotes_or_error dest with ⟨d, hdest⟩ | ⟨e, hdest⟩
        · exact .inl ⟨_, .move hsrc hdest⟩
        · exact .inr ⟨_, .symbolDest hsrc hdash hdest⟩
    · exact .inr ⟨_, .symbolSource hsrc⟩
  | _ :: _ :: _ :: _ :: _ => exact .inr ⟨_, .illFormed (by simp)⟩

-- ---------------------------------------------------------------------------
-- Reading transition lines
-- ---------------------------------------------------------------------------

theorem readTransition_eq_ok {b b' : Builder} (h : Means tokens step) (hstep : b.step step = .ok b') :
    readTransition b (n, .ok tokens) = .ok b' := by
  change (transition n tokens >>= fun step => atLine n (b.step step)) = _
  rw [h.transition_eq, ok_bind, hstep]
  rfl

theorem readTransition_eq_error {b : Builder} (h : BadTransition n tokens e) :
    readTransition b (n, .ok tokens) = .error (.error e) := by
  change (transition n tokens >>= fun step => atLine n (b.step step)) = _
  rw [h.transition_eq]
  rfl

theorem foldlM_readTransition_eq_ok {lines : List (Nat × List String)} {steps : List Step}
    (h : List.Forall₂ (fun line step => Means line.2 step) lines steps) {b b' : Builder}
    (hrun : b.run steps = .ok b') :
    (lines.map fun line => (line.1, .ok line.2)).foldlM readTransition b = .ok b' := by
  induction h generalizing b with
  | nil =>
    cases hrun
    rfl
  | @cons line step lines steps hline _ ih =>
    rw [Builder.run, List.foldlM_cons] at hrun
    cases hstep : b.step step with
    | error e =>
      rw [hstep] at hrun
      cases hrun
    | ok next =>
      rw [hstep] at hrun
      rw [List.map_cons, List.foldlM_cons, readTransition_eq_ok hline hstep]
      exact ih hrun

theorem Means.symbol?_ne (h : Means tokens step) (htokens : ∀ token ∈ tokens, token ≠ "") :
    step.symbol? ≠ some Symbol.epsilon := by
  cases h with
  | move | sinkMove =>
    have hy := htokens _ List.mem_cons_self
    simpa [Step.symbol?, Symbol.epsilon] using hy
  | epsilonMove => simp [Step.symbol?]

theorem Means.accept_ne (h : Means tokens step) (s : Nat) : step ≠ .accept s := by
  cases h <;> simp

theorem Means.exists_end (h : Means tokens step) {s : Nat} (hs : s ∈ step.states) :
    ∃ token ∈ ends tokens, Text.Denotes token s := by
  cases h with
  | move hsrc hdest | epsilonMove hsrc hdest =>
    simp only [Step.states, List.mem_cons, List.not_mem_nil, or_false] at hs
    rcases hs with rfl | rfl
    · exact ⟨_, by simp [ends], hsrc⟩
    · exact ⟨_, by simp [ends], hdest⟩
  | sinkMove hsrc =>
    obtain rfl := List.mem_singleton.mp hs
    exact ⟨_, by simp [ends], hsrc⟩

theorem accept_eq_of_means {done steps : List Step} {p : Nat} {lines : List (Nat × List String)}
    (haccept : ∀ s, .accept s ∈ done → s = p)
    (hlines : List.Forall₂ (fun line step => Means line.2 step) lines steps) (s : Nat)
    (hs : .accept s ∈ done ++ steps) : s = p := by
  rcases List.mem_append.mp hs with hs | hs
  · exact haccept s hs
  · obtain ⟨before, line, after, -, -, hmeans⟩ := exists_split_of_forall₂ hlines _ hs
    exact absurd rfl (hmeans.accept_ne s)

theorem symbol?_ne_of_means {steps : List Step} {lines : List (Nat × List String)}
    (hlines : List.Forall₂ (fun line step => Means line.2 step) lines steps)
    (htokens : ∀ line ∈ lines, ∀ token ∈ line.2, token ≠ "") :
    ∀ step ∈ steps, step.symbol? ≠ some Symbol.epsilon := by
  intro step hstep
  obtain ⟨before, line, after, rfl, -, hmeans⟩ := exists_split_of_forall₂ hlines step hstep
  exact hmeans.symbol?_ne (htokens line (by simp))

-- ---------------------------------------------------------------------------
-- Room for the states
-- ---------------------------------------------------------------------------

theorem not_breaksOff {lines : List (Nat × List String)}
    (hlast : ∀ token ∈ stateTokens lines, ¬Text.Denotes token (stateLimit - 1)) : ¬BreaksOff lines := by
  intro h
  cases h with
  | accept htoken => exact hlast _ (by simp [stateTokens]) htoken
  | transition _ _ hmeans hmem =>
    obtain ⟨token, hend, htoken⟩ := hmeans.exists_end hmem
    exact hlast token (by simp [stateTokens, hend]) htoken

theorem succ_lt_of_denotes {token : String} {s : Nat} (h : Text.Denotes token s)
    (hs : s ≠ stateLimit - 1) : s + 1 < stateLimit := by
  have : s < stateLimit := h.choose_spec.2.2.2.2
  omega

theorem succ_lt_of_accept {later : List (Nat × List String)} {token : String} {others : List String}
    {s : Nat} (h : ¬BreaksOff ((n, token :: others) :: later)) (htoken : Text.Denotes token s) :
    s + 1 < stateLimit :=
  succ_lt_of_denotes htoken fun hs => h (.accept (hs ▸ htoken))

theorem AcceptLine.succ_lt {later : List (Nat × List String)} {p : Nat} (haccept : AcceptLine tokens p)
    (h : ¬BreaksOff ((n, tokens) :: later)) : p + 1 < stateLimit := by
  obtain ⟨token, others, rfl⟩ := List.exists_cons_of_ne_nil haccept.1
  exact succ_lt_of_accept h (haccept.2 token List.mem_cons_self)

theorem succ_lt_of_means {p : Nat} {before later : List (Nat × List String)} {steps : List Step}
    (h : ¬BreaksOff ((n, tokens) :: (before ++ later))) (haccept : AcceptLine tokens p)
    (hsteps : List.Forall₂ (fun line step => Means line.2 step) before steps) :
    ∀ step ∈ steps, ∀ s ∈ step.states, s + 1 < stateLimit := by
  intro step hstep s hs
  obtain ⟨before, ⟨m, line⟩, after, rfl, ⟨earlier, hearlier⟩, hmeans⟩ :=
    exists_split_of_forall₂ hsteps step hstep
  obtain ⟨token, -, htoken⟩ := hmeans.exists_end hs
  refine succ_lt_of_denotes htoken fun heq => h ?_
  rw [List.append_assoc, List.cons_append]
  exact .transition haccept hearlier hmeans (heq ▸ hs)

-- ---------------------------------------------------------------------------
-- Reading the accept line
-- ---------------------------------------------------------------------------

theorem mapM_stateOf_eq_ok {values : List Nat} (h : List.Forall₂ Text.Denotes tokens values) :
    tokens.mapM (stateOf n) = .ok values := by
  induction h with
  | nil => rfl
  | cons htoken _ ih =>
    rw [List.mapM_cons, stateOf_eq_ok htoken, ok_bind, ih]
    rfl

theorem mapM_stateOf_eq_error {before after : List String} {token : String} {e : NumeralError}
    (hbefore : ∀ t ∈ before, ∃ s, Text.Denotes t s) (h : Text.readNumeral token = .error e) :
    (before ++ token :: after).mapM (stateOf n) = .error (.error (.numeral e n)) := by
  induction before with
  | nil =>
    rw [List.nil_append, List.mapM_cons, stateOf_eq_error h]
    rfl
  | cons t before ih =>
    rw [List.forall_mem_cons] at hbefore
    obtain ⟨s, hs⟩ := hbefore.1
    rw [List.cons_append, List.mapM_cons, stateOf_eq_ok hs, ok_bind, ih hbefore.2]
    rfl

theorem step_accept_eq_ok {s : Nat} (h : s + 1 < stateLimit) :
    Builder.step {} (.accept s) = .ok (Builder.record {} (.accept s)) :=
  Builder.step_eq_ok_iff.mpr ⟨rfl, by simpa [Step.states] using h, rfl⟩

theorem readAccept_eq_run {token : String} {others : List String} {s : Nat} {values : List Nat}
    (htoken : Text.Denotes token s) (hs : s + 1 < stateLimit)
    (hothers : List.Forall₂ Text.Denotes others values) :
    readAccept n (token :: others) = atLine n (Builder.run {} (.accept s :: values.map .accept)) := by
  rw [readAccept, stateOf_eq_ok htoken, ok_bind, step_accept_eq_ok hs, Builder.run, List.foldlM_cons,
    step_accept_eq_ok hs]
  change (others.mapM (stateOf n) >>= _) = _
  rw [mapM_stateOf_eq_ok hothers]
  rfl

theorem readAccept_eq_error {before after : List String} {token : String} {e : NumeralError}
    {later : List (Nat × List String)} (hbefore : ∀ t ∈ before, ∃ s, Text.Denotes t s)
    (h : Text.readNumeral token = .error e) (hover : ¬BreaksOff ((n, before ++ token :: after) :: later)) :
    readAccept n (before ++ token :: after) = .error (.error (.numeral e n)) := by
  cases before with
  | nil =>
    rw [List.nil_append, readAccept, stateOf_eq_error h]
    rfl
  | cons t before =>
    rw [List.forall_mem_cons] at hbefore
    obtain ⟨s, hs⟩ := hbefore.1
    -- The first token has been given to the builder before the others are read.
    rw [List.cons_append, readAccept, stateOf_eq_ok hs, ok_bind,
      step_accept_eq_ok (succ_lt_of_accept hover hs)]
    change ((before ++ token :: after).mapM (stateOf n) >>= _) = _
    rw [mapM_stateOf_eq_error hbefore.2 h]
    rfl

theorem exists_run_replicate_accept {p : Nat} (hp : p + 1 < stateLimit) (k : Nat) :
    ∃ b, Builder.run {} (List.replicate k (.accept p)) = .ok b ∧ b.Tracks (List.replicate k (.accept p)) := by
  have haccept : ∀ s, .accept s ∈ [] ++ List.replicate k (Step.accept p) → s = p := by
    simp +contextual [List.mem_replicate]
  obtain ⟨b, hb⟩ := Builder.tracks_nil.run_eq_ok haccept
    (by simp +contextual [List.mem_replicate, Step.symbol?])
    (by simpa +contextual [List.mem_replicate, Step.states] using fun _ => hp)
  exact ⟨b, hb, by simpa using Builder.tracks_nil.run hb⟩

theorem forall₂_replicate {p : Nat} (h : ∀ token ∈ tokens, Text.Denotes token p) :
    List.Forall₂ Text.Denotes tokens (List.replicate tokens.length p) := by
  rw [List.forall₂_iff_get]
  refine ⟨by simp, fun i hi _ => ?_⟩
  simpa using h _ (List.get_mem tokens ⟨i, hi⟩)

theorem AcceptLine.readAccept_eq {p : Nat} (h : AcceptLine tokens p) (hp : p + 1 < stateLimit) :
    ∃ b, readAccept n tokens = .ok b ∧ b.Tracks (List.replicate tokens.length (.accept p)) := by
  obtain ⟨b, hrun, htracks⟩ := exists_run_replicate_accept hp tokens.length
  refine ⟨b, ?_, htracks⟩
  obtain ⟨token, others, rfl⟩ := List.exists_cons_of_ne_nil h.1
  obtain ⟨htoken, hothers⟩ := List.forall_mem_cons.mp h.2
  rw [readAccept_eq_run htoken hp (forall₂_replicate hothers), List.map_replicate, ← List.replicate_succ,
    ← List.length_cons, hrun]
  rfl

theorem readAccept_eq_duplicate {same after : List String} {token : String} {p q : Nat}
    (hsame : AcceptLine same p) (hp : p + 1 < stateLimit) (htoken : Text.Denotes token q) (hne : p ≠ q)
    (hafter : ∀ t ∈ after, ∃ s, Text.Denotes t s) :
    readAccept n (same ++ token :: after) = .error (.error (.build (.duplicateAccept p q) n)) := by
  obtain ⟨values, hvalues⟩ := exists_forall₂ hafter
  obtain ⟨b, hrun, htracks⟩ := exists_run_replicate_accept hp same.length
  have hb : b.accept = some p := by
    rw [htracks.accept, List.mem_replicate]
    exact ⟨mt List.length_eq_zero_iff.mp hsame.1, rfl⟩
  have hstep : b.step (.accept q) = .error (.error (.duplicateAccept p q)) := by
    rw [Builder.step_eq, Builder.refusal?, hb]
    simp [hne]
  obtain ⟨first, others, rfl⟩ := List.exists_cons_of_ne_nil hsame.1
  obtain ⟨hfirst, hothers⟩ := List.forall_mem_cons.mp hsame.2
  have hall : List.Forall₂ Text.Denotes (others ++ token :: after)
      (List.replicate others.length p ++ q :: values) :=
    List.rel_append (forall₂_replicate hothers) (.cons htoken hvalues)
  rw [List.cons_append, readAccept_eq_run hfirst hp hall, List.map_append, List.map_replicate,
    List.map_cons, ← List.cons_append, ← List.replicate_succ, ← List.length_cons, Builder.run,
    List.foldlM_append]
  rw [Builder.run] at hrun
  rw [hrun, ok_bind, List.foldlM_cons, hstep]
  rfl

-- ---------------------------------------------------------------------------
-- Reading a text
-- ---------------------------------------------------------------------------

theorem read_eq (text : String) : Automaton.read text =
    match entries text with
    | [] => .error (.error .missingAccept)
    | (n, first) :: later =>
      readAccept n first >>= fun b =>
        (later.map fun line => (line.1, .ok line.2)).foldlM readTransition b >>= fun b =>
          atLine 0 b.finish := by
  rw [Automaton.read, readLines, significant_linesOfText]
  cases entries text with
  | nil => rfl
  | cons line later => rfl

theorem exists_judged {lines : List (Nat × List String)} (h : ∀ line ∈ lines, line.2 ≠ []) :
    ∃ verdict, Judged lines verdict := by
  cases lines with
  | nil => exact ⟨_, .noLine⟩
  | cons line later =>
    obtain ⟨n, first⟩ := line
    rw [List.forall_mem_cons] at h
    obtain ⟨hfirst, hlater⟩ := h
    -- The accept line is judged in two passes: are all tokens numerals, and do they all agree?
    rcases forall_or_first (fun token => ∃ s, Text.Denotes token s) first with
      hall | ⟨before, token, after, rfl, hbefore, htoken⟩
    · obtain ⟨token, others, rfl⟩ := List.exists_cons_of_ne_nil hfirst
      obtain ⟨p, hp⟩ := hall token List.mem_cons_self
      rcases forall_or_first (fun token => Text.Denotes token p) (token :: others) with
        hsame | ⟨same, token', after, heq, hsame, htoken⟩
      · have haccept : AcceptLine (token :: others) p := ⟨hfirst, hsame⟩
        rcases forall_or_first (fun line => ∃ step, Means line.2 step) later with
          hgood | ⟨before, ⟨m, tokens⟩, after, rfl, hbefore, hbad⟩
        · obtain ⟨steps, hsteps⟩ := exists_forall₂ hgood
          exact ⟨_, .good haccept hsteps⟩
        · obtain ⟨steps, hsteps⟩ := exists_forall₂ hbefore
          obtain ⟨e, he⟩ := (means_or_badTransition m (hlater (m, tokens) (by simp))).resolve_left hbad
          exact ⟨_, .badTransition haccept hsteps he⟩
      · rw [heq] at hall ⊢
        obtain ⟨q, hq⟩ := hall token' (by simp)
        have hne : same ≠ [] := by
          rintro rfl
          cases heq
          exact htoken hp
        have hpq : p ≠ q := by
          rintro rfl
          exact htoken hq
        refine ⟨_, .acceptTwice ⟨hne, hsame⟩ hq hpq fun t ht => hall t ?_⟩
        exact List.mem_append_right _ (List.mem_cons_of_mem _ ht)
    · obtain ⟨e, he⟩ := (Text.denotes_or_error token).resolve_left htoken
      exact ⟨_, .acceptNumeral hbefore he⟩

theorem exists_read_accept {text : String} {p : Nat} {first : List String} {later : List (Nat × List String)}
    (hentries : entries text = (n, first) :: later) (haccept : AcceptLine first p) (hp : p + 1 < stateLimit) :
    ∃ b, b.Tracks (List.replicate first.length (.accept p)) ∧
      Automaton.read text =
        ((later.map fun line => (line.1, .ok line.2)).foldlM readTransition b >>= fun b =>
          atLine 0 b.finish) := by
  obtain ⟨b, hb, htracks⟩ := haccept.readAccept_eq (n := n) hp
  refine ⟨b, htracks, ?_⟩
  rw [read_eq, hentries]
  dsimp only
  rw [hb, ok_bind]

theorem exists_read_prefix {text : String} {p : Nat} {first : List String}
    {before later : List (Nat × List String)} {steps : List Step}
    (hentries : entries text = (n, first) :: (before ++ later)) (haccept : AcceptLine first p)
    (hp : p + 1 < stateLimit) (hsteps : List.Forall₂ (fun line step => Means line.2 step) before steps)
    (hrange : ∀ step ∈ steps, ∀ s ∈ step.states, s + 1 < stateLimit) :
    ∃ b, b.Tracks (List.replicate first.length (.accept p) ++ steps) ∧
      Automaton.read text =
        ((later.map fun line => (line.1, .ok line.2)).foldlM readTransition b >>= fun b =>
          atLine 0 b.finish) := by
  have htokens : ∀ line ∈ before, ∀ token ∈ line.2, token ≠ "" := by
    intro line hline
    have hmem : line ∈ entries text := by
      rw [hentries]
      exact List.mem_cons_of_mem _ (List.mem_append_left _ hline)
    exact ne_empty_of_mem_entries hmem
  obtain ⟨b, htracks, hread⟩ := exists_read_accept hentries haccept hp
  have hdone : ∀ s, .accept s ∈ List.replicate first.length (Step.accept p) → s = p := fun s hs =>
    Step.accept.inj (List.eq_of_mem_replicate hs)
  obtain ⟨b', hrun⟩ :=
    htracks.run_eq_ok (accept_eq_of_means hdone hsteps) (symbol?_ne_of_means hsteps htokens) hrange
  refine ⟨b', htracks.run hrun, ?_⟩
  rw [hread, List.map_append, List.foldlM_append, foldlM_readTransition_eq_ok hsteps hrun, ok_bind]

theorem Judged.read_eq_error {text : String} {lines : List (Nat × List String)}
    (h : Judged lines (.error e)) (hentries : entries text = lines) (hover : ¬BreaksOff lines) :
    Automaton.read text = .error (.error e) := by
  cases h with
  | noLine => rw [read_eq, hentries]
  | acceptNumeral hbefore htoken =>
    rw [read_eq, hentries]
    dsimp only
    rw [readAccept_eq_error hbefore htoken hover]
    rfl
  | @acceptTwice n p q same after token later hsame htoken hne hafter =>
    have hp : p + 1 < stateLimit := by
      obtain ⟨first, others, rfl⟩ := List.exists_cons_of_ne_nil hsame.1
      exact succ_lt_of_accept hover (hsame.2 first List.mem_cons_self)
    rw [read_eq, hentries]
    dsimp only
    rw [readAccept_eq_duplicate hsame hp htoken hne hafter]
    rfl
  | badTransition haccept hsteps hbad =>
    obtain ⟨b, -, hread⟩ := exists_read_prefix hentries haccept (haccept.succ_lt hover) hsteps
      (succ_lt_of_means hover haccept hsteps)
    rw [hread, List.map_cons, List.foldlM_cons, readTransition_eq_error hbad]
    rfl

theorem Judged.exists_finish {text : String} {lines : List (Nat × List String)} {steps : List Step}
    (h : Judged lines (.ok steps)) (hentries : entries text = lines) (hover : ¬BreaksOff lines) :
    ∃ (b : Builder) (p : Nat), b.Tracks steps ∧ b.accept = some p ∧
      Automaton.read text = atLine 0 b.finish := by
  cases h with
  | @good n p first later steps haccept hsteps =>
    rw [← List.append_nil later] at hentries hover
    obtain ⟨b, htracks, hread⟩ := exists_read_prefix hentries haccept (haccept.succ_lt hover) hsteps
      (succ_lt_of_means hover haccept hsteps)
    have htracks : b.Tracks (.accept p :: steps) :=
      htracks.congr fun step => by simp [List.mem_replicate, haccept.1]
    exact ⟨b, p, htracks, (htracks.accept p).mpr List.mem_cons_self, hread⟩

theorem Judged.read_eq_ok {text : String} {lines : List (Nat × List String)} {steps : List Step}
    (h : Judged lines (.ok steps)) (hentries : entries text = lines) (hover : ¬BreaksOff lines)
    (hroom : Step.HaveRoom steps) : ∃ a, Automaton.read text = .ok a ∧ a.BuiltFrom steps := by
  obtain ⟨b, p, htracks, hb, hread⟩ := h.exists_finish hentries hover
  obtain ⟨a, hfinish, -, ha⟩ := htracks.finish hb hroom
  refine ⟨a, ?_, ha⟩
  rw [hread, hfinish]
  rfl

theorem Judged.read_eq_capacityOverflow {text : String} {lines : List (Nat × List String)}
    {steps : List Step} (h : Judged lines (.ok steps)) (hentries : entries text = lines)
    (hover : ¬BreaksOff lines) (hroom : ¬Step.HaveRoom steps) :
    Automaton.read text = .error (.fault .capacityOverflow) := by
  obtain ⟨b, p, htracks, hb, hread⟩ := h.exists_finish hentries hover
  rw [hread, htracks.finish_eq_capacityOverflow hb hroom]
  rfl

end

end Description

/-- Reading a text follows the rules for its lines. -/
theorem Automaton.read_judged (text : String)
    (h : ∀ token ∈ Description.stateTokens (Description.entries text),
      ¬Text.Denotes token (stateLimit - 1)) :
    (∃ verdict, Description.Judged (Description.entries text) verdict) ∧
      (∀ e, Description.Judged (Description.entries text) (.error e) →
        Automaton.read text = .error (.error e)) ∧
      (∀ steps, Description.Judged (Description.entries text) (.ok steps) → Step.HaveRoom steps →
        ∃ a, Automaton.read text = .ok a ∧ a.BuiltFrom steps) := by
  refine ⟨Description.exists_judged fun line => Description.ne_nil_of_mem_entries, ?_, ?_⟩
  · exact fun e he => he.read_eq_error rfl (Description.not_breaksOff h)
  · exact fun steps hsteps hroom => hsteps.read_eq_ok rfl (Description.not_breaksOff h) hroom

/-- Here the text has comments, a carriage return, a tabulator and an accept state given twice. -/
theorem Automaton.read_judged_comments :
    let text := "# (a|ch)*b\n 2 +2\r\n\na 0 0\nch\t0 1#digraph\n1 0\nb 2 -"
    let steps : List Step :=
      [.accept 2, .move "a" 0 0, .move "ch" 0 1, .epsilonMove 1 0, .sinkMove "b" 2]
    let rows : Table := #[Row.add (Row.add ∅ "a" (.state 0)) "ch" (.state 1), Row.add ∅ "" (.state 0),
      Row.add ∅ "b" .sink]
    (∀ token ∈ Description.stateTokens (Description.entries text), ¬Text.Denotes token (stateLimit - 1)) ∧
      Description.Judged (Description.entries text) (.ok steps) ∧ Step.HaveRoom steps ∧
      ∃ a, read text = .ok a ∧ a.BuiltFrom steps ∧ make (.ofList ["a", "b", "ch"]) rows 2 = .ok a := by
  intro text steps rows
  have hentries : Description.entries text =
      [(2, ["2", "+2"]), (4, ["a", "0", "0"]), (5, ["ch", "0", "1"]), (6, ["1", "0"]), (7, ["b", "2", "-"])] := by
    decide +kernel
  have hlast : ∀ token ∈ Description.stateTokens (Description.entries text),
      ¬Text.Denotes token (stateLimit - 1) := by
    simp only [← Text.readNumeral_eq_ok_iff]
    decide +kernel
  have hjudged : Description.Judged (Description.entries text) (.ok steps) := by
    rw [hentries]
    refine .good ⟨nofun, ?_⟩ ?_
    · simp only [← Text.readNumeral_eq_ok_iff]
      decide +kernel
    · have hdenotes : Text.Denotes "0" 0 ∧ Text.Denotes "1" 1 ∧ Text.Denotes "2" 2 := by
        simp only [← Text.readNumeral_eq_ok_iff]
        decide +kernel
      obtain ⟨h0, h1, h2⟩ := hdenotes
      exact .cons (.move h0 h0) (.cons (.move h0 h1) (.cons (.epsilonMove h1 h0) (.cons (.sinkMove h2) .nil)))
  have hroom : Step.HaveRoom steps := by
    simp [steps, Step.HaveRoom, Step.states, rowLimit]
  obtain ⟨a, ha, hbuilt⟩ := (read_judged text hlast).2.2 steps hjudged hroom
  have hmake : (make (.ofList ["a", "b", "ch"]) rows 2).toOption = (read text).toOption := by
    decide +kernel
  rw [ha] at hmake
  refine ⟨hlast, hjudged, hroom, a, ha, hbuilt, ?_⟩
  cases hparts : make (.ofList ["a", "b", "ch"]) rows 2 <;> simp_all [Except.toOption]

/-- A single line can be good and still name a state that is too high for a table. -/
theorem Description.read_of_high_accept {text token : String} {n s : Nat}
    (hentries : entries text = [(n, [token])]) (htoken : Text.Denotes token s) (hlast : s + 1 < stateLimit)
    (hhigh : rowLimit ≤ s) :
    Judged (entries text) (.ok [.accept s]) ∧ Automaton.read text = .error (.fault .capacityOverflow) := by
  have hjudged : Judged (entries text) (.ok [.accept s]) := by
    rw [hentries]
    exact .good ⟨nofun, List.forall_mem_singleton.mpr htoken⟩ .nil
  have hover : ¬BreaksOff (entries text) := by
    refine not_breaksOff ?_
    rw [hentries, stateTokens, List.flatMap_nil, List.append_nil, List.forall_mem_singleton]
    intro hdenotes
    have := hdenotes.eq htoken
    omega
  have hroom : ¬Step.HaveRoom [.accept s] := by simpa [Step.HaveRoom, Step.states] using hhigh
  exact ⟨hjudged, hjudged.read_eq_capacityOverflow rfl hover hroom⟩

theorem Automaton.read_accept_eq_capacityOverflow :
    let text := "9223372036854775807"
    (∀ token ∈ Description.stateTokens (Description.entries text), ¬Text.Denotes token (stateLimit - 1)) ∧
      Description.Judged (Description.entries text) (.ok [.accept 9223372036854775807]) ∧
      read text = .error (.fault .capacityOverflow) := by
  intro text
  have hentries : Description.entries text = [(1, ["9223372036854775807"])] := by decide +kernel
  simp only [← Text.readNumeral_eq_ok_iff]
  refine ⟨by decide +kernel, Description.read_of_high_accept hentries ?_ (by decide) (by decide)⟩
  rw [← Text.readNumeral_eq_ok_iff]
  decide +kernel

end Automata
