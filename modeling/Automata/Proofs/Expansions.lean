import Automata.Builder
import Automata.Proofs.Exploration
import Mathlib.Data.List.ProdSigma

/-!
# How often a state is expanded

A state can be expanded more than once at one position of the text: as often as a symbol is read behind which
epsilon moves lead to the state (`Exploration.counted`). If no configuration can be entered in two ways, that
does not happen, and a text that is rejected gives no other case (`Automaton.expansions_nodup`).
-/

namespace Automata

def expansionsOf (visits : List Visit) : List Config := (visits.filter (·.expanded)).map Visit.config

section
variable {visits first second : List Visit}

@[simp] theorem expansionsOf_nil : expansionsOf [] = [] := rfl

@[simp] theorem expansionsOf_cons_true (s depth : Nat) (rest : List Char) :
    expansionsOf (⟨s, rest, depth, true⟩ :: visits) = ⟨s, rest⟩ :: expansionsOf visits := rfl

@[simp] theorem expansionsOf_cons_false (s depth : Nat) (rest : List Char) :
    expansionsOf (⟨s, rest, depth, false⟩ :: visits) = expansionsOf visits := rfl

@[simp] theorem expansionsOf_append :
    expansionsOf (first ++ second) = expansionsOf first ++ expansionsOf second := by
  simp [expansionsOf]

theorem exists_visit_of_mem_expansionsOf {k : Config} (h : k ∈ expansionsOf visits) :
    ∃ v ∈ visits, v.config = k := by
  obtain ⟨v, hv, hconfig⟩ := List.mem_map.mp h
  exact ⟨v, (List.mem_filter.mp hv).1, hconfig⟩

end

def Task.read? {text : List Char} : Task text → Option Config
  | .visit _ _ => none
  | .read rest _ s _ => some ⟨s, rest⟩

def readsOf {text : List Char} (agenda : List (Task text)) : List Config := agenda.filterMap Task.read?

section
variable {text : List Char} {agenda : List (Task text)}

@[simp] theorem readsOf_nil : readsOf ([] : List (Task text)) = [] := rfl

@[simp] theorem readsOf_visit_cons (s depth : Nat) :
    readsOf (.visit s depth :: agenda) = readsOf agenda := rfl

@[simp] theorem readsOf_read_cons (s depth : Nat) (rest : List Char) (shorter : rest.length < text.length) :
    readsOf (.read rest shorter s depth :: agenda) = ⟨s, rest⟩ :: readsOf agenda := rfl

@[simp] theorem readsOf_append (agenda later : List (Task text)) :
    readsOf (agenda ++ later) = readsOf agenda ++ readsOf later := List.filterMap_append

end

namespace Automaton

section
variable {a : Automaton} {text : List Char} {k k' m : Config} {s depth : Nat}

-- ---------------------------------------------------------------------------
-- Symbols that are read
-- ---------------------------------------------------------------------------

theorem suffix_of_reaches (h : a.Reaches k k') : k'.rest <:+ k.rest := by
  induction h with
  | refl => exact List.suffix_rfl
  | tail _ hmove ih =>
    obtain ⟨y, -, htext⟩ := move_iff.mp hmove
    exact List.IsSuffix.trans ⟨y.toList, htext.symm⟩ ih

/-- The configurations that reading one symbol leads to. -/
def reads (a : Automaton) (k : Config) : List Config :=
  a.alphabet.toList.flatMap fun y =>
    (y.after? k.rest).toList.flatMap fun rest => (a.targets k.state y).map (⟨·, rest⟩)

theorem mem_reads_iff : m ∈ a.reads k ↔ a.Move k m ∧ m.rest ≠ k.rest := by
  simp only [reads, List.mem_flatMap, Std.ExtTreeSet.mem_toList, Option.mem_toList, List.mem_map]
  constructor
  · rintro ⟨y, hy, rest, hafter, d, hd, rfl⟩
    have hlength := Symbol.length_lt_of_after? hafter
    obtain ⟨hne, htext⟩ := Symbol.after?_eq_some_iff.mp hafter
    refine ⟨move_iff.mpr ⟨y, hd, htext⟩, ?_⟩
    rintro rfl
    exact Nat.lt_irrefl _ hlength
  · rintro ⟨hmove, hrest⟩
    cases hmove with
    | epsilon => exact absurd rfl hrest
    | @symbol s d y rest hy hne hd =>
      exact ⟨y, hy, rest, Symbol.after?_eq_some_iff.mpr ⟨hne, rfl⟩, d, hd, rfl⟩

theorem length_lt_of_mem_reads (h : m ∈ a.reads k) : m.rest.length < k.rest.length := by
  obtain ⟨hmove, hrest⟩ := mem_reads_iff.mp h
  have hsuffix : m.rest <:+ k.rest := suffix_of_reaches (.single hmove)
  exact lt_of_le_of_ne hsuffix.length_le fun heq => hrest (hsuffix.eq_of_length heq)

theorem nodup_targets (a : Automaton) (s : Nat) (y : Symbol) : (a.targets s y).Nodup :=
  (a.ascending_targets s y).imp Nat.ne_of_lt

theorem nodup_reads (a : Automaton) (k : Config) : (a.reads k).Nodup := by
  refine List.nodup_flatMap.mpr ⟨fun y _ => ?_, ?_⟩
  · cases y.after? k.rest with
    | none => exact List.nodup_nil
    | some rest =>
      rw [Option.toList_some, List.flatMap_singleton]
      exact (a.nodup_targets k.state y).map fun d d' h => congrArg Config.state h
  · refine Std.ExtTreeSet.distinct_toList.imp fun {y y'} hne m hm hm' => ?_
    simp only [List.mem_flatMap, Option.mem_toList, List.mem_map] at hm hm'
    obtain ⟨rest, hafter, d, -, rfl⟩ := hm
    obtain ⟨rest', hafter', d', -, heq⟩ := hm'
    obtain rfl : rest' = rest := congrArg Config.rest heq
    -- What is left after a symbol tells which symbol it was.
    have htext := (Symbol.after?_eq_some_iff.mp hafter).2.symm.trans (Symbol.after?_eq_some_iff.mp hafter').2
    have hy : y = y' := String.toList_inj.mp (List.append_cancel_right htext)
    exact hne (by simp [hy])

theorem readsOf_symbolTasks (y : Symbol) : readsOf (a.symbolTasks text s depth y) =
    (y.after? text).toList.flatMap fun rest => (a.targets s y).map (⟨·, rest⟩) := by
  unfold symbolTasks
  split
  · rename_i rest hafter
    simp [readsOf, Task.read?, hafter, Function.comp_def]
  · rename_i hafter
    simp [hafter]

theorem readsOf_tasks : readsOf (a.tasks text s depth) = a.reads ⟨s, text⟩ := by
  have hvisits : readsOf ((a.targets s Symbol.epsilon).map (.visit · depth) : List (Task text)) = [] := by
    simp [readsOf, Task.read?]
  rw [tasks, readsOf_append, hvisits, List.nil_append, readsOf, List.filterMap_flatMap]
  exact congrArg (a.alphabet.toList.flatMap ·) (funext fun y => readsOf_symbolTasks y)

-- ---------------------------------------------------------------------------
-- Counting expansions
-- ---------------------------------------------------------------------------

def Drifts (a : Automaton) (m k : Config) : Prop := a.Reaches m k ∧ k.rest = m.rest

open Classical in
/-- From how many of these configurations epsilon moves lead to `k`. -/
noncomputable def arrivals (a : Automaton) (ms : List Config) (k : Config) : Nat :=
  ms.countP (a.Drifts · k)

@[simp] theorem arrivals_nil : a.arrivals [] k = 0 := rfl

@[simp] theorem arrivals_append (ms ms' : List Config) :
    a.arrivals (ms ++ ms') k = a.arrivals ms k + a.arrivals ms' k := List.countP_append

theorem arrivals_eq_zero {ms : List Config} (h : ∀ m ∈ ms, ¬a.Drifts m k) : a.arrivals ms k = 0 :=
  List.countP_eq_zero.mpr (by simpa using h)

theorem arrivals_singleton (h : a.Drifts m k) : a.arrivals [m] k = 1 := by
  simp [arrivals, h]

section
variable {seen seen' : StateSet} {found : Bool} {agenda : List (Task text)} {visits : List Visit}

theorem Exploration.reaches_of_expanded (h : a.Exploration text [.visit s depth] seen found seen' visits) :
    ∀ k ∈ expansionsOf visits, a.Reaches ⟨s, text⟩ k := by
  intro k hk
  obtain ⟨v, hv, rfl⟩ := exists_visit_of_mem_expansionsOf hk
  exact h.reaches_of_visit v hv

theorem Exploration.not_mem_of_shorter {rest : List Char}
    (h : a.Exploration rest [.visit s depth] seen found seen' visits) (shorter : rest.length < text.length)
    (d : Nat) : ⟨d, text⟩ ∉ expansionsOf visits := by
  intro hmem
  have hle : text.length ≤ rest.length := (suffix_of_reaches (h.reaches_of_expanded _ hmem)).length_le
  exact Nat.lt_irrefl _ (Nat.lt_of_le_of_lt hle shorter)

theorem Exploration.count_here_le (h : a.Exploration text agenda seen found seen' visits) (d : Nat) :
    (expansionsOf visits).count ⟨d, text⟩ ≤ if d ∈ seen then 0 else 1 := by
  induction h with
  | done => exact Nat.zero_le _
  | @readFound _ _ shorter _ _ _ _ _ _ hinner _ =>
    rw [List.count_eq_zero_of_not_mem (hinner.not_mem_of_shorter shorter d)]
    exact Nat.zero_le _
  | @readFailed _ _ shorter _ _ _ _ _ _ _ _ _ hinner _ _ ih =>
    rw [expansionsOf_append, List.count_append,
      List.count_eq_zero_of_not_mem (hinner.not_mem_of_shorter shorter d), Nat.zero_add]
    exact ih
  | accept => exact Nat.zero_le _
  | again _ _ _ ih => exact ih
  | @expand _ s _ _ seen _ _ _ _ hs _ ih =>
    rw [expansionsOf_cons_true]
    by_cases hd : d = s
    · subst hd
      rw [if_pos (mem_insert_iff.mpr (.inl rfl))] at ih
      rw [List.count_cons_self, if_neg hs]
      omega
    · rw [List.count_cons_of_ne fun heq => hd (congrArg Config.state heq).symm]
      have hmem : d ∈ seen.insert s ↔ d ∈ seen := by
        rw [mem_insert_iff, or_iff_right hd]
      simpa only [hmem] using ih

theorem Exploration.mem_expansionsOf (h : a.Exploration text agenda seen found seen' visits)
    (hfound : found = false) :
    ∀ k ∈ visits.map Visit.config, (k.rest = text ∧ k.state ∈ seen) ∨ k ∈ expansionsOf visits := by
  induction h with
  | done => simp
  | readFound => cases hfound
  | accept => cases hfound
  | readFailed _ _ ih₁ ih₂ =>
    rw [List.map_append, List.forall_mem_append, expansionsOf_append]
    constructor
    · intro k hk
      exact .inr (List.mem_append_left _ ((ih₁ rfl k hk).resolve_left fun h => by simp at h))
    · intro k hk
      exact (ih₂ hfound k hk).imp_right (List.mem_append_right _)
  | again _ hs _ ih =>
    rw [List.map_cons, List.forall_mem_cons]
    exact ⟨.inl ⟨rfl, hs⟩, ih hfound⟩
  | expand _ _ _ ih =>
    rw [List.map_cons, List.forall_mem_cons, expansionsOf_cons_true]
    refine ⟨.inr List.mem_cons_self, fun k hk => ?_⟩
    rcases ih hfound k hk with ⟨htext, hseen⟩ | hmem
    · rcases mem_insert_iff.mp hseen with hs | hseen
      · refine .inr (List.mem_cons.mpr (.inl ?_))
        rw [← htext, ← hs]
      · exact .inl ⟨htext, hseen⟩
    · exact .inr (List.mem_cons_of_mem _ hmem)

theorem Exploration.mem_expansionsOf_iff
    (h : a.Exploration text [.visit s depth] ∅ false seen' visits) :
    k ∈ expansionsOf visits ↔ a.Reaches ⟨s, text⟩ k :=
  ⟨h.reaches_of_expanded k, fun hk =>
    (h.mem_expansionsOf rfl k (h.mem_of_reaches hk)).resolve_left fun h => by simp at h⟩

/-- `k` is expanded as often as epsilon moves lead to it, from one of the starts or from behind a symbol that
is read. A search that ends early may leave some of them out. -/
structure Counted (a : Automaton) (found : Bool) (visits : List Visit) (starts : List Config)
    (k : Config) : Prop where
  le : (expansionsOf visits).count k ≤ a.arrivals (starts ++ (expansionsOf visits).flatMap a.reads) k
  eq : found = false →
    (expansionsOf visits).count k = a.arrivals (starts ++ (expansionsOf visits).flatMap a.reads) k

theorem Exploration.arrivals_reads_eq_zero
    (h : a.Exploration text [.visit s depth] seen found seen' visits) (hk : k.rest = text) :
    a.arrivals ((expansionsOf visits).flatMap a.reads) k = 0 := by
  refine arrivals_eq_zero fun m hm hdrift => ?_
  obtain ⟨k', hk', hm⟩ := List.mem_flatMap.mp hm
  have hle : k'.rest.length ≤ text.length := (suffix_of_reaches (h.reaches_of_expanded _ hk')).length_le
  have hlt := length_lt_of_mem_reads hm
  rw [← hdrift.2, hk] at hlt
  omega

theorem Exploration.counted_of_later (h : a.Exploration text [.visit s depth] ∅ found seen' visits)
    (hlater : k.rest ≠ text → a.Counted found visits [] k) : a.Counted found visits [⟨s, text⟩] k := by
  by_cases hk : k.rest = text
  · have hreads := h.arrivals_reads_eq_zero hk
    by_cases hdrift : a.Drifts ⟨s, text⟩ k
    · have hle := h.count_here_le k.state
      rw [if_neg (by simp), ← hk] at hle
      have hstart : a.arrivals ([⟨s, text⟩] ++ (expansionsOf visits).flatMap a.reads) k = 1 := by
        rw [arrivals_append, arrivals_singleton hdrift, hreads]
      refine ⟨hstart ▸ hle, ?_⟩
      rintro rfl
      have hpos : 0 < (expansionsOf visits).count k :=
        List.count_pos_iff.mpr (h.mem_expansionsOf_iff.mpr hdrift.1)
      exact hstart ▸ Nat.le_antisymm hle hpos
    · have hnot : k ∉ expansionsOf visits := fun hmem => hdrift ⟨h.reaches_of_expanded k hmem, hk⟩
      have hstart : a.arrivals ([⟨s, text⟩] ++ (expansionsOf visits).flatMap a.reads) k = 0 := by
        rw [arrivals_append, arrivals_eq_zero (by simpa using hdrift), hreads]
      have hcount := List.count_eq_zero_of_not_mem hnot
      exact ⟨Nat.le_of_eq (hcount.trans hstart.symm), fun _ => hcount.trans hstart.symm⟩
  · have hstart : a.arrivals [⟨s, text⟩] k = 0 := arrivals_eq_zero (by simpa using fun h => hk h.2)
    obtain ⟨hle, heq⟩ := hlater hk
    rw [arrivals_append, arrivals_nil] at hle heq
    constructor
    · rwa [arrivals_append, hstart]
    · rwa [arrivals_append, hstart]

theorem Counted.append_starts {starts : List Config} (h : a.Counted true visits starts k)
    (more : List Config) : a.Counted true visits (starts ++ more) k := by
  refine ⟨?_, nofun⟩
  have hle := h.le
  rw [arrivals_append] at hle ⊢
  rw [arrivals_append]
  omega

theorem Counted.append {first second : List Visit} {starts starts' : List Config}
    (h₁ : a.Counted false first starts k) (h₂ : a.Counted found second starts' k) :
    a.Counted found (first ++ second) (starts ++ starts') k := by
  have heq := h₁.eq rfl
  obtain ⟨hle, heq'⟩ := h₂
  have hsum : a.arrivals (starts ++ starts' ++ (expansionsOf (first ++ second)).flatMap a.reads) k =
      a.arrivals (starts ++ (expansionsOf first).flatMap a.reads) k +
        a.arrivals (starts' ++ (expansionsOf second).flatMap a.reads) k := by
    simp only [expansionsOf_append, List.flatMap_append, arrivals_append]
    omega
  constructor
  · rw [hsum, expansionsOf_append, List.count_append]
    omega
  · intro hfound
    rw [hsum, expansionsOf_append, List.count_append, heq, heq' hfound]

/-- Symbols that a state reads are starts of searches before they are read. -/
theorem Counted.expand {starts : List Config} (h : a.Counted found visits (a.reads ⟨s, text⟩ ++ starts) k)
    (hne : ⟨s, text⟩ ≠ k) : a.Counted found (⟨s, text, depth, true⟩ :: visits) starts k := by
  obtain ⟨hle, heq⟩ := h
  have hcount : (expansionsOf (⟨s, text, depth, true⟩ :: visits)).count k = (expansionsOf visits).count k :=
    List.count_cons_of_ne hne
  have hsum : a.arrivals (starts ++ (expansionsOf (⟨s, text, depth, true⟩ :: visits)).flatMap a.reads) k =
      a.arrivals (a.reads ⟨s, text⟩ ++ starts ++ (expansionsOf visits).flatMap a.reads) k := by
    simp only [expansionsOf_cons_true, List.flatMap_cons, arrivals_append]
    omega
  exact ⟨by rwa [hcount, hsum], by rwa [hcount, hsum]⟩

theorem Exploration.counted_later (h : a.Exploration text agenda seen found seen' visits) :
    k.rest ≠ text → a.Counted found visits (readsOf agenda) k := by
  induction h with
  | done => exact fun _ => ⟨Nat.zero_le _, fun _ => rfl⟩
  | readFound hinner ih => exact fun _ => (hinner.counted_of_later ih).append_starts _
  | readFailed hinner _ ih₁ ih₂ => exact fun hk => (hinner.counted_of_later ih₁).append (ih₂ hk)
  | accept => exact fun _ => ⟨Nat.zero_le _, nofun⟩
  | again _ _ _ ih => exact fun hk => ⟨(ih hk).le, (ih hk).eq⟩
  | @expand text s _ _ _ _ _ _ _ _ _ ih =>
    intro hk
    rw [readsOf_append, readsOf_tasks] at ih
    exact (ih hk).expand fun heq => hk (congrArg Config.rest heq).symm

theorem Exploration.counted (h : a.Exploration text [.visit s depth] ∅ found seen' visits) (k : Config) :
    a.Counted found visits [⟨s, text⟩] k :=
  h.counted_of_later h.counted_later

end

section
variable {α β : Type} {p : β → Bool}

theorem eq_of_countP_le_one {l : List β} {x y : β} (h : l.countP p ≤ 1) (hx : x ∈ l) (hy : y ∈ l)
    (hpx : p x) (hpy : p y) : x = y := by
  rw [List.countP_eq_length_filter] at h
  have hx' : x ∈ l.filter p := List.mem_filter.mpr ⟨hx, hpx⟩
  have hy' : y ∈ l.filter p := List.mem_filter.mpr ⟨hy, hpy⟩
  obtain ⟨z, hz⟩ := List.length_eq_one_iff.mp (Nat.le_antisymm h (List.length_pos_of_mem hx'))
  rw [hz, List.mem_singleton] at hx' hy'
  rw [hx', hy']

theorem eq_of_countP_flatMap_le_one {f : α → List β} {l : List α} {x x' : α} {y y' : β}
    (h : (l.flatMap f).countP p ≤ 1) (hx : x ∈ l) (hy : y ∈ f x) (hpy : p y) (hx' : x' ∈ l)
    (hy' : y' ∈ f x') (hpy' : p y') : x = x' ∧ y = y' := by
  -- Where an element of the flat list comes from is kept beside it.
  have hpairs : (l.flatMap fun x => (f x).map (x, ·)).map Prod.snd = l.flatMap f := by
    simp [List.map_flatMap]
  have hmem : ∀ {x y}, x ∈ l → y ∈ f x → (x, y) ∈ l.flatMap fun x => (f x).map (x, ·) := fun hx hy =>
    List.mem_flatMap.mpr ⟨_, hx, List.mem_map.mpr ⟨_, hy, rfl⟩⟩
  rw [← hpairs, List.countP_map] at h
  exact Prod.mk.inj (eq_of_countP_le_one h (hmem hx hy) (hmem hx' hy') hpy hpy')

theorem countP_flatMap_le_count [DecidableEq α] {f : α → List β} {x : α} {l : List α}
    (h : ∀ x' ∈ l, (f x').countP p ≤ if x' = x then 1 else 0) : (l.flatMap f).countP p ≤ l.count x := by
  induction l with
  | nil => exact Nat.zero_le _
  | cons x' l ih =>
    rw [List.forall_mem_cons] at h
    rw [List.flatMap_cons, List.countP_append, List.count_cons, Nat.add_comm]
    exact Nat.add_le_add (ih h.2) (by simpa using h.1)

end

-- ---------------------------------------------------------------------------
-- The search over a whole text
-- ---------------------------------------------------------------------------

def expansions (a : Automaton) (text : String) : List Config := expansionsOf (a.visits text)

/-- On the way from the start to `k` the symbol between `src` and `first` is the last that is read. -/
structure Enters (a : Automaton) (text : String) (src first k : Config) : Prop where
  reached : a.Reaches ⟨0, text.toList⟩ src
  move : a.Move src first
  reads : first.rest ≠ src.rest
  drifts : a.Drifts first k

/-- No configuration can be entered in two ways. -/
def Unambiguous (a : Automaton) (text : String) : Prop :=
  ∀ ⦃k src src' first first' : Config⦄, a.Enters text src first k → a.Enters text src' first' k →
    src = src' ∧ first = first'

section
variable {text : String} {k src first : Config}

theorem expansions_of_table_eq_empty (h : a.table = #[]) (text : String) : a.expansions text = [] := by
  simp [expansions, visits, search, h]

theorem reaches_of_mem_expansions (h : k ∈ a.expansions text) : a.Reaches ⟨0, text.toList⟩ k := by
  by_cases htable : a.table = #[]
  · rw [expansions_of_table_eq_empty htable] at h
    cases h
  · exact (search_exploration htable text).reaches_of_expanded k h

theorem state_lt_of_mem_expansions (h : k ∈ a.expansions text) : k.state < a.size := by
  obtain ⟨v, hv, rfl⟩ := exists_visit_of_mem_expansionsOf h
  exact state_lt_of_mem_visits hv

theorem Enters.mem_reads (h : a.Enters text src first k) : first ∈ a.reads src :=
  mem_reads_iff.mpr ⟨h.move, h.reads⟩

theorem enters_of_mem (hsrc : src ∈ a.expansions text) (hfirst : first ∈ a.reads src)
    (hdrift : a.Drifts first k) : a.Enters text src first k :=
  ⟨reaches_of_mem_expansions hsrc, (mem_reads_iff.mp hfirst).1, (mem_reads_iff.mp hfirst).2, hdrift⟩

theorem counted_expansions (h : a.table ≠ #[]) (text : String) (k : Config) :
    a.Counted (a.accepts text) (a.visits text) [⟨0, text.toList⟩] k :=
  (search_exploration h text).counted k

/-- One way into `k`, and one expansion of the configuration that it comes from, are one arrival. -/
theorem Unambiguous.arrivals_le_one (h : a.Unambiguous text)
    (hlonger : ∀ src : Config, k.rest.length < src.rest.length → (a.expansions text).count src ≤ 1) :
    a.arrivals ((a.expansions text).flatMap a.reads) k ≤ 1 := by
  by_cases hway : ∃ src ∈ a.expansions text, ∃ first ∈ a.reads src, a.Drifts first k
  · obtain ⟨src, hsrc, first, hfirst, hdrift⟩ := hway
    have henters := enters_of_mem hsrc hfirst hdrift
    have hlt : k.rest.length < src.rest.length := hdrift.2 ▸ length_lt_of_mem_reads hfirst
    refine (countP_flatMap_le_count fun src' hsrc' => ?_).trans (hlonger src hlt)
    split
    · rename_i heq
      subst heq
      have hone : ∀ m ∈ a.reads src', a.Drifts m k → m = first := fun m hm hdrift' =>
        (h (enters_of_mem hsrc hm hdrift') henters).2
      calc a.arrivals (a.reads src') k
        _ ≤ (a.reads src').count first := List.countP_mono_left (by simpa using hone)
        _ ≤ 1 := List.nodup_iff_count_le_one.mp (a.nodup_reads src') first
    · rename_i hne
      refine Nat.le_of_eq (arrivals_eq_zero fun m hm hdrift' => hne ?_)
      exact (h (enters_of_mem hsrc' hm hdrift') henters).1
  · rw [arrivals_eq_zero]
    · exact Nat.zero_le _
    · intro m hm hdrift
      obtain ⟨src, hsrc, hm⟩ := List.mem_flatMap.mp hm
      exact hway ⟨src, hsrc, m, hm, hdrift⟩

theorem Unambiguous.count_le_one (h : a.Unambiguous text) (k : Config) :
    (a.expansions text).count k ≤ 1 := by
  by_cases htable : a.table = #[]
  · rw [expansions_of_table_eq_empty htable]
    exact Nat.zero_le _
  -- The configurations that lead to `k` have more text left.
  induction hn : text.toList.length - k.rest.length using Nat.strong_induction_on generalizing k with
  | _ n ih =>
    by_cases hstart : k.rest = text.toList
    · have hhere := (search_exploration htable text).count_here_le k.state
      rw [if_neg (by simp), ← hstart] at hhere
      exact hhere
    · have hle := (counted_expansions htable text k).le
      rw [arrivals_append, arrivals_eq_zero (by simpa using fun hdrift => hstart hdrift.2),
        Nat.zero_add] at hle
      refine hle.trans (h.arrivals_le_one fun src hlt => ?_)
      by_cases hmem : src ∈ a.expansions text
      · have hlength : src.rest.length ≤ text.toList.length :=
          (suffix_of_reaches (reaches_of_mem_expansions hmem)).length_le
        exact ih _ (by omega) src rfl
      · rw [List.count_eq_zero_of_not_mem hmem]
        exact Nat.zero_le _

theorem unambiguous_of_nodup (hreject : a.accepts text = false) (h : (a.expansions text).Nodup) :
    a.Unambiguous text := by
  intro k src src' first first' henters henters'
  have htable : a.table ≠ #[] := by
    intro htable
    obtain ⟨y, hd, -⟩ := move_iff.mp henters.move
    exact absurd (source_lt_of_mem_targets hd) (by simp [size, htable])
  have hexp := search_exploration htable text
  rw [hreject] at hexp
  have harrivals : a.arrivals ((a.expansions text).flatMap a.reads) k ≤ 1 := by
    have heq := (counted_expansions htable text k).eq hreject
    rw [arrivals_append] at heq
    have hone := List.nodup_iff_count_le_one.mp h k
    rw [expansions] at hone ⊢
    omega
  have hmem : ∀ {src first}, a.Enters text src first k → src ∈ a.expansions text := fun henters =>
    hexp.mem_expansionsOf_iff.mpr henters.reached
  exact eq_of_countP_flatMap_le_one harrivals (hmem henters) henters.mem_reads
    (by simpa using henters.drifts) (hmem henters') henters'.mem_reads (by simpa using henters'.drifts)

theorem length_le_of_nodup (h : (a.expansions text).Nodup) :
    (a.expansions text).length ≤ a.size * (text.length + 1) := by
  have hsubset : a.expansions text ⊆
      (List.range a.size ×ˢ text.toList.tails).map fun (s, rest) => ⟨s, rest⟩ := by
    intro k hk
    refine List.mem_map.mpr ⟨(k.state, k.rest), List.mem_product.mpr ⟨?_, ?_⟩, rfl⟩
    · exact List.mem_range.mpr (state_lt_of_mem_expansions hk)
    · exact (List.mem_tails ..).mpr (suffix_of_reaches (reaches_of_mem_expansions hk))
  have hlength := (List.subperm_of_subset h hsubset).length_le
  simpa only [List.length_map, List.length_product, List.length_range, List.length_tails,
    String.length_toList] using hlength

/-- A configuration is expanded at most as often as it is entered, and exactly as often in a search that
fails. If none can be entered in two ways, none is expanded twice, so that there is at most one expansion
for each state and position. For a text that is rejected this is the only such case. -/
theorem expansions_nodup (a : Automaton) (text : String) :
    (a.table ≠ #[] → ∀ k, a.Counted (a.accepts text) (a.visits text) [⟨0, text.toList⟩] k) ∧
      (a.Unambiguous text → (a.expansions text).Nodup ∧
        (a.expansions text).length ≤ a.size * (text.length + 1)) ∧
      (a.accepts text = false → (a.expansions text).Nodup → a.Unambiguous text) := by
  refine ⟨fun h k => counted_expansions h text k, fun h => ?_, unambiguous_of_nodup⟩
  have hnodup := List.nodup_iff_count_le_one.mpr h.count_le_one
  exact ⟨hnodup, length_le_of_nodup hnodup⟩

/-- Two letters can be read one by one or at once, so what follows them is entered in several ways. -/
theorem expansions_overlapping :
    ∃ a, build [.accept 0, .move "a" 0 0, .move "aa" 0 0] = .ok a ∧
      (a.expansions "aaab").count ⟨0, ['b']⟩ = 3 ∧
      a.size * ("aaab".length + 1) < (a.expansions "aaab").length := by
  obtain ⟨a, ha⟩ : ∃ a, build [.accept 0, .move "a" 0 0, .move "aa" 0 0] = .ok a := ⟨_, rfl⟩
  have htable : a.table.isEmpty = false := by cases ha; rfl
  have haccept : a.accept = 0 := by cases ha; rfl
  have hsymbols : a.alphabet.toList = ["a", "aa"] := by cases ha; rfl
  have hepsilon : a.targets 0 "" = [] := by cases ha; rfl
  have hone : a.targets 0 "a" = [0] := by cases ha; rfl
  have htwo : a.targets 0 "aa" = [0] := by cases ha; rfl
  have hexpansions : a.expansions "aaab" =
      [⟨0, ['a', 'a', 'a', 'b']⟩, ⟨0, ['a', 'a', 'b']⟩, ⟨0, ['a', 'b']⟩, ⟨0, ['b']⟩, ⟨0, ['b']⟩,
        ⟨0, ['a', 'b']⟩, ⟨0, ['b']⟩] := by
    simp [expansions, visits, search, explore, tasks, symbolTasks, Symbol.after?, Symbol.dropLetters?,
      Symbol.epsilon, htable, haccept, hsymbols, hepsilon, hone, htwo]
  have hsize : a.size = 1 := by cases ha; rfl
  refine ⟨a, ha, ?_⟩
  rw [hexpansions, hsize]
  exact ⟨rfl, by decide⟩

end

end

end Automaton

end Automata
