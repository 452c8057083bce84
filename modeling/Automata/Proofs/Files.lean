import Automata.Proofs.Encoding
import Automata.Proofs.Failures
import Automata.Proofs.Reading

/-!
# Descriptions in files

What comes before the first line that cannot be decoded is judged as if it were all; only if none of its
lines is at fault does the file fail, for its encoding (`Automaton.readSource_content`).
-/

namespace Automata

namespace Description

-- ---------------------------------------------------------------------------
-- Lines that count
-- ---------------------------------------------------------------------------

abbrev Content := Except FileError (List String)

def content : Line → Option Content
  | .error e => some (.error e)
  | .ok line => if tokens line = [] then none else some (.ok (tokens line))

def numbered (n : Nat) (contents : List (Option Content)) : List (Nat × Content) :=
  (contents.zipIdx n).filterMap fun (c, n) => c.map (n, ·)

theorem significant_eq (lines : List Line) : significant lines = numbered 1 (lines.map content) := by
  rw [significant, numbered, List.zipIdx_map, List.filterMap_map]
  apply List.filterMap_congr
  rintro ⟨line, n⟩ -
  cases line with
  | error e => rfl
  | ok line =>
    simp only [Function.comp_apply, Prod.map_apply, content, id_eq]
    split <;> rfl

theorem numbered_append (n : Nat) (xs ys : List (Option Content)) :
    numbered n (xs ++ ys) = numbered n xs ++ numbered (n + xs.length) ys := by
  rw [numbered, List.zipIdx_append, List.filterMap_append]
  rfl

theorem numbered_some_cons (n : Nat) (c : Content) (xs : List (Option Content)) :
    numbered n (some c :: xs) = (n, c) :: numbered (n + 1) xs := rfl

theorem significant_append (lines later : List Line) :
    significant (lines ++ later) =
      significant lines ++ numbered (1 + lines.length) (later.map content) := by
  rw [significant_eq, List.map_append, numbered_append, ← significant_eq, List.length_map]

theorem significant_concat {line : Line} (h : content line = none) (lines : List Line) :
    significant (lines ++ [line]) = significant lines := by
  rw [significant_append, List.map_singleton, h]
  exact List.append_nil _

theorem significant_congr {lines lines' : List Line} (h : lines.map content = lines'.map content) :
    significant lines = significant lines' := by
  rw [significant_eq, significant_eq, h]

theorem ne_nil_of_mem_significant {lines : List Line} {n : Nat} {tokens : List String}
    (h : (n, .ok tokens) ∈ significant lines) : tokens ≠ [] := by
  rw [significant_eq, numbered, List.mem_filterMap] at h
  obtain ⟨⟨c, m⟩, hmem, hsome⟩ := h
  obtain ⟨c', rfl, hpair⟩ := Option.map_eq_some_iff.mp hsome
  cases hpair
  obtain ⟨line, -, hline⟩ := List.mem_map.mp (List.fst_mem_of_mem_zipIdx hmem)
  cases line with
  | error e => cases hline
  | ok line =>
    rw [content] at hline
    split at hline
    · cases hline
    · rename_i hne
      cases hline
      exact hne

-- ---------------------------------------------------------------------------
-- Ends of lines
-- ---------------------------------------------------------------------------

/-- A carriage return at the end of a line is blank, or belongs to its comment. -/
theorem tokens_push_return (line : String) : tokens (line.push '\r') = tokens line := by
  have hblank : Text.isBlank '\r' = true := by decide
  rw [tokens, tokens, String.toList_push, List.takeWhile_append]
  split
  · rename_i hlength
    have hwhole : line.toList.takeWhile (· ≠ '#') = line.toList :=
      (List.takeWhile_prefix _).eq_of_length hlength
    have hreturn : ['\r'].takeWhile (· ≠ '#') = ['\r'] := by decide
    rw [hwhole, hreturn, Text.segments_append_separator hblank, List.filter_append]
    exact congrArg _ (List.append_nil _)
  · rfl

theorem content_push_return (line : Line) : content (line.map (·.push '\r')) = content line := by
  cases line with
  | error e => rfl
  | ok line => simp only [Except.map, content, tokens_push_return]

/-- Whether the parts between line feeds are cleaned up at their ends makes no difference to the lines
that count, however lines are made of them. -/
theorem significant_handedOver {α : Type} [DecidableEq α] {ret : α} {decode : List α → Line}
    (hempty : content (decode []) = none)
    (hreturn : ∀ part, content (decode (part ++ [ret])) = content (decode part))
    (parts : List (List α)) :
    significant ((Text.handedOver ret parts).map decode) = significant (parts.map decode) := by
  rcases List.eq_nil_or_concat parts with rfl | ⟨front, last, rfl⟩
  · rfl
  have hclosed : ∀ part : List α,
      content (decode (if part.getLast? = some ret then part.dropLast else part)) =
        content (decode part) := by
    intro part
    split
    · rename_i hlast
      rw [← hreturn, List.dropLast_append_getLast? ret hlast]
    · rfl
  rw [List.concat_eq_append, Text.handedOver, List.dropLast_concat, List.getLast?_concat, List.map_append,
    List.map_singleton]
  cases last with
  | nil =>
    rw [significant_concat hempty]
    apply significant_congr
    simp only [List.map_map, Function.comp_def, hclosed]
  | cons c last =>
    apply significant_congr
    simp only [List.map_append, List.map_map, Function.comp_def, hclosed, List.map_singleton]

-- ---------------------------------------------------------------------------
-- Reading line by line
-- ---------------------------------------------------------------------------

def collect : List (Nat × Content) → Except (Failure ReadError) Builder
  | [] => .error (.error .missingAccept)
  | (n, first) :: later => do
    let tokens ← first.mapError fun e => .error (.file e)
    let b ← readAccept n tokens
    later.foldlM readTransition b

section
variable {n : Nat} {lines : List (Nat × Content)} {b b' : Builder} {steps : List Step}

theorem readLines_eq (lines : List Line) :
    readLines lines = collect (significant lines) >>= fun b => atLine 0 b.finish := by
  unfold readLines collect
  cases significant lines with
  | nil => rfl
  | cons line later =>
    obtain ⟨n, first⟩ := line
    simp only [bind_assoc]

theorem collect_append (h : lines ≠ []) (later : List (Nat × Content)) :
    collect (lines ++ later) = collect lines >>= fun b => later.foldlM readTransition b := by
  obtain ⟨⟨n, first⟩, more, rfl⟩ := List.exists_cons_of_ne_nil h
  simp only [List.cons_append, collect, List.foldlM_append, bind_assoc]

theorem atLine_eq_ok_iff {α : Type} {outcome : Except (Failure BuildError) α} {a : α} :
    atLine n outcome = .ok a ↔ outcome = .ok a := by
  cases outcome <;> simp [atLine, Except.mapError]

theorem exists_tracks_of_readAccept {tokens : List String} (htokens : tokens ≠ [])
    (h : readAccept n tokens = .ok b) : ∃ steps p, b.Tracks steps ∧ .accept p ∈ steps := by
  obtain ⟨token, others, rfl⟩ := List.exists_cons_of_ne_nil htokens
  obtain ⟨p, -, h⟩ := exists_of_bind_eq_ok h
  obtain ⟨first, hfirst, h⟩ := exists_of_bind_eq_ok h
  obtain ⟨values, -, h⟩ := exists_of_bind_eq_ok h
  obtain ⟨hrefusal, -, rfl⟩ := Builder.step_eq_ok_iff.mp (atLine_eq_ok_iff.mp hfirst)
  exact ⟨_, p, (Builder.tracks_nil.record hrefusal).run (atLine_eq_ok_iff.mp h), by simp⟩

theorem exists_tracks_of_readTransition {line : Nat × Content} (hb : b.Tracks steps)
    (h : readTransition b line = .ok b') : ∃ step, b'.Tracks (steps ++ [step]) := by
  obtain ⟨tokens, -, h⟩ := exists_of_bind_eq_ok h
  obtain ⟨step, -, h⟩ := exists_of_bind_eq_ok h
  obtain ⟨hrefusal, -, rfl⟩ := Builder.step_eq_ok_iff.mp (atLine_eq_ok_iff.mp h)
  exact ⟨step, hb.record hrefusal⟩

theorem exists_tracks_of_foldlM (hb : b.Tracks steps) (h : lines.foldlM readTransition b = .ok b') :
    ∃ later, b'.Tracks (steps ++ later) := by
  induction lines generalizing b steps with
  | nil =>
    cases h
    exact ⟨[], by simpa using hb⟩
  | cons line lines ih =>
    rw [List.foldlM_cons] at h
    obtain ⟨next, hnext, h⟩ := exists_of_bind_eq_ok h
    obtain ⟨step, hstep⟩ := exists_tracks_of_readTransition hb hnext
    obtain ⟨later, hlater⟩ := ih hstep h
    exact ⟨step :: later, by simpa using hlater⟩

/-- The accept line always leaves an accept state behind, so that finishing fails for want of room only. -/
theorem readLines_of_collect {lines : List Line} (h : collect (significant lines) = .ok b) :
    (∃ a, readLines lines = .ok a) ∨ readLines lines = .error (.fault .capacityOverflow) := by
  have htokens : ∀ n tokens, (n, .ok tokens) ∈ significant lines → tokens ≠ [] := fun n tokens =>
    ne_nil_of_mem_significant
  rw [readLines_eq, h, ok_bind]
  match hlines : significant lines, h with
  | (n, .error e) :: later, h => cases h
  | (n, .ok tokens) :: later, h =>
    change (readAccept n tokens >>= fun b => later.foldlM readTransition b) = _ at h
    obtain ⟨first, hfirst, hlater⟩ := exists_of_bind_eq_ok h
    rw [hlines] at htokens
    obtain ⟨steps, p, hsteps, hp⟩ := exists_tracks_of_readAccept (htokens n tokens List.mem_cons_self) hfirst
    obtain ⟨more, hmore⟩ := exists_tracks_of_foldlM hsteps hlater
    have haccept : b.accept = some p := (hmore.accept p).mpr (List.mem_append_left _ hp)
    by_cases hroom : Step.HaveRoom (steps ++ more)
    · obtain ⟨a, ha, -⟩ := hmore.finish haccept hroom
      exact .inl ⟨a, by rw [ha]; rfl⟩
    · rw [hmore.finish_eq_capacityOverflow haccept hroom]
      exact .inr rfl

end

-- ---------------------------------------------------------------------------
-- Failures
-- ---------------------------------------------------------------------------

section
variable {lines later : List Line} {e : FileError} {f : Failure ReadError}

theorem failsOnly_collect {lines : List (Nat × Content)} (h : lines ≠ []) :
    FailsOnly OfLine (collect lines) := by
  obtain ⟨⟨n, first⟩, later, rfl⟩ := List.exists_cons_of_ne_nil h
  exact (failsOnly_file first).bind fun tokens => (failsOnly_readAccept n tokens).bind fun b =>
    failsOnly_foldlM failsOnly_readTransition later b

theorem readLines_eq_error (h : collect (significant lines) = .error f) : readLines lines = .error f := by
  rw [readLines_eq, h]
  rfl

theorem collect_eq_error (h : readLines lines = .error f) (hmissing : f ≠ .error .missingAccept)
    (hroom : f ≠ .fault .capacityOverflow) :
    significant lines ≠ [] ∧ collect (significant lines) = .error f := by
  cases hcollect : collect (significant lines) with
  | ok b =>
    rcases readLines_of_collect hcollect with ⟨a, ha⟩ | hfull
    · cases h.symm.trans ha
    · cases h.symm.trans hfull
      exact absurd rfl hroom
  | error f' =>
    cases h.symm.trans (readLines_eq_error hcollect)
    refine ⟨fun hlines => ?_, rfl⟩
    rw [hlines] at hcollect
    cases hcollect
    exact hmissing rfl

theorem readLines_append_eq_error (h : readLines lines = .error f) (hmissing : f ≠ .error .missingAccept)
    (hroom : f ≠ .fault .capacityOverflow) : readLines (lines ++ later) = .error f := by
  obtain ⟨hlines, hcollect⟩ := collect_eq_error h hmissing hroom
  apply readLines_eq_error
  rw [significant_append, collect_append hlines, hcollect]
  rfl

/-- The outcome of a text in front of a line that cannot be read: the fault of one of its lines counts, but
neither its automaton nor that it has no line or that its automaton finds no room. -/
def cutShort (e : FileError) : Except (Failure ReadError) Automaton → Except (Failure ReadError) Automaton
  | .ok _ | .error (.error .missingAccept) | .error (.fault .capacityOverflow) => .error (.error (.file e))
  | .error f => .error f

theorem cutShort_eq_error (hmissing : f ≠ .error .missingAccept) (hroom : f ≠ .fault .capacityOverflow) :
    cutShort e (.error f) = .error f := by
  unfold cutShort
  split <;> simp_all

theorem readLines_append_error :
    readLines (lines ++ .error e :: later) = cutShort e (readLines lines) := by
  have hsignificant : ∃ n rest,
      significant (lines ++ .error e :: later) = significant lines ++ (n, .error e) :: rest :=
    ⟨_, _, by rw [significant_append, List.map_cons, content, numbered_some_cons]⟩
  obtain ⟨n, rest, heq⟩ := hsignificant
  by_cases hlines : significant lines = []
  · have hread : readLines lines = .error (.error .missingAccept) := readLines_eq_error (by rw [hlines]; rfl)
    rw [hread, cutShort]
    apply readLines_eq_error
    rw [heq, hlines]
    rfl
  · cases hcollect : collect (significant lines) with
    | ok b =>
      have hread : cutShort e (readLines lines) = .error (.error (.file e)) := by
        rcases readLines_of_collect hcollect with ⟨a, ha⟩ | hfull
        · rw [ha, cutShort]
        · rw [hfull, cutShort]
      rw [hread]
      apply readLines_eq_error
      rw [heq, collect_append hlines, hcollect]
      rfl
    | error f =>
      have hread := readLines_eq_error hcollect
      have hline : OfLine f := failsOnly_collect hlines f hcollect
      have hroom : f ≠ .fault .capacityOverflow := by
        rintro rfl
        cases hline.2
      rw [hread, cutShort_eq_error hline.1 hroom]
      exact readLines_append_eq_error hread hline.1 hroom

end

end Description

-- ---------------------------------------------------------------------------
-- Files
-- ---------------------------------------------------------------------------

/-- A text of whole lines: each of them has its line feed. -/
def Text.Whole (text : String) : Prop := text = "" ∨ text.toList.getLast? = some '\n'

/-- A file that holds the whole lines of `text`, then a line that is not UTF-8, then anything. -/
structure Source.BreaksAt (bytes : List UInt8) (text : String) (line later : List UInt8) : Prop where
  bytes_eq : bytes = Text.utf8 text ++ line ++ later
  whole : Text.Whole text
  one_line : 10 ∉ line
  line_ends : later = [] ∨ later.head? = some 10
  undecodable : ∀ t, line ≠ Text.utf8 t

theorem Text.Whole.exists_lines {text : String} (h : Whole text) :
    ∃ lines, linesOfText text = lines ++ [.ok ""] ∧
      ∀ rest, Source.lines (.content (utf8 text ++ rest)) = lines ++ Source.lines (.content rest) := by
  rcases h with rfl | hlast
  · exact ⟨[], rfl, fun rest => rfl⟩
  obtain ⟨cs, hcs⟩ : ∃ cs, text.toList = cs ++ ['\n'] :=
    ⟨_, (List.dropLast_append_getLast? _ hlast).symm⟩
  refine ⟨linesOfText (String.ofList cs), ?_, fun rest => ?_⟩
  · rw [linesOfText, linesOfText, hcs, segments_append_separator (by decide), List.map_append,
      String.toList_ofList]
    rfl
  · have hbytes : utf8 text ++ rest = utf8 (String.ofList cs) ++ 10 :: rest := by
      rw [utf8_eq, hcs, List.flatMap_append, utf8_ofList, List.append_assoc]
      rfl
    rw [hbytes, Source.lines, segments_append_separator (by decide), List.map_append]
    exact congrArg (· ++ _) (Source.lines_utf8 _)

namespace Source

section
variable {bytes line later : List UInt8} {text : String}

theorem BreaksAt.lines_eq (h : BreaksAt bytes text line later) :
    ∃ more, Source.lines (.content (line ++ later)) = .error .encoding :: more := by
  have hfree : ∀ b ∈ line, (b == 10) = false := by
    intro b hb
    rw [beq_eq_false_iff_ne]
    rintro rfl
    exact h.one_line hb
  have hline : decodeLine line = .error .encoding := decodeLine_eq_error h.undecodable
  rcases h.line_ends with rfl | hhead
  · rw [List.append_nil, Source.lines, Text.segments_of_forall hfree, List.map_singleton, hline]
    exact ⟨[], rfl⟩
  · obtain ⟨rest, rfl⟩ := List.head?_eq_some_iff.mp hhead
    rw [Source.lines, Text.segments_append_cons hfree (by decide), List.map_cons, hline]
    exact ⟨_, rfl⟩

theorem exists_whole_of_parts {parts : List (List UInt8)}
    (h : ∀ part ∈ parts, ∃ text, part = Text.utf8 text) :
    ∃ text, parts.flatMap (· ++ [10]) = Text.utf8 text ∧ Text.Whole text := by
  induction parts with
  | nil => exact ⟨"", rfl, .inl rfl⟩
  | cons part parts ih =>
    rw [List.forall_mem_cons] at h
    obtain ⟨first, rfl⟩ := h.1
    obtain ⟨rest, hrest, hwhole⟩ := ih h.2
    refine ⟨first ++ "\n" ++ rest, ?_, .inr ?_⟩
    · rw [List.flatMap_cons, hrest, Text.utf8_append, Text.utf8_append]
      rfl
    · rcases hwhole with rfl | hlast
      · simp
      · simp [List.getLast?_cons, hlast]

theorem exists_breaksAt (h : ∀ text, bytes ≠ Text.utf8 text) :
    ∃ text line later, BreaksAt bytes text line later := by
  have hjoin := Text.intercalate_segments (s := 10) bytes
  rcases forall_or_first (fun part => ∃ text, part = Text.utf8 text) (Text.segments (· == 10) bytes) with
    hall | ⟨before, line, after, heq, hbefore, hline⟩
  · obtain ⟨front, last, heq⟩ :=
      (List.eq_nil_or_concat _).resolve_left (Text.segments_ne_nil (p := (· == 10)) bytes)
    rw [List.concat_eq_append] at heq
    rw [heq, List.forall_mem_append, List.forall_mem_singleton] at hall
    obtain ⟨text, htext, -⟩ := exists_whole_of_parts hall.1
    obtain ⟨rest, rfl⟩ := hall.2
    rw [heq, Text.intercalate_append_cons, htext, List.flatMap_nil, List.append_nil,
      ← Text.utf8_append] at hjoin
    exact absurd hjoin.symm (h _)
  · obtain ⟨text, htext, hwhole⟩ := exists_whole_of_parts hbefore
    refine ⟨text, line, after.flatMap (10 :: ·), ?_, hwhole, ?_, ?_, not_exists.mp hline⟩
    · rw [← hjoin, heq, Text.intercalate_append_cons, htext]
    · have hmem : line ∈ Text.segments (· == 10) bytes := by
        rw [heq]
        exact List.mem_append_right _ List.mem_cons_self
      exact Text.not_mem_of_mem_segments line hmem
    · cases after with
      | nil => exact .inl rfl
      | cons next after => exact .inr rfl

end

end Source

open Description in
/-- A file in UTF-8 is read like its text. Every other file has a first line that is not UTF-8: a fault of the
lines before it counts, and if there is none the encoding is at fault, even where these lines alone would
break off for want of room. What follows a line at fault does not matter, nor does it matter whether
carriage returns are taken off the ends of lines before they are read. -/
theorem Automaton.readSource_content (bytes : List UInt8) :
    (∀ text, bytes = Text.utf8 text → readSource (.content bytes) = read text) ∧
      ((∃ text, bytes = Text.utf8 text) ∨ ∃ text line later, Source.BreaksAt bytes text line later) ∧
      (∀ text line later, Source.BreaksAt bytes text line later →
        readSource (.content bytes) = cutShort .encoding (read text)) ∧
      (∀ text rest f, bytes = Text.utf8 text ++ rest → Text.Whole text → read text = .error f →
        f ≠ .error .missingAccept → f ≠ .fault .capacityOverflow →
        readSource (.content bytes) = .error f) ∧
      (∀ text, read text = readLines ((Text.lines text).map .ok)) ∧
      readSource (.content bytes) =
        readLines ((Text.handedOver 13 (Text.segments (· == 10) bytes)).map decodeLine) := by
  have hwhole : ∀ {text lines}, linesOfText text = lines ++ [.ok ""] → read text = readLines lines := by
    intro text lines hlines
    rw [read, readLines_eq, readLines_eq, hlines, significant_concat rfl]
  refine ⟨?_, ?_, ?_, ?_, ?_, ?_⟩
  · rintro text rfl
    rw [readSource, Source.lines_utf8, read]
  · by_cases h : ∃ text, bytes = Text.utf8 text
    · exact .inl h
    · exact .inr (Source.exists_breaksAt (not_exists.mp h))
  · intro text line later h
    obtain ⟨lines, htext, hlines⟩ := h.whole.exists_lines
    obtain ⟨more, hmore⟩ := h.lines_eq
    rw [hwhole htext, readSource, h.bytes_eq, List.append_assoc, hlines, hmore, readLines_append_error]
  · rintro text rest f rfl htext hread hmissing hroom
    obtain ⟨lines, htext, hlines⟩ := htext.exists_lines
    rw [hwhole htext] at hread
    rw [readSource, hlines]
    exact readLines_append_eq_error hread hmissing hroom
  · intro text
    have hreturn : ∀ part : List Char,
        content (.ok (String.ofList (part ++ ['\r']))) = content (.ok (String.ofList part)) := by
      intro part
      rw [String.ofList_append]
      exact content_push_return (.ok (String.ofList part))
    rw [read, readLines_eq, readLines_eq, Text.lines_eq, List.map_map, Function.comp_def,
      significant_handedOver rfl hreturn]
    rfl
  · have hreturn : ∀ part, content (decodeLine (part ++ [13])) = content (decodeLine part) := by
      intro part
      rw [decodeLine_concat_return, content_push_return]
    rw [readSource, readLines_eq, readLines_eq, significant_handedOver rfl hreturn]
    rfl

open Description in
/-- Alone the first line breaks off, but here that point is not reached. -/
theorem Automaton.readSource_eq_encoding_of_high_state :
    let text := "9223372036854775807\n"
    let bytes := Text.utf8 text ++ [255]
    Source.BreaksAt bytes text [255] [] ∧ read text = .error (.fault .capacityOverflow) ∧
      readSource (.content bytes) = .error (.error (.file .encoding)) := by
  intro text bytes
  have hentries : entries text = [(1, ["9223372036854775807"])] := by decide +kernel
  have htoken : Text.Denotes "9223372036854775807" 9223372036854775807 := by
    rw [← Text.readNumeral_eq_ok_iff]
    decide +kernel
  have hread := (read_of_high_accept hentries htoken (by decide) (by decide)).2
  refine ⟨⟨by simp [bytes], .inr (by decide +kernel), by decide, .inl rfl, fun t ht => ?_⟩, hread, rfl⟩
  have hdecode : decodeLine [255] = .ok t := by rw [ht, decodeLine_utf8]
  cases hdecode

/-- Comments are decoded like the rest of a file. -/
example : Automaton.readSource (.content [48, 32, 35, 255]) = .error (.error (.file .encoding)) := rfl

end Automata
