import Automata.Pattern.Weight
import Automata.Text.Lines

/-! Errors in patterns, reported with the pattern, where the span is marked in a line of its own. -/

namespace Automata.Pattern

/-- A stretch of a text, by the places of its first character and of the one behind it. -/
structure Span where
  start : Nat
  stop : Nat
  deriving DecidableEq, Repr

inductive Flaw
  | escapeInSet
  | rangeOrder
  | rangeBoundary
  | setUnclosed
  | decimalInvalid
  | hexEmpty
  | hexInvalid
  | hexDigit
  | escapeUnfinished
  | escapeUnknown
  | flagDangling
  | flagDuplicate
  | flagRepeatedNegation
  | flagUnfinished
  | flagUnknown
  | nameDuplicate
  | nameEmpty
  | nameInvalid
  | nameUnfinished
  | groupUnclosed
  | groupUnopened
  | tooDeep
  | countOrder
  | countEmpty
  | countUnclosed
  | repetitionMissing
  | boundaryUnclosed
  | boundaryUnknown
  | boundaryUnfinished
  | propertyInvalid
  | backreference
  | lookAround
  | notForBytes
  | invalidEncoding
  | propertyUnknown
  | propertyValueUnknown
  | shorthandUnavailable
  | caseUnavailable
  deriving DecidableEq, Repr

def depthLimit : Nat := 250

def Flaw.message : Flaw → String
  | .escapeInSet => "invalid escape sequence found in character class"
  | .rangeOrder => "invalid character class range, the start must be <= the end"
  | .rangeBoundary => "invalid range boundary, must be a literal"
  | .setUnclosed => "unclosed character class"
  | .decimalInvalid => "decimal literal invalid"
  | .hexEmpty => "hexadecimal literal empty"
  | .hexInvalid => "hexadecimal literal is not a Unicode scalar value"
  | .hexDigit => "invalid hexadecimal digit"
  | .escapeUnfinished => "incomplete escape sequence, reached end of pattern prematurely"
  | .escapeUnknown => "unrecognized escape sequence"
  | .flagDangling => "dangling flag negation operator"
  | .flagDuplicate => "duplicate flag"
  | .flagRepeatedNegation => "flag negation operator repeated"
  | .flagUnfinished => "expected flag but got end of regex"
  | .flagUnknown => "unrecognized flag"
  | .nameDuplicate => "duplicate capture group name"
  | .nameEmpty => "empty capture group name"
  | .nameInvalid => "invalid capture group character"
  | .nameUnfinished => "unclosed capture group name"
  | .groupUnclosed => "unclosed group"
  | .groupUnopened => "unopened group"
  | .tooDeep => s!"exceed the maximum number of nested parentheses/brackets ({depthLimit})"
  | .countOrder => "invalid repetition count range, the start must be <= the end"
  | .countEmpty => "repetition quantifier expects a valid decimal"
  | .countUnclosed => "unclosed counted repetition"
  | .repetitionMissing => "repetition operator missing expression"
  | .boundaryUnclosed =>
    "special word boundary assertion is either unclosed or contains an invalid character"
  | .boundaryUnknown =>
    "unrecognized special word boundary assertion, valid choices are: start, end, start-half or end-half"
  | .boundaryUnfinished =>
    "found either the beginning of a special word boundary or a bounded repetition on a \\b " ++
      "with an opening brace, but no closing brace"
  | .propertyInvalid => "invalid Unicode character class"
  | .backreference => "backreferences are not supported"
  | .lookAround => "look-around, including look-ahead and look-behind, is not supported"
  | .notForBytes => "Unicode not allowed here"
  | .invalidEncoding => "pattern can match invalid UTF-8"
  | .propertyUnknown => "Unicode property not found"
  | .propertyValueUnknown => "Unicode property value not found"
  | .shorthandUnavailable =>
    "Unicode-aware Perl class not found (make sure the unicode-perl feature is enabled)"
  | .caseUnavailable =>
    "Unicode-aware case insensitivity matching is not available " ++
      "(make sure the unicode-case feature is enabled)"

inductive Error
  /-- A flaw, and for something given twice also the span of the first time. -/
  | malformed (flaw : Flaw) (span : Span) (earlier : Option Span)
  | tooHeavy
  /-- Words in any script are needed. -/
  | scripts
  deriving DecidableEq, Repr

-- ---------------------------------------------------------------------------
-- The marked pattern
-- ---------------------------------------------------------------------------

structure Position where
  line : Nat
  column : Nat

def positionOf (pattern : List Char) (place : Nat) : Position :=
  let before := pattern.take place
  ⟨before.count '\n', (before.reverse.takeWhile (· ≠ '\n')).length⟩

def marks (spans : List (Position × Position)) : String :=
  spans.foldl (fun line (start, stop) =>
    (line.pushn ' ' (start.column - line.length)).pushn '^' (max 1 (stop.column - start.column))) ""

def filledUp (width : Nat) (text : String) : String := "".pushn ' ' (width - text.length) ++ text

/-- The lines of a pattern, numbered if there is more than one, and below each the marks of its spans. -/
def marked (pattern : String) (spans : List (Position × Position)) : String :=
  let lines := Text.lines pattern
  let count := lines.length + (if pattern.toList.getLast? = some '\n' then 1 else 0)
  let width := if count ≤ 1 then 0 else (toString count).length
  String.join (lines.mapIdx fun i line =>
    let head := if width = 0 then "    " else filledUp width (toString (i + 1)) ++ ": "
    let here := spans.filter fun (start, stop) => start.line = i && stop.line = i
    head ++ line ++ "\n" ++
      (if here = [] then "" else "".pushn ' ' head.length ++ marks here ++ "\n"))

def lineNotes (spans : List (Position × Position)) : String :=
  match spans.filter fun (start, stop) => start.line ≠ stop.line with
  | [] => ""
  | long => "\n".intercalate (long.map fun (start, stop) =>
      s!"on line {start.line + 1} (column {start.column + 1}) " ++
      s!"through line {stop.line + 1} (column {stop.column})") ++ "\n"

def Error.message (e : Error) (pattern : String) : String :=
  match e with
  | .malformed flaw span earlier =>
    let spans := (earlier.toList ++ [span]).map fun s =>
      (positionOf pattern.toList s.start, positionOf pattern.toList s.stop)
    let shown :=
      if '\n' ∈ pattern.toList then
        let divider := "".pushn '~' 79 ++ "\n"
        divider ++ marked pattern spans ++ divider ++ lineNotes spans
      else marked pattern spans
    "regex parse error:\n" ++ shown ++ "error: " ++ flaw.message
  | .tooHeavy => s!"Compiled regex exceeds size limit of {weightLimit} bytes."
  | .scripts => "error building NFA"

end Automata.Pattern
