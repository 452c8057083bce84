import Automata.Pattern.Cursor

/-! A backslash gives the next character a meaning of its own, or takes its special meaning away. -/

namespace Automata.Pattern

def specialChars : List Char :=
  ['\\', '.', '+', '*', '?', '(', ')', '|', '[', ']', '\x7b', '\x7d', '^', '$', '#', '&', '-', '~']

/-- Characters that stand for themselves behind a backslash: the special ones, and those of ASCII that
are no letters or digits and do not open or close an angle. -/
def escapable (c : Char) : Bool :=
  c ∈ specialChars || (c.toNat < 0x80 && !c.isAlphanum && c ≠ '<' && c ≠ '>')

def letterChar? : Char → Option Char
  | 'a' => some '\x07'
  | 'f' => some '\x0c'
  | 't' => some '\t'
  | 'n' => some '\n'
  | 'r' => some '\r'
  | 'v' => some '\x0b'
  | _ => none

def letterAssertion? : Char → Option Assertion
  | 'A' => some .textStart
  | 'z' => some .textEnd
  | 'b' => some .wordBoundary
  | 'B' => some .notWordBoundary
  | '<' => some .wordStart
  | '>' => some .wordEnd
  | _ => none

def namedAssertions : List (String × Assertion) :=
  [("start", .wordStart), ("end", .wordEnd), ("start-half", .notBehindWord), ("end-half", .notBeforeWord)]

def shorthand? : Char → Option EscapedSet
  | 'd' => some (.shorthand digitRanges false)
  | 'D' => some (.shorthand digitRanges true)
  | 's' => some (.shorthand spaceRanges false)
  | 'S' => some (.shorthand spaceRanges true)
  | 'w' => some (.shorthand wordRanges false)
  | 'W' => some (.shorthand wordRanges true)
  | _ => none

-- ---------------------------------------------------------------------------
-- Code points
-- ---------------------------------------------------------------------------

def hexValue? (c : Char) : Option Nat :=
  if '0' ≤ c ∧ c ≤ '9' then some (c.toNat - '0'.toNat)
  else if 'a' ≤ c ∧ c ≤ 'f' then some (c.toNat - 'a'.toNat + 10)
  else if 'A' ≤ c ∧ c ≤ 'F' then some (c.toNat - 'A'.toNat + 10)
  else none

def isHexDigit (c : Char) : Bool := (hexValue? c).isSome

def hexNumber (digits : List Char) : Nat :=
  digits.foldl (fun value c => 16 * value + (hexValue? c).getD 0) 0

def charOf (digits : List Char) (span : Span) : Reader Char :=
  let value := hexNumber digits
  if value.isValidChar then return Char.ofNat value
  else Reader.fail .hexInvalid span.start span.stop

def hexDigits : (n : Nat) → Reader (List Char)
  | 0 => return []
  | n + 1 => do
    let some c ← Reader.next? | Reader.failHere .escapeUnfinished
    if isHexDigit c then
      Reader.advance
      return c :: (← hexDigits n)
    else Reader.failAtChar .hexDigit

/-- A character by its code point: a fixed number of digits, or any number between braces. `start` is the
place of the backslash. -/
def codePoint (start : Nat) (letter : Char) : Reader Node := do
  Reader.advance
  if ← Reader.sees "\x7b" then
    let brace ← Reader.place
    Reader.advance
    let digits ← Reader.takeWhile isHexDigit
    match ← Reader.next? with
    | none => Reader.failFrom .escapeUnfinished brace
    | some '\x7d' =>
      let stop ← Reader.place
      Reader.advance
      if digits = [] then Reader.failFrom .hexEmpty brace
      else
        let char ← charOf digits ⟨brace + 1, stop⟩
        return .literal { span := ← Reader.spanFrom start, char }
    | some _ => Reader.failAtChar .hexDigit
  else
    let first ← Reader.place
    let digits ← hexDigits (if letter = 'x' then 2 else if letter = 'u' then 4 else 8)
    let char ← charOf digits (← Reader.spanFrom first)
    return .literal { span := ← Reader.spanFrom start, char, isByte := letter = 'x' }

-- ---------------------------------------------------------------------------
-- Properties and boundaries
-- ---------------------------------------------------------------------------

def property (text : List Char) : EscapedSet :=
  let isSign (c : Char) : Bool := c = ':' || c = '='
  match text.span fun c => !isSign c with
  | (name, _ :: value) => .property (String.ofList name) (some (String.ofList value))
  | (name, []) => .property (String.ofList name) none

def propertySet (start : Nat) : Reader Node := do
  Reader.advance
  match ← Reader.next? with
  | none => Reader.failHere .escapeUnfinished
  | some '\x7b' =>
    Reader.advance
    let name ← Reader.takeWhile (· ≠ '\x7d')
    if ← Reader.atEnd then Reader.failHere .escapeUnfinished
    else
      Reader.bump
      return .escaped (← Reader.spanFrom start) (property name)
  | some '\\' => Reader.failAtChar .propertyInvalid
  | some c =>
    Reader.advance
    return .escaped (← Reader.spanFrom start) (.property (String.singleton c) none)

/-- A named assertion between braces behind a boundary. Braces that hold anything but a name are left to
be read as a repetition. -/
def namedBoundary (start : Nat) : Reader Node := do
  let before ← get
  let isNameChar (c : Char) : Bool := c.isAlpha || c = '-'
  let brace ← Reader.place
  Reader.advance
  let first ← Reader.place
  match ← Reader.next? with
  | none => Reader.failFrom .boundaryUnfinished start
  | some c =>
    if isNameChar c then
      let name ← Reader.takeWhile isNameChar
      if ← Reader.sees "\x7d" then
        let stop ← Reader.place
        Reader.bump
        match namedAssertions.lookup (String.ofList name) with
        | some a => return .assertion (← Reader.spanFrom start) a
        | none => Reader.fail .boundaryUnknown first stop
      else Reader.failFrom .boundaryUnclosed brace
    else
      Reader.backTo before
      return .assertion (← Reader.spanFrom start) .wordBoundary

-- ---------------------------------------------------------------------------
-- All escapes
-- ---------------------------------------------------------------------------

def escape : Reader Node := do
  let start ← Reader.place
  Reader.bump
  let some c ← Reader.next? | Reader.failFrom .escapeUnfinished start
  if c.isDigit then Reader.fail .backreference start ((← Reader.place) + 1)
  else if c ∈ ['x', 'u', 'U'] then
    codePoint start c
  else if c ∈ ['p', 'P'] then
    propertySet start
  else
    Reader.bump
    let span ← Reader.spanFrom start
    if c = 'b' ∧ (← Reader.sees "\x7b") then namedBoundary start
    else if escapable c then return .literal { span, char := c }
    else
      match letterChar? c, letterAssertion? c, shorthand? c with
      | some char, _, _ => return .literal { span, char }
      | none, some a, _ => return .assertion span a
      | none, none, some s => return .escaped span s
      | none, none, none => Reader.fail .escapeUnknown start span.stop

end Automata.Pattern
