import Automata.Pattern.Escape

/-! Sets between brackets. Their operators have one precedence and go from left to right. -/

namespace Automata.Pattern

def setOperators : List (String × SetOp) := [("&&", .inter), ("--", .diff), ("~~", .symmDiff)]

def namedSet? : List Char → Option (Text.Ranges × Bool × Nat)
  | '[' :: ':' :: text => do
    let negated := text.head? = some '^'
    let (name, rest) := (if negated then text.tail else text).span (· ≠ ':')
    match rest with
    | ':' :: ']' :: _ =>
      let ranges ← asciiSets.lookup (String.ofList name)
      some (ranges, negated, name.length + (if negated then 5 else 4))
    | _ => none
  | _ => none

/-- What comes behind the next character. Blanks do not count where patterns are read verbosely, nor does
the sign of a comment, but the comment itself does. -/
def peekBehind : Reader (Option Char) := do
  let c := (← get).bump
  if c.verbose then
    match c.rest.dropWhile Text.isBlank with
    | '#' :: rest => return (rest.dropWhile Text.isBlank).head?
    | rest => return rest.head?
  else return c.rest.head?

def setItem : Reader Node := do
  match ← Reader.next? with
  | none => Reader.failHere .setUnclosed
  | some '\\' => escape
  | some char =>
    let start ← Reader.place
    Reader.bump
    return .literal { span := ← Reader.spanFrom start, char }

def memberOf : Node → Reader SetNode
  | .literal l => return .literal l
  | .escaped span s => return .escaped span s
  | node => Reader.fail .escapeInSet node.span.start node.span.stop

def boundaryOf : Node → Reader Literal
  | .literal l => return l
  | node => Reader.fail .rangeBoundary node.span.start node.span.stop

/-- A character, an escape or a range. A hyphen before the closing bracket or before another hyphen makes
no range. `opening` is the span of the bracket that is open. -/
def setRange (opening : Span) : Reader SetNode := do
  let unclosed {α : Type} : Reader α := Reader.fail .setUnclosed opening.start opening.stop
  let first ← setItem
  Reader.skip
  if ← Reader.atEnd then unclosed
  else if !(← Reader.sees "-") || (← peekBehind) ∈ [some ']', some '-'] then memberOf first
  else
    Reader.advance
    if ← Reader.atEnd then unclosed
    else
      let last ← setItem
      let span : Span := ⟨first.span.start, last.span.stop⟩
      let first ← boundaryOf first
      let last ← boundaryOf last
      if first.char ≤ last.char then return .range span first last
      else Reader.fail .rangeOrder span.start span.stop

def leadingHyphens (start : Nat) : (fuel : Nat) → List SetNode → Reader (List SetNode)
  | 0, items => return items
  | fuel + 1, items => do
    if ← Reader.sees "-" then
      let span : Span := ⟨← Reader.place, (← Reader.place) + 1⟩
      Reader.advance
      if ← Reader.atEnd then Reader.fail .setUnclosed start start
      else leadingHyphens start fuel (.literal { span, char := '-' } :: items)
    else return items

/-- The start of a set, from its bracket on: whether it is negated, and the members that stand for
themselves because they come first, latest first. -/
def setOpening : Reader (Bool × List SetNode) := do
  let start ← Reader.place
  let unclosed {α : Type} : Reader α := Reader.failFrom .setUnclosed start
  Reader.advance
  let negated ← Reader.sees "^"
  if negated then Reader.advance
  if ← Reader.atEnd then unclosed
  else
    let hyphens ← leadingHyphens start (← get).rest.length []
    if hyphens.isEmpty && (← Reader.sees "]") then
      let span : Span := ⟨← Reader.place, (← Reader.place) + 1⟩
      Reader.advance
      if ← Reader.atEnd then unclosed
      else return (negated, [.literal { span, char := ']' }])
    else return (negated, hyphens)

structure OpenSet where
  start : Nat
  /-- The span of what opened the set. -/
  opening : Span
  negated : Bool
  /-- The left operand of the latest operator. -/
  pending : Option (SetOp × SetNode)
  /-- Where the list under way starts. -/
  itemsStart : Nat
  /-- The list under way, latest first. -/
  items : List SetNode

namespace OpenSet

def push (s : OpenSet) (item : SetNode) : OpenSet := { s with items := item :: s.items }

def combined (s : OpenSet) : SetNode :=
  let right := SetNode.ofItems ⟨s.itemsStart, s.itemsStart⟩ s.items.reverse
  match s.pending with
  | none => right
  | some (op, left) => .combined ⟨left.span.start, right.span.stop⟩ op left right

end OpenSet

mutual

def bracket : (fuel : Nat) → Reader (Span × Bool × SetNode)
  | 0 => Reader.failHere .setUnclosed
  | fuel + 1 => do
    let start ← Reader.place
    let (negated, items) ← setOpening
    let opening ← Reader.spanFrom start
    let itemsStart := (items.getLast?.elim opening.stop fun item => item.span.start)
    bracketRest fuel { start, opening, negated, pending := none, itemsStart, items }

def bracketRest : (fuel : Nat) → OpenSet → Reader (Span × Bool × SetNode)
  | 0, s => Reader.fail .setUnclosed s.opening.start s.opening.stop
  | fuel + 1, s => do
    Reader.skip
    let text := (← get).rest
    if text.isEmpty then Reader.fail .setUnclosed s.opening.start s.opening.stop
    else if text.head? = some ']' then
      Reader.bump
      return (← Reader.spanFrom s.start, s.negated, s.combined)
    else if text.head? = some '[' then
      match namedSet? text with
      | some (ranges, negated, length) =>
        let start ← Reader.place
        modify fun c => length.repeat Cursor.bump c
        bracketRest fuel (s.push (.named (← Reader.spanFrom start) ranges negated))
      | none =>
        let (span, negated, inner) ← bracket fuel
        bracketRest fuel (s.push (.bracket span negated inner))
    else
      match setOperators.find? fun (sign, _) => sign.toList.isPrefixOf text with
      | some (_, op) =>
        Reader.bump
        Reader.bump
        let itemsStart ← Reader.place
        bracketRest fuel { s with pending := some (op, s.combined), itemsStart, items := [] }
      | none => bracketRest fuel (s.push (← setRange s.opening))

end

def bracketSet : Reader Node := do
  let (span, negated, inner) ← bracket (2 * (← get).rest.length + 1)
  return .bracket span negated inner

end Automata.Pattern
