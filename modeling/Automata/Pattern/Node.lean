import Automata.Pattern.Error

/-! The tree of a pattern: what is written, before flags and limits are taken into account. -/

namespace Automata.Pattern

inductive Flag
  | caseless
  | manyLines
  | dotAll
  | swapGreed
  | scripts
  | carriageReturns
  | verbose
  deriving DecidableEq, Repr

def Flag.ofLetter? : Char → Option Flag
  | 'i' => some .caseless
  | 'm' => some .manyLines
  | 's' => some .dotAll
  | 'U' => some .swapGreed
  | 'u' => some .scripts
  | 'R' => some .carriageReturns
  | 'x' => some .verbose
  | _ => none

abbrev FlagChanges := List (Flag × Bool)

structure Literal where
  span : Span
  char : Char
  /-- Written as a byte in two hexadecimal digits. -/
  isByte : Bool := false
  deriving DecidableEq, Repr

inductive Assertion
  | lineStart
  | lineEnd
  | textStart
  | textEnd
  | wordBoundary
  | notWordBoundary
  | wordStart
  | wordEnd
  | notBehindWord
  | notBeforeWord
  deriving DecidableEq, Repr

inductive EscapedSet
  /-- One of the sets with a letter of their own. -/
  | shorthand (ascii : Text.Ranges) (negated : Bool)
  /-- The characters with a property. `value` is there if one was asked for. -/
  | property (name : String) (value : Option String)
  deriving DecidableEq, Repr

inductive SetOp
  | inter
  | diff
  | symmDiff
  deriving DecidableEq, Repr

inductive SetNode
  | empty (span : Span)
  | literal (l : Literal)
  | range (span : Span) (first last : Literal)
  | named (span : Span) (ascii : Text.Ranges) (negated : Bool)
  | escaped (span : Span) (s : EscapedSet)
  | bracket (span : Span) (negated : Bool) (inner : SetNode)
  | union (span : Span) (items : List SetNode)
  | combined (span : Span) (op : SetOp) (left right : SetNode)

inductive Node
  | empty (span : Span)
  /-- Flags for what follows in the same group. -/
  | flags (span : Span) (changes : FlagChanges)
  | literal (l : Literal)
  | dot (span : Span)
  | assertion (span : Span) (a : Assertion)
  | escaped (span : Span) (s : EscapedSet)
  | bracket (span : Span) (negated : Bool) (inner : SetNode)
  | repeated (span : Span) (inner : Node) (least : Nat) (most : Option Nat)
  /-- A group with the flags for what is inside; none for one that captures. -/
  | group (span : Span) (changes : Option FlagChanges) (inner : Node)
  | sequence (span : Span) (items : List Node)
  | alternatives (span : Span) (items : List Node)

def SetNode.span : SetNode → Span
  | .literal l => l.span
  | .empty s | .range s .. | .named s .. | .escaped s _ | .bracket s .. | .union s _ | .combined s .. => s

def Node.span : Node → Span
  | .literal l => l.span
  | .empty s | .flags s _ | .dot s | .assertion s _ | .escaped s _ | .bracket s .. | .repeated s ..
  | .group s .. | .sequence s _ | .alternatives s _ => s

def SetNode.ofItems (span : Span) : List SetNode → SetNode
  | [] => .empty span
  | [item] => item
  | item :: items =>
    .union ⟨item.span.start, ((item :: items).getLast?.elim span SetNode.span).stop⟩ (item :: items)

def Node.ofItems (span : Span) : List Node → Node
  | [] => .empty span
  | [item] => item
  | items => .sequence span items

-- ---------------------------------------------------------------------------
-- Depth
-- ---------------------------------------------------------------------------

mutual

/-- The first part from the outside in, and from left to right, that has more than `room` parts around
it. -/
def SetNode.tooDeep (room : Nat) : SetNode → Option Span
  | .empty _ | .literal _ | .range .. | .named .. | .escaped .. => none
  | .bracket span _ inner => if room = 0 then some span else inner.tooDeep (room - 1)
  | .union span items => if room = 0 then some span else SetNode.anyTooDeep (room - 1) items
  | .combined span _ left right =>
    if room = 0 then some span
    else (left.tooDeep (room - 1)).or (right.tooDeep (room - 1))

def SetNode.anyTooDeep (room : Nat) : List SetNode → Option Span
  | [] => none
  | item :: items => (item.tooDeep room).or (SetNode.anyTooDeep room items)

end

mutual

@[inherit_doc SetNode.tooDeep]
def Node.tooDeep (room : Nat) : Node → Option Span
  | .empty _ | .flags .. | .literal _ | .dot _ | .assertion .. | .escaped .. => none
  | .bracket span _ inner => if room = 0 then some span else inner.tooDeep (room - 1)
  | .repeated span inner _ _ | .group span _ inner =>
    if room = 0 then some span else inner.tooDeep (room - 1)
  | .sequence span items | .alternatives span items =>
    if room = 0 then some span else Node.anyTooDeep (room - 1) items

def Node.anyTooDeep (room : Nat) : List Node → Option Span
  | [] => none
  | item :: items => (item.tooDeep room).or (Node.anyTooDeep room items)

end

end Automata.Pattern
