import Automata.Pattern.Tree

/-!
# From a tree to a pattern

There are no tables of scripts for properties, letter sets and letter case, so whatever needs them is an
error. With the flag for scripts cleared, these are the sets of ASCII.
-/

namespace Automata.Pattern

structure Flags where
  caseless : Bool := false
  manyLines : Bool := false
  dotAll : Bool := false
  scripts : Bool := true
  carriageReturns : Bool := false
  deriving DecidableEq, Repr

namespace Flags

def set (f : Flags) : Flag → Bool → Flags
  | .caseless, b => { f with caseless := b }
  | .manyLines, b => { f with manyLines := b }
  | .dotAll, b => { f with dotAll := b }
  | .scripts, b => { f with scripts := b }
  | .carriageReturns, b => { f with carriageReturns := b }
  | .swapGreed, _ | .verbose, _ => f

def change (f : Flags) (changes : FlagChanges) : Flags :=
  changes.foldl (fun f (flag, b) => f.set flag b) f

end Flags

def fault {α : Type} (flaw : Flaw) (span : Span) : Except Error α := throw (.malformed flaw span none)

-- ---------------------------------------------------------------------------
-- Sets
-- ---------------------------------------------------------------------------

def plainName (name : String) : String :=
  let cs := name.toList
  let cs := if (cs.take 2).map Char.toLower = ['i', 's'] then cs.drop 2 else cs
  String.ofList ((cs.filter fun c => c ≠ ' ' && c ≠ '_' && c ≠ '-' && c.toNat < 0x80).map Char.toLower)

/-- Some short names of properties stand for a value, so it is the value that is not found. -/
def propertyFlaw (name : String) (value : Option String) : Flaw :=
  if value = none ∧ plainName name ∈ ["cf", "sc", "lc"] then .propertyValueUnknown else .propertyUnknown

def EscapedSet.meaning (f : Flags) (span : Span) : EscapedSet → Except Error CharSet
  | .shorthand ascii negated =>
    if f.scripts then fault .shorthandUnavailable span
    else if negated then fault .invalidEncoding span
    else return .ranges ascii
  | .property name value => fault (if f.scripts then propertyFlaw name value else .notForBytes) span

def Literal.member (f : Flags) (l : Literal) : Except Error Char :=
  if f.scripts || l.char.toNat < 0x80 then return l.char
  else fault (if l.isByte && l.char.toNat < 0x100 then .invalidEncoding else .notForBytes) l.span

def caseClosed (f : Flags) (span : Span) (s : CharSet) : Except Error CharSet :=
  if !f.caseless then return s
  else if !f.scripts then return .caseless s
  else if s.isTrivial then return s
  else fault .caseUnavailable span

/-- A set as it is written, possibly negated, with letter case taken into account first. -/
def finished (f : Flags) (span : Span) (negated : Bool) (s : CharSet) : Except Error CharSet := do
  let s ← caseClosed f span s
  if !negated then return s
  else if f.scripts then return s.compl
  else fault .invalidEncoding span

def SetOp.apply : SetOp → CharSet → CharSet → CharSet
  | .inter => .inter
  | .diff => .diff
  | .symmDiff => .symmDiff

mutual

def SetNode.meaning (f : Flags) : SetNode → Except Error CharSet
  | .empty _ => return .ranges []
  | .literal l => return .singleton (← l.member f)
  | .range _ first last => return .interval (← first.member f) (← last.member f)
  | .named span ascii negated => finished f span negated (.ranges ascii)
  | .escaped span s => s.meaning f span
  | .bracket span negated inner => do finished f span negated (← inner.meaning f)
  | .union _ items => SetNode.unionMeaning f items
  | .combined _ op left right => do
    let l ← left.meaning f
    let r ← right.meaning f
    let r ← caseClosed f right.span r
    let l ← caseClosed f left.span l
    return op.apply l r

def SetNode.unionMeaning (f : Flags) : List SetNode → Except Error CharSet
  | [] => return .ranges []
  | item :: items => return (← item.meaning f).union (← SetNode.unionMeaning f items)

end

-- ---------------------------------------------------------------------------
-- Parts outside of brackets
-- ---------------------------------------------------------------------------

def Literal.meaning (f : Flags) (l : Literal) : Except Error Pattern :=
  if !f.scripts && l.isByte && 0x80 ≤ l.char.toNat then fault .invalidEncoding l.span
  else if !f.caseless then return .literal l.char
  else if f.scripts then fault .caseUnavailable l.span
  else if l.char.isAlpha then return .set (.caseless (.singleton l.char))
  else return .literal l.char

def dotMeaning (f : Flags) (span : Span) : Except Error Pattern :=
  if !f.scripts then fault .invalidEncoding span
  else if f.dotAll then return .set (.compl (.ranges []))
  else if f.carriageReturns then return .set (.compl (.ranges [(0xa, 0xa), (0xd, 0xd)]))
  else return .set (.compl (.singleton '\n'))

def Assertion.meaning (f : Flags) (a : Assertion) : Anchor :=
  let ofWords (ascii : Anchor) : Anchor := if f.scripts then .scriptBoundary else ascii
  match a with
  | .textStart => .textStart
  | .textEnd => .textEnd
  | .lineStart => if !f.manyLines then .textStart else if f.carriageReturns then .breakStart else .lineStart
  | .lineEnd => if !f.manyLines then .textEnd else if f.carriageReturns then .breakEnd else .lineEnd
  | .wordBoundary => ofWords .wordBoundary
  | .notWordBoundary => ofWords .notWordBoundary
  | .wordStart => ofWords .wordStart
  | .wordEnd => ofWords .wordEnd
  | .notBehindWord => ofWords .notBehindWord
  | .notBeforeWord => ofWords .notBeforeWord

mutual

/-- What a node means under flags, and the flags for what comes behind it in the same group. -/
def Node.meaning (f : Flags) : Node → Except Error (Pattern × Flags)
  | .empty _ => return (.empty, f)
  | .flags _ changes => return (.empty, f.change changes)
  | .literal l => return (← l.meaning f, f)
  | .dot span => return (← dotMeaning f span, f)
  | .assertion _ a => return (.anchor (a.meaning f), f)
  | .escaped span s => return (.set (← s.meaning f span), f)
  | .bracket span negated inner => return (.set (← finished f span negated (← inner.meaning f)), f)
  | .repeated _ inner least most => do
    let (p, f) ← inner.meaning f
    return (.repeated p least most, f)
  | .group _ none inner => do
    let (p, _) ← inner.meaning f
    return (.group p, f)
  | .group _ (some changes) inner => do
    let (p, _) ← inner.meaning (f.change changes)
    return (p, f)
  | .sequence _ items => Node.sequenceMeaning f items
  | .alternatives _ items => Node.choiceMeaning f items

def Node.sequenceMeaning (f : Flags) : List Node → Except Error (Pattern × Flags)
  | [] => return (.empty, f)
  | item :: items => do
    let (p, f) ← item.meaning f
    let (q, f) ← Node.sequenceMeaning f items
    return (if items.isEmpty then p else .seq p q, f)

def Node.choiceMeaning (f : Flags) : List Node → Except Error (Pattern × Flags)
  | [] => return (.empty, f)
  | item :: items => do
    let (p, f) ← item.meaning f
    let (q, f) ← Node.choiceMeaning f items
    return (if items.isEmpty then p else .alt p q, f)

end

def parse (text : String) : Except Error Pattern := do
  let (p, _) ← (← tree text).meaning {}
  if weightLimit < p.weight then throw .tooHeavy
  else if p.needsScripts then throw .scripts
  else return p

end Automata.Pattern
