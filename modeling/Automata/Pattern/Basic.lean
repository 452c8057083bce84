import Automata.Pattern.CharSet

/-!
# Patterns

A pattern is a regular expression with anchors. It is found in a text if some stretch of the text matches
it; which stretch is not asked. `Pattern.ends` follows all matches at once.
-/

namespace Automata

inductive Anchor
  | textStart
  | textEnd
  /-- Behind a line feed, or at the start of the text. -/
  | lineStart
  | lineEnd
  /-- As `lineStart`, where a carriage return with or without a line feed ends a line too. -/
  | breakStart
  | breakEnd
  | wordBoundary
  | notWordBoundary
  | wordStart
  | wordEnd
  | notBehindWord
  | notBeforeWord
  /-- A boundary of words in any script. It has no words to go by and holds nowhere. -/
  | scriptBoundary
  deriving DecidableEq, Repr

def Anchor.holds (a : Anchor) (before after : Option Char) : Bool :=
  let behindWord := before.any isWordChar
  let beforeWord := after.any isWordChar
  match a with
  | .textStart => before = none
  | .textEnd => after = none
  | .lineStart => before.all (· = '\n')
  | .lineEnd => after.all (· = '\n')
  | .breakStart => before.all fun c => c = '\n' || (c = '\r' && after ≠ some '\n')
  | .breakEnd => after.all fun c => c = '\r' || (c = '\n' && before ≠ some '\r')
  | .wordBoundary => behindWord != beforeWord
  | .notWordBoundary => behindWord == beforeWord
  | .wordStart => !behindWord && beforeWord
  | .wordEnd => behindWord && !beforeWord
  | .notBehindWord => !behindWord
  | .notBeforeWord => !beforeWord
  | .scriptBoundary => false

inductive Pattern
  | empty
  | literal (c : Char)
  | set (s : CharSet)
  | anchor (a : Anchor)
  | seq (p q : Pattern)
  | alt (p q : Pattern)
  /-- At least `least` rounds, and at most `most` if there is a bound. -/
  | repeated (p : Pattern) (least : Nat) (most : Option Nat)
  | group (p : Pattern)
  deriving DecidableEq, Repr

-- ---------------------------------------------------------------------------
-- Ascending lists of places
-- ---------------------------------------------------------------------------

def mergePlaces : List Nat → List Nat → List Nat
  | [], js => js
  | is, [] => is
  | i :: is, j :: js =>
    if i < j then i :: mergePlaces is (j :: js)
    else if j < i then j :: mergePlaces (i :: is) js
    else i :: mergePlaces is js
  termination_by is js => is.length + js.length

-- ---------------------------------------------------------------------------
-- Matching
-- ---------------------------------------------------------------------------

namespace Pattern

def rounds (step : List Nat → List Nat) : Nat → List Nat → List Nat
  | 0, is => is
  | n + 1, is =>
    let js := step is
    if js = is then is else rounds step n js

/-- The places that any number of rounds lead to. The first place is final as soon as its own round has
been made, so `fuel` has to be the number of places that there are. -/
def closure (step : List Nat → List Nat) : (fuel : Nat) → List Nat → List Nat
  | 0, is => is
  | _ + 1, [] => []
  | fuel + 1, i :: is => i :: closure step fuel (mergePlaces is ((step [i]).filter (i < ·)))

def behind (text : Array Char) (p : Char → Bool) (is : List Nat) : List Nat :=
  is.filterMap fun i => if text[i]?.any p then some (i + 1) else none

def holdsAt (text : Array Char) (a : Anchor) (i : Nat) : Bool :=
  a.holds (if i = 0 then none else text[i - 1]?) text[i]?

/-- Where matches end that begin at one of the given places. -/
def ends (text : Array Char) : Pattern → List Nat → List Nat
  | .empty, is => is
  | .literal c, is => behind text (· = c) is
  | .set s, is => behind text s.contains is
  | .anchor a, is => is.filter (holdsAt text a)
  | .seq p q, is => ends text q (ends text p is)
  | .alt p q, is => mergePlaces (ends text p is) (ends text q is)
  | .repeated p least most, is =>
    let js := rounds (ends text p) least is
    match most with
    | none => closure (ends text p) (text.size + 1) js
    | some most => rounds (fun ks => mergePlaces ks (ends text p ks)) (most - least) js
  | .group p, is => ends text p is

def occursIn (p : Pattern) (text : String) : Bool :=
  let cs := text.toList.toArray
  !(p.ends cs (List.range (cs.size + 1))).isEmpty

end Pattern

end Automata
