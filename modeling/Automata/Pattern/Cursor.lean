import Automata.Pattern.Node
import Automata.Text.Blank

/-! A cursor stands before the part of a pattern that is not read yet. -/

namespace Automata.Pattern

structure Cursor where
  /-- The number of characters that were read. -/
  place : Nat
  rest : List Char
  verbose : Bool
  /-- The names of groups so far, with their spans. -/
  names : List (String × Span)

namespace Cursor

def start (pattern : String) : Cursor := ⟨0, pattern.toList, false, []⟩

def bump (c : Cursor) : Cursor :=
  match c.rest with
  | [] => c
  | _ :: rest => { c with place := c.place + 1, rest }

def skipFrom (inComment : Bool) (place : Nat) : List Char → Nat × List Char
  | [] => (place, [])
  | c :: cs =>
    if inComment then skipFrom (c ≠ '\n') (place + 1) cs
    else if Text.isBlank c then skipFrom false (place + 1) cs
    else if c = '#' then skipFrom true (place + 1) cs
    else (place, c :: cs)

def skip (c : Cursor) : Cursor :=
  if c.verbose then
    let (place, rest) := skipFrom false c.place c.rest
    { c with place, rest }
  else c

def takeRun (step : Cursor → Cursor) (p : Char → Bool) : (fuel : Nat) → Cursor → List Char × Cursor
  | 0, c => ([], c)
  | fuel + 1, c =>
    match c.rest with
    | d :: _ =>
      if p d then
        let (taken, after) := takeRun step p fuel (step c)
        (d :: taken, after)
      else ([], c)
    | [] => ([], c)

end Cursor

abbrev Reader := StateT Cursor (Except Error)

namespace Reader

def place : Reader Nat := return (← get).place

def next? : Reader (Option Char) := return (← get).rest.head?

def atEnd : Reader Bool := return (← get).rest.isEmpty

def sees (text : String) : Reader Bool := return text.toList.isPrefixOf (← get).rest

def bump : Reader Unit := modify Cursor.bump

def skip : Reader Unit := modify Cursor.skip

def backTo (c : Cursor) : Reader Unit := modify fun _ => c

def advance : Reader Unit := modify fun c => c.bump.skip

def takeWhile (p : Char → Bool) : Reader (List Char) :=
  modifyGet fun c => c.takeRun (fun c => c.bump.skip) p c.rest.length

def skipBlanks : Reader Unit := do
  let _ ← modifyGet fun c => c.takeRun Cursor.bump Text.isBlank c.rest.length

def fail {α : Type} (flaw : Flaw) (start stop : Nat) : Reader α :=
  throw (.malformed flaw ⟨start, stop⟩ none)

def failFrom {α : Type} (flaw : Flaw) (start : Nat) : Reader α := do fail flaw start (← place)

def failHere {α : Type} (flaw : Flaw) : Reader α := do failFrom flaw (← place)

def failAtChar {α : Type} (flaw : Flaw) : Reader α := do
  let start ← place
  fail flaw start (start + 1)

def spanFrom (start : Nat) : Reader Span := return ⟨start, ← place⟩

end Reader

end Automata.Pattern
