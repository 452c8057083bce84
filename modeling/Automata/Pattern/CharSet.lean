import Automata.Text.Ranges

/-! Sets of characters, as runs of code points under the operations on sets. -/

namespace Automata

inductive CharSet
  | ranges (rs : Text.Ranges)
  | union (a b : CharSet)
  | inter (a b : CharSet)
  | compl (a : CharSet)
  /-- With every letter of ASCII, its other case too. -/
  | caseless (a : CharSet)
  deriving DecidableEq, Repr

namespace CharSet

def singleton (c : Char) : CharSet := .ranges [(c.toNat, c.toNat)]

def interval (first last : Char) : CharSet := .ranges [(first.toNat, last.toNat)]

def diff (a b : CharSet) : CharSet := a.inter b.compl

def symmDiff (a b : CharSet) : CharSet := (a.diff b).union (b.diff a)

def contains : CharSet → Char → Bool
  | .ranges rs, c => rs.contains c
  | .union a b, c => a.contains c || b.contains c
  | .inter a b, c => a.contains c && b.contains c
  | .compl a, c => !a.contains c
  | .caseless a, c => a.contains c || a.contains c.toLower || a.contains c.toUpper

def isTrivial : CharSet → Bool
  | .ranges rs => rs.isEmpty
  | .union a b | .inter a b => a.isTrivial && b.isTrivial
  | .compl a | .caseless a => a.isTrivial

def asciiRuns? : CharSet → Option Nat
  | .ranges rs => if rs.all (·.2 < 0x80) then some rs.length else none
  | .union a b => return (← a.asciiRuns?) + (← b.asciiRuns?)
  | .inter a b => a.asciiRuns? <|> b.asciiRuns?
  | .compl _ => none
  | .caseless a => a.asciiRuns?

end CharSet

-- ---------------------------------------------------------------------------
-- Named sets
-- ---------------------------------------------------------------------------

def digitRanges : Text.Ranges := [(0x30, 0x39)]

def spaceRanges : Text.Ranges := [(0x9, 0xd), (0x20, 0x20)]

def wordRanges : Text.Ranges := [(0x30, 0x39), (0x41, 0x5a), (0x5f, 0x5f), (0x61, 0x7a)]

def asciiSets : List (String × Text.Ranges) :=
  [("alnum", [(0x30, 0x39), (0x41, 0x5a), (0x61, 0x7a)]),
   ("alpha", [(0x41, 0x5a), (0x61, 0x7a)]),
   ("ascii", [(0x0, 0x7f)]),
   ("blank", [(0x9, 0x9), (0x20, 0x20)]),
   ("cntrl", [(0x0, 0x1f), (0x7f, 0x7f)]),
   ("digit", digitRanges),
   ("graph", [(0x21, 0x7e)]),
   ("lower", [(0x61, 0x7a)]),
   ("print", [(0x20, 0x7e)]),
   ("punct", [(0x21, 0x2f), (0x3a, 0x40), (0x5b, 0x60), (0x7b, 0x7e)]),
   ("space", spaceRanges),
   ("upper", [(0x41, 0x5a)]),
   ("word", wordRanges),
   ("xdigit", [(0x30, 0x39), (0x41, 0x46), (0x61, 0x66)])]

def isWordChar (c : Char) : Bool := Text.Ranges.contains wordRanges c

end Automata
