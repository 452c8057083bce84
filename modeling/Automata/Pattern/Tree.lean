import Automata.Pattern.Group

/-! From a pattern to its tree. A repetition sign applies to the item before it. -/

namespace Automata.Pattern

-- ---------------------------------------------------------------------------
-- Repetition
-- ---------------------------------------------------------------------------

def countLimit : Nat := 4294967295

/-- A count, with blanks allowed on both sides. The result is given back in any case, because other errors
come before a bad count. -/
def count : Reader (Except Error Nat) := do
  Reader.skipBlanks
  let start ← Reader.place
  let digits ← Reader.takeWhile Char.isDigit
  let span ← Reader.spanFrom start
  Reader.skipBlanks
  let value := digits.foldl (fun n c => 10 * n + (c.toNat - '0'.toNat)) 0
  if digits = [] then return .error (.malformed .countEmpty span none)
  else if countLimit < value then return .error (.malformed .decimalInvalid span none)
  else return .ok value

def counts : Reader (Nat × Option Nat) := do
  let start ← Reader.place
  let unclosed {α : Type} : Reader α := Reader.failFrom .countUnclosed start
  Reader.advance
  if ← Reader.atEnd then unclosed
  else
    let least ← count
    if ← Reader.atEnd then unclosed
    else
      let bounds ← if ← Reader.sees "," then do
          Reader.advance
          if ← Reader.atEnd then unclosed
          else
            let least ← liftExcept least
            if ← Reader.sees "\x7d" then pure (least, none)
            else
              let most ← liftExcept (← count)
              pure (least, some most)
        else do
          let exactly ← liftExcept least
          pure (exactly, some exactly)
      if ← Reader.sees "\x7d" then
        Reader.advance
        return bounds
      else unclosed
where
  liftExcept {α : Type} : Except Error α → Reader α
    | .ok x => return x
    | .error e => throw e

/-- The bounds of a repetition, from its sign on. A question mark behind it only says which match is
preferred. -/
def repetition (sign : Char) : Reader (Nat × Option Nat) := do
  let start ← Reader.place
  let (least, most) ← match sign with
    | '?' => do Reader.bump; pure (0, some 1)
    | '*' => do Reader.bump; pure (0, none)
    | '+' => do Reader.bump; pure (1, none)
    | _ => counts
  if ← Reader.sees "?" then Reader.bump
  if most.any (· < least) then Reader.failFrom .countOrder start
  else return (least, most)

def Node.isRepeatable : Node → Bool
  | .flags .. => false
  | _ => true

-- ---------------------------------------------------------------------------
-- Sequences and alternatives
-- ---------------------------------------------------------------------------

def single : Reader Node := do
  let start ← Reader.place
  match ← Reader.next? with
  | some '\\' => escape
  | some '.' => do Reader.bump; return .dot (← Reader.spanFrom start)
  | some '^' => do Reader.bump; return .assertion (← Reader.spanFrom start) .lineStart
  | some '$' => do Reader.bump; return .assertion (← Reader.spanFrom start) .lineEnd
  | some char => do Reader.bump; return .literal { span := ← Reader.spanFrom start, char }
  | none => Reader.failHere .escapeUnfinished

def setVerbose (verbose : Bool) : Reader Unit := modify fun c => { c with verbose }

def verboseIn (changes : FlagChanges) (outside : Bool) : Bool := (changes.lookup .verbose).getD outside

mutual

/-- Alternatives up to a closing parenthesis or to the end, neither of which is read. The ones before are
given latest first. -/
def alternatives (start : Nat) : (fuel : Nat) → List Node → Reader Node
  | 0, _ => Reader.failHere .groupUnclosed
  | fuel + 1, before => do
    let first ← Reader.place
    let items ← sequence fuel []
    let item := Node.ofItems (← Reader.spanFrom first) items
    if ← Reader.sees "|" then
      Reader.bump
      alternatives start fuel (item :: before)
    else if before.isEmpty then return item
    else return .alternatives (← Reader.spanFrom start) (item :: before).reverse

def sequence : (fuel : Nat) → List Node → Reader (List Node)
  | 0, before => return before.reverse
  | fuel + 1, before => do
    Reader.skip
    match ← Reader.next? with
    | none | some '|' | some ')' => return before.reverse
    | some '(' => sequence fuel ((← groupNode fuel) :: before)
    | some '[' => sequence fuel ((← bracketSet) :: before)
    | some c =>
      if c ∈ ['?', '*', '+', '\x7b'] then
        match before with
        | item :: before =>
          if item.isRepeatable then
            let (least, most) ← repetition c
            let node := .repeated (← Reader.spanFrom item.span.start) item least most
            sequence fuel (node :: before)
          else Reader.failHere .repetitionMissing
        | [] => Reader.failHere .repetitionMissing
      else sequence fuel ((← single) :: before)

def groupNode : (fuel : Nat) → Reader Node
  | 0 => Reader.failHere .groupUnclosed
  | fuel + 1 => do
    let start ← Reader.place
    let outside := (← get).verbose
    match ← head with
    | .setting changes =>
      setVerbose (verboseIn changes outside)
      return .flags (← Reader.spanFrom start) changes
    | .group changes =>
      setVerbose (changes.elim outside (verboseIn · outside))
      let inner ← alternatives (← Reader.place) fuel []
      if ← Reader.atEnd then Reader.fail .groupUnclosed start (start + 1)
      else
        setVerbose outside
        Reader.bump
        return .group (← Reader.spanFrom start) changes inner

end

def wholeTree : Reader Node := do
  let node ← alternatives 0 (3 * (← get).rest.length + 3) []
  if ← Reader.atEnd then return node
  else Reader.failAtChar .groupUnopened

def tree (pattern : String) : Except Error Node := do
  let (node, _) ← wholeTree.run (Cursor.start pattern)
  match node.tooDeep depthLimit with
  | some span => throw (.malformed .tooDeep span none)
  | none => return node

end Automata.Pattern
