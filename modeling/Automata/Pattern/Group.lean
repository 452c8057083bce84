import Automata.Pattern.Bracket
import Automata.Text.Alphabetic
import Automata.Text.Number

/-! How groups begin: capturing, with flags for what is inside, or a setting of flags for what follows. -/

namespace Automata.Pattern

inductive Head
  /-- A setting of flags, up to its closing parenthesis. -/
  | setting (changes : FlagChanges)
  /-- A group; none when it captures. -/
  | group (changes : Option FlagChanges)

def lookArounds : List String := ["?=", "?!", "?<=", "?<!"]

-- ---------------------------------------------------------------------------
-- Names
-- ---------------------------------------------------------------------------

def isNameStart (c : Char) : Bool := c = '_' || Text.isAlphabetic c

def isNameChar (c : Char) : Bool :=
  c = '_' || c = '.' || c = '[' || c = ']' || Text.isAlphabetic c || Text.isNumber c

def groupName : Reader Unit := do
  let start ← Reader.place
  let text := (← get).rest
  let name := text.takeWhile (· ≠ '>')
  match name.mapIdx (fun i c => if i = 0 then isNameStart c else isNameChar c) |>.findIdx? (!·) with
  | some i => Reader.fail .nameInvalid (start + i) (start + i + 1)
  | none =>
    let stop := start + name.length
    if name.length = text.length then Reader.fail .nameUnfinished stop stop
    else if name = [] then Reader.fail .nameEmpty start start
    else
      modify fun c => (name.length + 1).repeat Cursor.bump c
      let span : Span := ⟨start, stop⟩
      let names := (← get).names
      match names.lookup (String.ofList name) with
      | some earlier => throw (.malformed .nameDuplicate span (some earlier))
      | none => modify fun c => { c with names := (String.ofList name, span) :: names }

-- ---------------------------------------------------------------------------
-- Flags
-- ---------------------------------------------------------------------------

/-- The letters and the sign of negation, up to a colon or a closing parenthesis, which is not read. Each
is given with its place, the latest first, and the sign as no flag. -/
def flagItems : (fuel : Nat) → List (Option Flag × Nat) → Reader (List (Option Flag × Nat))
  | 0, items => return items
  | fuel + 1, items => do
    match ← Reader.next? with
    | none => Reader.failHere .flagUnfinished
    | some c =>
      if c = ':' ∨ c = ')' then return items
      else
        let place ← Reader.place
        let item ← if c = '-' then pure none else
          match Flag.ofLetter? c with
          | some flag => pure (some flag)
          | none => Reader.failAtChar .flagUnknown
        match items.lookup item with
        | some earlier =>
          throw (.malformed (if item = none then .flagRepeatedNegation else .flagDuplicate)
            ⟨place, place + 1⟩ (some ⟨earlier, earlier + 1⟩))
        | none =>
          Reader.bump
          flagItems fuel ((item, place) :: items)

def changesOf (items : List (Option Flag)) : FlagChanges :=
  (items.takeWhile (· ≠ none)).filterMap (·.map (·, true)) ++
    (items.dropWhile (· ≠ none)).filterMap (·.map (·, false))

def flagChanges : Reader FlagChanges := do
  let items ← flagItems (← get).rest.length.succ []
  match items with
  | (none, place) :: _ => Reader.fail .flagDangling place (place + 1)
  | _ => return changesOf (items.reverse.map (·.1))

-- ---------------------------------------------------------------------------
-- Heads
-- ---------------------------------------------------------------------------

def head : Reader Head := do
  let start ← Reader.place
  Reader.bump
  Reader.skip
  let inside ← Reader.place
  let text := (← get).rest
  match lookArounds.find? fun sign => sign.toList.isPrefixOf text with
  | some sign => Reader.fail .lookAround start (inside + sign.length)
  | none =>
    match ["?P<", "?<"].find? fun sign => sign.toList.isPrefixOf text with
    | some sign =>
      modify fun c => sign.length.repeat Cursor.bump c
      groupName
      return .group none
    | none =>
      if ← Reader.sees "?" then
        Reader.bump
        if ← Reader.atEnd then Reader.fail .groupUnclosed start (start + 1)
        else
          let changes ← flagChanges
          let closed ← Reader.sees ")"
          Reader.bump
          if !closed then return .group (some changes)
          else if changes = [] then Reader.fail .repetitionMissing inside inside
          else return .setting changes
      else return .group none

end Automata.Pattern
