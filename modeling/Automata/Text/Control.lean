/-!
# Control sequences of terminals

`visible` keeps what a terminal shows. Inside a sequence that a terminal would carry them out of, line ends,
tabs, form feeds and carriage returns make what follows them shown as well, up to the next control character.
-/

namespace Automata.Text

namespace Control

/-- How far the head of a sequence with parameters has been read. -/
inductive Head
  | start
  | parameters
  | intermediates
  | malformed
  deriving DecidableEq, Repr

def Head.next? (h : Head) (c : Char) : Option Head :=
  if '@' ≤ c ∧ c ≤ '~' then none
  else if ' ' ≤ c ∧ c ≤ '/' then some (if h = .malformed then .malformed else .intermediates)
  else if '0' ≤ c ∧ c ≤ '?' then
    match h with
    | .start => some .parameters
    | .parameters => some (if c ≤ ';' then .parameters else .malformed)
    | _ => some .malformed
  else some h

inductive State
  | ground
  | escape
  /-- In an escape sequence of more than two characters. -/
  | longEscape
  /-- In a control sequence proper. -/
  | sequence (h : Head)
  /-- In the head of a string for a device. -/
  | device (h : Head)
  /-- In a string that a string terminator ends. -/
  | string
  /-- In a command for the operating system, which a bell ends. -/
  | command
  deriving DecidableEq, Repr

namespace State

/-- The state after a character of a sequence. Cancelling works everywhere, and so does beginning anew. A
string terminator is one byte and counts within the encoding of a longer character too. -/
def next (s : State) (c : Char) : State :=
  if c = '\x1b' then .escape
  else if c = '\x18' ∨ c = '\x1a' then .ground
  else match s with
    | .ground => .ground
    | .escape =>
      if ' ' ≤ c ∧ c ≤ '/' then .longEscape
      else if c = '[' then .sequence .start
      else if c = ']' then .command
      else if c = 'P' then .device .start
      else if c = 'X' ∨ c = '^' ∨ c = '_' then .string
      else if '0' ≤ c ∧ c ≤ '~' then .ground
      else .escape
    | .longEscape => if '0' ≤ c ∧ c ≤ '~' then .ground else .longEscape
    | .sequence h => (h.next? c).elim .ground .sequence
    | .device h =>
      match h.next? c with
      | none | some .malformed => .string
      | some h => .device h
    | .string => if 0x9c ∈ String.utf8EncodeChar c then .ground else .string
    | .command => if c = '\x07' then .ground else .command

def isLayout (c : Char) : Bool := c = '\t' || c = '\n' || c = '\x0c' || c = '\r'

def shows (s : State) (c : Char) : Bool :=
  match s with
  | .ground => (' ' ≤ c && c ≠ '\x7f') || isLayout c
  | .escape | .longEscape | .sequence _ => isLayout c
  | .device _ | .string | .command => false

end State

/-- The shown part of a text that goes on from a state. While `showing`, the state waits for the next
character that is not shown. -/
def scan (showing : Bool) (s : State) : List Char → List Char
  | [] => []
  | c :: cs =>
    if (if showing then State.ground else s).shows c then
      c :: scan true (if c ≤ '\x7f' then s else .ground) cs
    else scan false (s.next c) cs

end Control

def visible (text : String) : String := String.ofList (Control.scan true .ground text.toList)

end Automata.Text
