import Automata.Text.DefaultIgnorable
import Automata.Text.GraphemeExtend
import Automata.Text.Unprintable

/-! Quoted text. The quote, the backslash and the characters that would not show by themselves are escaped. -/

namespace Automata.Text

/-- The marks that join the character before them. The two halfwidth sound marks extend a grapheme as
well, but they have a place of their own in a line. -/
def isJoiningMark (c : Char) : Bool := isGraphemeExtend c && c ≠ '\uff9e' && c ≠ '\uff9f'

def isHidden (c : Char) : Bool := isUnprintable c || isDefaultIgnorable c || isJoiningMark c

def escapeCode (c : Char) : List Char :=
  '\\' :: 'u' :: '\x7b' :: Nat.toDigits 16 c.toNat ++ ['\x7d']

def escapeChar (c : Char) : List Char :=
  if c = '\x00' then ['\\', '0']
  else if c = '\t' then ['\\', 't']
  else if c = '\n' then ['\\', 'n']
  else if c = '\r' then ['\\', 'r']
  else if c = '"' then ['\\', '"']
  else if c = '\\' then ['\\', '\\']
  else if isHidden c then escapeCode c
  else [c]

def quote (text : String) : String := "\"" ++ String.ofList (text.toList.flatMap escapeChar) ++ "\""

end Automata.Text
