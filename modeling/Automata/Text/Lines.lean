import Automata.Text.Segment

/-! A line ends with a line feed, or with a carriage return and a line feed. The last one may lack its end. -/

namespace Automata.Text

def parts (separator : Char) (text : String) : List String :=
  (segments (· == separator) text.toList).map String.ofList

def dropReturn (line : List Char) : List Char :=
  if line.getLast? = some '\r' then line.dropLast else line

def lines (text : String) : List String :=
  let all := segments (· == '\n') text.toList
  let closed := all.dropLast.map dropReturn
  (match all.getLast? with
    | none | some [] => closed
    | some line => closed ++ [line]).map String.ofList

end Automata.Text
