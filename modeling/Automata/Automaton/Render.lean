import Automata.Automaton.Basic

/-! The written form of an automaton. An entry with an empty set has a line, a symbol without an entry
has none. -/

namespace Automata

def Symbol.render (y : Symbol) : String := if y = epsilon then "ε" else y

def braced (items : List String) : String := "\x7b" ++ ", ".intercalate items ++ "\x7d"

def renderEntry (state : Nat) (y : Symbol) (ts : TargetSet) : String :=
  "  (" ++ y.render ++ "," ++ toString state ++ ") => " ++ braced (ts.toList.map Target.render)

def renderRow (state : Nat) (row : Row) : List String :=
  row.toList.map fun (y, ts) => renderEntry state y ts

namespace Automaton

def lines (a : Automaton) : List String :=
  ["ACCEPT: " ++ toString a.accept,
   "ALPHABET: " ++ braced (a.alphabet.toList.map Symbol.render),
   "TRANSITIONS:"] ++
  a.table.toList.zipIdx.flatMap fun (row, state) => renderRow state row

def render (a : Automaton) : String := String.join (a.lines.map (· ++ "\n"))

end Automaton

end Automata
