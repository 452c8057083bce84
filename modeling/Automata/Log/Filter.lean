import Automata.Log.Event
import Automata.Pattern.Meaning
import Automata.Text.Blank
import Automata.Text.Lines

/-!
# Which events are recorded

A directive sets a ceiling for the origins that begin with its name; the one with the longest name that
applies decides. Parts of a text of directives that are not understood are left out with a complaint.
-/

namespace Automata.Log

structure Directive where
  name : Option String
  ceiling : Ceiling
  deriving DecidableEq, Repr

structure Filter where
  directives : List Directive
  pattern : Option Pattern := none
  deriving DecidableEq, Repr

def ceilings : List (String × Ceiling) :=
  [("off", none), ("error", some .error), ("warn", some .warn), ("info", some .info),
   ("debug", some .debug), ("trace", some .trace)]

def Ceiling.ofName? (name : String) : Option Ceiling := ceilings.lookup name.toLower

namespace Directive

def nameLength (d : Directive) : Nat := d.name.elim 0 String.length

def applies (d : Directive) (origin : String) : Bool :=
  d.name.all fun name => name.toList.isPrefixOf origin.toList

end Directive

namespace Filter

def all (ceiling : Ceiling) : Filter := ⟨[⟨none, ceiling⟩], none⟩

def set (directives : List Directive) (d : Directive) : List Directive :=
  if directives.any (·.name = d.name) then
    directives.map fun old => if old.name = d.name then d else old
  else directives ++ [d]

/-- The directive that decides about an origin. Of two names of one length the later is taken. -/
def decisive (f : Filter) (origin : String) : Option Directive :=
  f.directives.foldl (fun best d =>
    if d.applies origin && best.all (·.nameLength ≤ d.nameLength) then some d else best) none

def admits (f : Filter) (e : Event) : Bool :=
  (f.decisive e.origin).any (·.ceiling.admits e.level) &&
    f.pattern.all (·.occursIn e.message)

end Filter

-- ---------------------------------------------------------------------------
-- Filters given as text
-- ---------------------------------------------------------------------------

def trim (text : String) : String :=
  String.ofList ((text.toList.dropWhile Text.isBlank).reverse.dropWhile Text.isBlank).reverse

def complaint (text : String) : String := s!"invalid logging spec '{text}'"

def Directive.parse (part : String) : Except String Directive :=
  match Text.parts '=' part with
  | [one] =>
    match Ceiling.ofName? one with
    | some ceiling => .ok ⟨none, ceiling⟩
    | none => .ok ⟨some one, some .trace⟩
  | [name, level] =>
    if trim level = "" then .ok ⟨some name, some .trace⟩
    else match Ceiling.ofName? (trim level) with
      | some ceiling => .ok ⟨some name, ceiling⟩
      | none => .error (complaint (trim level))
  | _ => .error (complaint part)

def readPattern : Option String → Option Pattern × List String
  | none => (none, [])
  | some text =>
    match Pattern.parse text with
    | .ok p => (some p, [])
    | .error e => (none, ["invalid regex filter - " ++ e.message text])

def Filter.amend (f : Filter) (text : String) : Filter × List String :=
  match Text.parts '/' text with
  | directives :: others =>
    if 1 < others.length then (⟨f.directives, none⟩, [complaint text ++ " (too many '/'s)"])
    else
      let parsed := (((Text.parts ',' directives).map trim).filter (· ≠ "")).map Directive.parse
      let understood := parsed.filterMap Except.toOption
      let complaints := parsed.filterMap fun
        | .error message => some message
        | .ok _ => none
      let (pattern, more) := readPattern others.head?
      (⟨understood.foldl Filter.set f.directives, pattern⟩, complaints ++ more)
  | [] => (f, [])

end Automata.Log
