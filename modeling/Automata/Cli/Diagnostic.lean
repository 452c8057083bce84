import Automata.Description
import Automata.Text.Quoted

/-! Errors on the command line: the cause and the values that belong to it. -/

namespace Automata

def fieldsForm (cause : String) (fields : List (String × String)) : String :=
  cause ++ " \x7b " ++ ", ".intercalate (fields.map fun (name, value) => name ++ ": " ++ value) ++ " \x7d"

def Invalid.diagnostic : Invalid → String
  | .emptyTable accept => s!"EmptyTransitionTable({accept})"
  | .acceptOutOfRange accept states =>
    fieldsForm "AcceptStateOutOfRange" [("accept", toString accept), ("states", toString states)]
  | .targetOutOfRange state symbol target states =>
    fieldsForm "TargetOutOfRange" [("state", toString state), ("symbol", Text.quote symbol),
      ("target", toString target), ("states", toString states)]
  | .unknownSymbol state symbol =>
    fieldsForm "UnknownSymbol" [("state", toString state), ("symbol", Text.quote symbol)]

def BuildError.diagnostic : BuildError → String
  | .missingAccept => "MissingAcceptState"
  | .duplicateAccept old new => s!"DuplicatedAcceptState({old}, {new})"
  | .epsilonSymbol => "EpsilonSymbol"
  | .invalid v => v.diagnostic

def NumeralError.diagnostic : NumeralError → String
  | .empty => fieldsForm "ParseIntError" [("kind", "Empty")]
  | .invalidDigit => fieldsForm "ParseIntError" [("kind", "InvalidDigit")]
  | .tooLarge => fieldsForm "ParseIntError" [("kind", "PosOverflow")]

def FileError.diagnostic : FileError → String
  | .missing =>
    fieldsForm "Os" [("code", "2"), ("kind", "NotFound"), ("message", Text.quote "No such file or directory")]
  | .directory =>
    fieldsForm "Os" [("code", "21"), ("kind", "IsADirectory"), ("message", Text.quote "Is a directory")]
  | .denied =>
    fieldsForm "Os" [("code", "13"), ("kind", "PermissionDenied"), ("message", Text.quote "Permission denied")]
  | .encoding =>
    fieldsForm "Error" [("kind", "InvalidData"), ("message", Text.quote FileError.encoding.message)]

def ReadError.diagnostic : ReadError → String
  | .missingAccept => "MissingAcceptState"
  | .incompleteTransition line => s!"IncompleteTransition({line})"
  | .illFormedTransition line => s!"IllformedTransition({line})"
  | .build e line => s!"NFA({e.diagnostic}, {line})"
  | .file e => s!"Io({e.diagnostic})"
  | .numeral e line => s!"Parse({e.diagnostic}, {line})"

end Automata
