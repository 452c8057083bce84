import Automata.Text.Segment

/-! Sources of text. Every line of a file is decoded on its own, so a line that is not UTF-8 matters only to
a reader that gets that far. -/

namespace Automata

inductive FileError
  | missing
  | directory
  | denied
  | encoding
  deriving DecidableEq, Repr

def FileError.message : FileError → String
  | .missing => "No such file or directory (os error 2)"
  | .directory => "Is a directory (os error 21)"
  | .denied => "Permission denied (os error 13)"
  | .encoding => "stream did not contain valid UTF-8"

inductive Source
  | missing
  | directory
  | denied
  | content (bytes : List UInt8)

abbrev Line := Except FileError String

def decodeLine (bytes : List UInt8) : Line :=
  match String.fromUTF8? ⟨bytes.toArray⟩ with
  | some line => .ok line
  | none => .error .encoding

/-- The lines of a source. One that cannot be read fails in place of its first line. -/
def Source.lines : Source → List Line
  | .missing => [.error .missing]
  | .directory => [.error .directory]
  | .denied => [.error .denied]
  | .content bytes => (Text.segments (· == 10) bytes).map decodeLine

def linesOfText (text : String) : List Line :=
  (Text.segments (· == '\n') text.toList).map fun line => .ok (String.ofList line)

end Automata
