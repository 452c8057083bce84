import Automata.Main
import Automata.Proofs.Assembly
import Automata.Proofs.Associativity
import Automata.Proofs.Building
import Automata.Proofs.Encoding
import Automata.Proofs.Evaluation
import Automata.Proofs.Expansions
import Automata.Proofs.Exploration
import Automata.Proofs.Files
import Automata.Proofs.Growth
import Automata.Proofs.Languages
import Automata.Proofs.Layout
import Automata.Proofs.Nesting
import Automata.Proofs.NormalForms
import Automata.Proofs.Observation
import Automata.Proofs.Overflow
import Automata.Proofs.ReadErrors
import Automata.Proofs.Reading
import Automata.Proofs.Records
import Automata.Proofs.Regular
import Automata.Proofs.Relocation
import Automata.Proofs.Rendering
import Automata.Proofs.Reports
import Automata.Proofs.Seen
import Automata.Proofs.Sequences
import Automata.Proofs.Targets
import Automata.Proofs.Validation
import Automata.Proofs.Writing
import Automata.Session
