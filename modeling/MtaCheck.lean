import MtaCheck.Main
import MtaCheck.Proofs.Check.Evaluation
import MtaCheck.Proofs.Check.FailFast
import MtaCheck.Proofs.Check.Absence
import MtaCheck.Proofs.Check.Relocation
import MtaCheck.Proofs.Node.Entries
import MtaCheck.Proofs.Schema.Issues
import MtaCheck.Proofs.Schema.Reading
import MtaCheck.Proofs.Schema.Interpreter
import MtaCheck.Proofs.Schema.Grammar
import MtaCheck.Proofs.Yaml.Nesting
import MtaCheck.Proofs.Validation.Descriptors
import MtaCheck.Proofs.Validation.Modes
import MtaCheck.Proofs.Regex.Language
import MtaCheck.Proofs.Yaml.Decoding
import MtaCheck.Proofs.Schema.Descriptors
import MtaCheck.Proofs.Schema.Places
import MtaCheck.Proofs.Schema.Rearrangement
import MtaCheck.Proofs.Schema.Insertion
import MtaCheck.Proofs.Schema.AbsentSections
import MtaCheck.Proofs.Schema.RequiredLeaves
import MtaCheck.Proofs.Schema.SemanticVersions
import MtaCheck.Proofs.Schema.Repetition
import MtaCheck.Proofs.Schema.Tags
import MtaCheck.Proofs.Schema.Literals
import MtaCheck.Proofs.Location.Display
import MtaCheck.Proofs.Validation.SameModules
import MtaCheck.Proofs.Validation.ModuleDirectories
import MtaCheck.Proofs.CommandLine.Arguments
import MtaCheck.Proofs.CommandLine.Outcome
