import MtaCheck.CommandLine.Arguments
import MtaCheck.Validator

/-!
# Running a command line

A run reads nothing but the disk and gives an exit code and what is written to both
outputs.  Progress is written unless the run is to be quiet or writes JSON; with
JSON, the report goes to the standard output, and the error to the other one.
-/

namespace MtaCheck.CommandLine

open Text (Json)

/-- What is left of a run. -/
structure Outcome where
  code : Nat
  output : String
  errors : String
deriving DecidableEq

/-! ## Texts -/

/-- A line of an output. -/
def line (text : String) : String := text ++ "\n"

/-- An error with its causes, from the outermost to the root. -/
def errorText (message : String) (causes : List String) : String :=
  "✗ Error: " ++ message ++ String.join (causes.map fun cause => "\n  Caused by: " ++ cause)

/-- The name of the program and its version. -/
def versionText : Command → String
  | .top => "mbt 0.1.0"
  | .validate => "mbt-validate 0.1.0"

/-- How the program is used.  The parser of arguments composes its own texts of help and of
misuse, which are not modelled: this one line stands in for all of them, so nothing is said of
the outputs of a command line that is not run, but of its exit code. -/
def usageText : String :=
  "Usage: mbt [-v] [-q] [--json] validate [-s SOURCE] [-d DESCRIPTOR] [-m MODE]"

/-! ## Reports -/

/-- The report of a validation. -/
def reportValue (path : Path) (issues : List Issue) : Json :=
  .object [("descriptor", .text path.text), ("issues", Issue.list issues),
    ("status", .text (if issues.isEmpty then "success" else "error"))]

/-- An error as an object. -/
def errorValue (message : String) : Json :=
  .object [("message", .text message), ("status", .text "error")]

namespace Arguments

/-- The directory of the project. -/
def root (arguments : Arguments) : Path := ⟨arguments.source⟩

/-- The file of the descriptor. -/
def file (arguments : Arguments) : Path := arguments.root.join ⟨arguments.descriptor⟩

/-- The text that tells of an error. -/
def errors (arguments : Arguments) (error : ValidateError) : String :=
  line (if arguments.json then (errorValue error.message).render .compact
    else errorText error.message error.cause?.toList)

/-- Text that only a run with progress writes. -/
def progress (arguments : Arguments) (lines : List String) : String :=
  if arguments.quiet || arguments.json then "" else String.join (lines.map line)

/-- The report of a validation, if it is asked for and there is one. -/
def report (arguments : Arguments) : Except ValidateError Unit → String
  | .ok () => write []
  | .error (.invalid _ issues) => write issues
  | .error _ => ""
where
  write (issues : List Issue) : String :=
    if arguments.json then line ((reportValue arguments.file issues).render .pretty) else ""

/-- Runs a validation. -/
def run (arguments : Arguments) (disk : Disk) : Outcome :=
  match Mode.parse arguments.mode with
  | .error error => ⟨1, "", arguments.errors error⟩
  | .ok mode =>
      let name := arguments.file.text
      let begun := arguments.progress [s!"ℹ Validating {name}..."]
      let result := CompiledSchema.descriptor.validateFile disk arguments.root
        ⟨arguments.descriptor⟩ mode
      match result with
      | .ok () =>
          let passed :=
            arguments.progress [s!"✓ Validation of {name} passed", s!"  Mode: {mode.name}"]
          ⟨0, begun ++ arguments.report result ++ passed, ""⟩
      | .error error => ⟨1, begun ++ arguments.report result, arguments.errors error⟩

/-- The directories that a run asks for, given the content of the descriptor. -/
def directories (arguments : Arguments) (content : List UInt8) : List Path :=
  match Descriptor.parse content with
  | .ok descriptor => descriptor.modules.map (·.location arguments.root)
  | .error _ => []

end Arguments

/-- What is left of a command line that is not run. -/
def Stop.outcome (stop : Stop) : Outcome :=
  match stop with
  | .usage _ => ⟨stop.exitCode, "", line usageText⟩
  | .help => ⟨stop.exitCode, line usageText, ""⟩
  | .version command => ⟨stop.exitCode, line (versionText command), ""⟩

/-- Runs a command line. -/
def run (words : List String) (environment : Environment) (disk : Disk) : Outcome :=
  match Arguments.parse words environment with
  | .error stop => stop.outcome
  | .ok arguments => arguments.run disk

end MtaCheck.CommandLine
