import MtaCheck.Location
import MtaCheck.Schema.Defect
import MtaCheck.Text.Json

/-!
# Issues

An issue is something wrong that a validation reports.  Most issues are findings: a
fault of the document at a place inside it.
-/

namespace MtaCheck

/-! ## Findings -/

/-- The kinds of nodes that can be demanded. -/
inductive Demand
  | map
  | array
  | boolean
  | scalar
deriving DecidableEq

/-- The words for what is demanded. -/
def Demand.words : Demand → String
  | .map => "a map"
  | .array => "an array"
  | .boolean => "a boolean"
  | .scalar => "a scalar value"

/-- A fault of a document at some place. -/
inductive Finding
  | missing
  | wrongKind (demand : Demand)
  | patternMismatch (value pattern : String)
  | notAllowed (value : String) (allowed : List String)
deriving DecidableEq

/-- The number of allowed values that a message lists at most. -/
def listedValues : Nat := 4

/-- The text of a finding at a place. -/
def Finding.message (location : Location) : Finding → String
  | .missing =>
      let name := location.leaf?.getD ""
      s!"Missing required property <{name}> in <{location.parent.display}>"
  | .wrongKind demand => s!"the {location.display} property must be {demand.words}"
  | .patternMismatch value pattern =>
      s!"the {location.display} property with the {value} value "
        ++ s!"does not match the {pattern} pattern"
  | .notAllowed value allowed =>
      let listed := ",".intercalate (allowed.take listedValues)
      s!"the {location.display} property with the {value} value "
        ++ s!"is not one of the expected values [{listed}]"

/-! ## Issues -/

/-- Something wrong that a validation reports. -/
inductive Issue
  | finding (location : Location) (finding : Finding)
  | schemaDefect (defect : SchemaDefect)
  /-- The document cannot be read. -/
  | unreadable (error : Yaml.ReadError)
  /-- The project has no directory for a module. -/
  | moduleNotFound (name path : String)
  /-- An issue in somebody else's words. -/
  | other (text : String)

namespace Issue

/-- The text of an issue. -/
def message : Issue → String
  | .finding location fault => fault.message location
  | .schemaDefect defect => defect.message
  | .unreadable error => "validation failed because: " ++ error.message
  | .moduleNotFound name path =>
      s!"Module <{name}> not found in project. Expected path: <{path}>"
  | .other text => text

end Issue

/-! ## Reports -/

/-- A report: the texts of all issues. -/
def report (issues : List Issue) : String := String.join (issues.map Issue.message)

/-- Issues as an array of objects. -/
def Issue.list (issues : List Issue) : Text.Json :=
  .array (issues.map fun issue => .object [("message", .text issue.message)])

end MtaCheck
