/-!
# Modes

A validation looks at the document, at the project, or at both.
-/

namespace MtaCheck

/-- What a validation looks at. -/
inductive Mode
  | all
  | schema
  | project
deriving DecidableEq, Inhabited

namespace Mode

/-- The name of a mode. -/
def name : Mode → String
  | .all => "all"
  | .schema => "schema"
  | .project => "project"

/-- The mode with a name; without a name, all is looked at. -/
def ofName? : String → Option Mode
  | "" => some .all
  | "all" => some .all
  | "schema" => some .schema
  | "project" => some .project
  | _ => none

/-- Whether the document is validated against the schema. -/
def runsSchema : Mode → Bool
  | .all | .schema => true
  | .project => false

/-- Whether the descriptor is compared with the project. -/
def runsProject : Mode → Bool
  | .all | .project => true
  | .schema => false

end Mode

end MtaCheck
