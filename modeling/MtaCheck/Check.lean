import MtaCheck.Issue
import MtaCheck.Node

/-!
# Checks

A check looks at a node and reports issues at its place.  Checks are composed from
a few simple ones.  Apart from `required`, which asks for something to be there,
the simple checks have nothing to say about a missing node.
-/

namespace MtaCheck

/-- Whether a node is what is demanded; the missing node always is. -/
def Demand.accepts : Demand → Node → Bool
  | .map, .map _ => true
  | .array, .sequence _ => true
  | .boolean, .scalar (.truth _) => true
  | .scalar, .scalar _ => true
  | _, .missing => true
  | _, _ => false

/-- A check. -/
inductive Check
  /-- All checks on the value of a property, which may be missing. -/
  | property (name : String) (checks : List Check)
  /-- All checks. -/
  | sequence (checks : List Check)
  /-- Checks up to the first that reports something. -/
  | failFast (checks : List Check)
  /-- All checks on every element of a sequence. -/
  | forEach (checks : List Check)
  /-- There has to be something. -/
  | required
  /-- All checks, if there is something. -/
  | optional (checks : List Check)
  /-- What is there has to be of a kind. -/
  | kind (demand : Demand)
  /-- The literal form of a scalar has to match. -/
  | matching (regex : Regex)
  /-- The literal form of a scalar has to be one of the values. -/
  | oneOf (values : List String)
  /-- A check of another origin. -/
  | custom (label : String) (run : Node → Location → List Issue)

namespace Check

/-! ## Labels -/

/-- The name of a check that demands a kind. -/
def kindLabel : Demand → String
  | .map => "type_is_map"
  | .array => "type_is_array"
  | .boolean => "type_is_boolean"
  | .scalar => "type_is_scalar"

/-- The name of a check. -/
def label : Check → String
  | .property name _ => s!"property({name})"
  | .sequence _ => "sequence"
  | .failFast _ => "sequence_fail_fast"
  | .forEach _ => "for_each"
  | .required => "required"
  | .optional _ => "optional"
  | .kind demand => kindLabel demand
  | .matching regex => s!"matches_reg_exp({regex.source})"
  | .oneOf _ => "matches_enum_values"
  | .custom label _ => label

/-! ## Evaluation -/

/-- Reports a finding, unless all is well. -/
def reportUnless (fine : Bool) (location : Location) (finding : Finding) : List Issue :=
  if fine then [] else [.finding location finding]

mutual

/-- The issues of a node at a place. -/
def evaluate : Check → Node → Location → List Issue
  | .property name checks, node, location =>
      evaluateAll checks (node.get name) (location.child name)
  | .sequence checks, node, location => evaluateAll checks node location
  | .failFast checks, node, location => evaluateFirst checks node location
  | .forEach checks, node, location =>
      node.elements.zipIdx.flatMap fun (element, index) =>
        evaluateAll checks element (location.index index)
  | .required, node, location => reportUnless node.isFound location .missing
  | .optional checks, node, location =>
      if node.isFound then evaluateAll checks node location else []
  | .kind demand, node, location =>
      reportUnless (demand.accepts node) location (.wrongKind demand)
  | .matching regex, node, location =>
      match node.literal? with
      | none => []
      | some value =>
          reportUnless (regex.isMatch value) location (.patternMismatch value regex.source)
  | .oneOf values, node, location =>
      match node.literal? with
      | none => []
      | some value =>
          reportUnless (values.contains value) location (.notAllowed value values)
  | .custom _ run, node, location => run node location

/-- The issues of all checks, in their order. -/
def evaluateAll : List Check → Node → Location → List Issue
  | [], _, _ => []
  | check :: checks, node, location =>
      check.evaluate node location ++ evaluateAll checks node location

/-- The issues of the first check that reports any. -/
def evaluateFirst : List Check → Node → Location → List Issue
  | [], _, _ => []
  | check :: checks, node, location =>
      match check.evaluate node location with
      | [] => evaluateFirst checks node location
      | issues => issues

end

/-! ## Documents -/

/-- The issues of a document that has been read. -/
def run (checks : List Check) (document : Node) : List Issue :=
  evaluateAll checks document .root

/-- The issues of a document, if it can be read. -/
def validate (checks : List Check) (content : List UInt8) : Except Yaml.ReadError (List Issue) := do
  return run checks (.ofValue (← Yaml.parse content))

end Check

end MtaCheck
