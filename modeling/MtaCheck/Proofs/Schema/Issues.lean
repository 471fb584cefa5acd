import MtaCheck.Proofs.Check.Absence
import MtaCheck.Schema

/-!
# What a schema reports

`Schema.issues` is what the checks of a schema report of a node at a place.  Its
equations follow the form of the schema, and later files use them in place of the
checks:

* a map (`issues_map`) demands a map and then asks each of its entries, whatever the
  node is; of a node that is no map all entries see nothing;
* a sequence (`issues_sequence`) demands an array and asks its schema about each
  element, but only if the demand is met;
* a leaf (`issues_leaf`) asks for the kind and the pattern, and with `required` about
  the presence before and the pattern only if the kind is fine.
-/

namespace MtaCheck

open Check

/-! ## Leaves -/

namespace Rules

/-- What is reported of the kind that a leaf demands. -/
def kindIssues : LeafKind → Node → Location → List Issue
  | .any, _, _ => []
  | .boolean, node, location =>
      reportUnless (Demand.boolean.accepts node) location (.wrongKind .boolean)
  | .oneOf values, node, location =>
      literalIssues values.contains (.notAllowed · values) node location

/-- What is reported of the pattern of a leaf. -/
def patternIssues : Option Regex → Node → Location → List Issue
  | none, _, _ => []
  | some regex, node, location =>
      literalIssues regex.isMatch (.patternMismatch · regex.source) node location

/-- What a leaf reports. -/
def issues (rules : Rules) (node : Node) (location : Location) : List Issue :=
  let kind := kindIssues rules.kind node location
  let pattern := patternIssues rules.pattern node location
  match rules.required with
  | some true =>
      if node.isFound then if kind.isEmpty then pattern else kind
      else [.finding location .missing]
  | _ => kind ++ pattern

@[simp] theorem kindIssues_missing (kind : LeafKind) (location : Location) :
    kindIssues kind .missing location = [] := by
  cases kind <;> rfl

@[simp] theorem patternIssues_missing (pattern : Option Regex) (location : Location) :
    patternIssues pattern .missing location = [] := by
  cases pattern <;> rfl

/-- Of a missing node a leaf reports at most that it has to be there. -/
theorem issues_missing (rules : Rules) (location : Location) :
    rules.issues .missing location =
      if rules.required = some true then [.finding location .missing] else [] := by
  obtain ⟨kind, pattern, required⟩ := rules
  simp only [issues, kindIssues_missing, patternIssues_missing]
  rcases required with _ | _ | _ <;> rfl

theorem evaluateAll_kindChecks (kind : LeafKind) (node : Node) (location : Location) :
    evaluateAll (kindChecks kind) node location = kindIssues kind node location := by
  cases kind with
  | any => simp [kindChecks, kindIssues]
  | boolean => simp [kindChecks, kindIssues]
  | oneOf values => simp [kindChecks, kindIssues, evaluate_oneOf_guarded]

theorem evaluateAll_patternChecks (pattern : Option Regex) (node : Node)
    (location : Location) :
    evaluateAll (patternChecks pattern) node location = patternIssues pattern node location := by
  cases pattern with
  | none => simp [patternChecks, patternIssues]
  | some regex => simp [patternChecks, patternIssues, evaluate_matching_guarded]

/-- A leaf has at most one check of its kind, so that stopping at the first report
makes no difference inside of it. -/
theorem evaluateFirst_kindChecks (kind : LeafKind) (node : Node) (location : Location) :
    evaluateFirst (kindChecks kind) node location = kindIssues kind node location := by
  cases kind <;> simp [kindChecks, kindIssues, evaluate_oneOf_guarded]

theorem evaluateFirst_patternChecks (pattern : Option Regex) (node : Node)
    (location : Location) :
    evaluateFirst (patternChecks pattern) node location =
      patternIssues pattern node location := by
  cases pattern <;> simp [patternChecks, patternIssues, evaluate_matching_guarded]

theorem evaluateAll_checks (rules : Rules) (node : Node) (location : Location) :
    evaluateAll rules.checks node location = rules.issues node location := by
  obtain ⟨kind, pattern, required⟩ := rules
  have hall : evaluateAll (kindChecks kind ++ patternChecks pattern) node location =
      kindIssues kind node location ++ patternIssues pattern node location := by
    rw [evaluateAll_append, evaluateAll_kindChecks, evaluateAll_patternChecks]
  match required with
  | none => exact hall
  | some false =>
      -- a missing node is left out, and nothing is lost by that
      cases node <;> simp [checks, issues, hall, Node.isFound]
  | some true =>
      have hfirst : evaluateFirst (kindChecks kind ++ patternChecks pattern) node location =
          if (kindIssues kind node location).isEmpty then patternIssues pattern node location
          else kindIssues kind node location := by
        rw [evaluateFirst_append, evaluateFirst_kindChecks, evaluateFirst_patternChecks]
      cases hfound : node.isFound <;>
        simp [checks, issues, evaluateFirst_cons, reportUnless, hfirst, hfound]

end Rules

/-! ## Schemas -/

namespace Schema

/-- What a schema reports of a node at a place. -/
def issues (schema : Schema) (node : Node) (location : Location) : List Issue :=
  evaluateAll schema.checks node location

theorem evaluateAll_entryChecks (entries : List (String × Schema)) (node : Node)
    (location : Location) :
    evaluateAll (entryChecks entries) node location =
      entries.flatMap fun entry =>
        entry.2.issues (node.get entry.1) (location.child entry.1) := by
  induction entries with
  | nil => simp [entryChecks]
  | cons entry entries ih => simp [entryChecks, issues, ih]

theorem issues_map (entries : List (String × Schema)) (node : Node) (location : Location) :
    (Schema.map entries).issues node location =
      reportUnless (Demand.map.accepts node) location (.wrongKind .map) ++
        entries.flatMap fun entry =>
          entry.2.issues (node.get entry.1) (location.child entry.1) := by
  rw [issues, checks, evaluateAll_cons, evaluate_kind, evaluateAll_entryChecks]

theorem issues_sequence (item : Schema) (node : Node) (location : Location) :
    (Schema.sequence item).issues node location =
      if Demand.array.accepts node then
        node.elements.zipIdx.flatMap fun element =>
          item.issues element.1 (location.index element.2)
      else [.finding location (.wrongKind .array)] := by
  rw [issues, checks, evaluateAll_cons, evaluateAll_nil, List.append_nil, evaluate_failFast,
    evaluateFirst_cons, evaluateFirst_singleton, evaluate_kind, evaluate_forEach]
  cases Demand.array.accepts node <;> simp [issues, reportUnless]

theorem issues_leaf (rules : Rules) (node : Node) (location : Location) :
    (Schema.leaf rules).issues node location = rules.issues node location := by
  rw [issues, checks, Rules.evaluateAll_checks]

/-! ## The checks of a schema -/

mutual

/-- A schema is turned into composed checks. -/
theorem areComposed_checks : ∀ schema : Schema, areComposed schema.checks = true
  | .map entries => by
      rw [checks, areComposed, areComposed_entryChecks entries]
      rfl
  | .sequence item => by
      simp [checks, areComposed, isComposed, areComposed_checks item]
  | .leaf rules => by
      obtain ⟨demand, pattern, required⟩ := rules
      rw [checks]
      cases demand <;> cases pattern <;> rcases required with _ | _ | _ <;> rfl

theorem areComposed_entryChecks :
    ∀ entries : List (String × Schema), areComposed (entryChecks entries) = true
  | [] => rfl
  | (key, schema) :: entries => by
      simp [entryChecks, areComposed, isComposed, areComposed_checks schema,
        areComposed_entryChecks entries]

end

end Schema

end MtaCheck
