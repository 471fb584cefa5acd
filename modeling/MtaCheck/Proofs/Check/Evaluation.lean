import MtaCheck.Check

/-!
# Evaluating composed checks

`Check.evaluate` is defined by recursion together with its two readings of a list,
all checks (`evaluateAll`) and the first that reports something (`evaluateFirst`).
The equations here are what the other files read it through:

* `evaluateAll_eq_flatMap` turns the first reading into a `flatMap`, so that the
  lemmas about lists apply;
* `evaluateFirst_append` says which part of a list speaks in the second, and
  `evaluateFirst_isPrefix` that it says nothing that is not said in the first;
* `treeInduction` is the induction along the checks inside of a check;
* `evaluate_matching_guarded` and `evaluate_oneOf_guarded` settle the pair of a
  demand for a scalar and a check of its literal form, in which a missing node is
  silent and a map or a sequence is reported once.
-/

namespace MtaCheck

namespace Check

/-! ## Lists of checks -/

@[simp] theorem evaluateAll_nil (node : Node) (location : Location) :
    evaluateAll [] node location = [] := rfl

@[simp] theorem evaluateAll_cons (check : Check) (checks : List Check) (node : Node)
    (location : Location) :
    evaluateAll (check :: checks) node location =
      check.evaluate node location ++ evaluateAll checks node location := rfl

theorem evaluateAll_eq_flatMap (checks : List Check) (node : Node) (location : Location) :
    evaluateAll checks node location =
      checks.flatMap fun check => check.evaluate node location := by
  induction checks with
  | nil => rw [evaluateAll_nil, List.flatMap_nil]
  | cons check checks ih => rw [evaluateAll_cons, List.flatMap_cons, ih]

theorem evaluateAll_append (first second : List Check) (node : Node) (location : Location) :
    evaluateAll (first ++ second) node location =
      evaluateAll first node location ++ evaluateAll second node location := by
  simp only [evaluateAll_eq_flatMap, List.flatMap_append]

@[simp] theorem evaluateFirst_nil (node : Node) (location : Location) :
    evaluateFirst [] node location = [] := rfl

theorem evaluateFirst_cons (check : Check) (checks : List Check) (node : Node)
    (location : Location) :
    evaluateFirst (check :: checks) node location =
      if (check.evaluate node location).isEmpty then evaluateFirst checks node location
      else check.evaluate node location := by
  rw [evaluateFirst]
  cases check.evaluate node location with
  | nil => simp
  | cons issue issues => simp

@[simp] theorem evaluateFirst_singleton (check : Check) (node : Node) (location : Location) :
    evaluateFirst [check] node location = check.evaluate node location := by
  rw [evaluateFirst_cons, evaluateFirst_nil]
  split
  · rename_i hreport
    exact (List.isEmpty_iff.mp hreport).symm
  · rfl

/-- A check that stops at the first report passes the second part of its list only
if the first part reports nothing. -/
theorem evaluateFirst_append (first second : List Check) (node : Node) (location : Location) :
    evaluateFirst (first ++ second) node location =
      if (evaluateFirst first node location).isEmpty then evaluateFirst second node location
      else evaluateFirst first node location := by
  induction first with
  | nil => simp
  | cons check checks ih =>
      rw [List.cons_append, evaluateFirst_cons, evaluateFirst_cons, ih]
      cases hreport : (check.evaluate node location).isEmpty with
      | false => simp [hreport]
      | true => simp

theorem mem_evaluateAll_iff {checks : List Check} {node : Node} {location : Location}
    {issue : Issue} :
    issue ∈ evaluateAll checks node location ↔
      ∃ check ∈ checks, issue ∈ check.evaluate node location := by
  rw [evaluateAll_eq_flatMap, List.mem_flatMap]

theorem evaluateAll_eq_nil_iff {checks : List Check} {node : Node} {location : Location} :
    evaluateAll checks node location = [] ↔
      ∀ check ∈ checks, check.evaluate node location = [] := by
  rw [evaluateAll_eq_flatMap, List.flatMap_eq_nil_iff]

/-- Stopping at the first report cuts off the end of what all checks report. -/
theorem evaluateFirst_isPrefix (checks : List Check) (node : Node) (location : Location) :
    evaluateFirst checks node location <+: evaluateAll checks node location := by
  induction checks with
  | nil => exact List.prefix_refl []
  | cons check checks ih =>
      rw [evaluateFirst_cons, evaluateAll_cons]
      cases hreport : check.evaluate node location with
      | nil => exact ih
      | cons issue issues => exact List.prefix_append _ _

/-- Stopping at the first report reports something as soon as any check does. -/
theorem evaluateFirst_eq_nil_iff {checks : List Check} {node : Node} {location : Location} :
    evaluateFirst checks node location = [] ↔
      ∀ check ∈ checks, check.evaluate node location = [] := by
  induction checks with
  | nil => simp
  | cons check checks ih =>
      rw [evaluateFirst_cons, List.forall_mem_cons, ← ih]
      cases hreport : check.evaluate node location with
      | nil => simp
      | cons issue issues => simp

theorem evaluateAll_congr {checks : List Check} {node node' : Node} {location : Location}
    (hchecks : ∀ check ∈ checks, check.evaluate node location = check.evaluate node' location) :
    evaluateAll checks node location = evaluateAll checks node' location := by
  rw [evaluateAll_eq_flatMap, evaluateAll_eq_flatMap, List.flatMap_def, List.flatMap_def,
    List.map_congr_left hchecks]

theorem evaluateFirst_congr {checks : List Check} {node node' : Node} {location : Location}
    (hchecks : ∀ check ∈ checks, check.evaluate node location = check.evaluate node' location) :
    evaluateFirst checks node location = evaluateFirst checks node' location := by
  induction checks with
  | nil => rfl
  | cons check checks ih =>
      rw [List.forall_mem_cons] at hchecks
      rw [evaluateFirst_cons, evaluateFirst_cons, hchecks.1, ih hchecks.2]

/-! ## Single checks -/

@[simp] theorem evaluate_property (name : String) (checks : List Check) (node : Node)
    (location : Location) :
    (property name checks).evaluate node location =
      evaluateAll checks (node.get name) (location.child name) := rfl

@[simp] theorem evaluate_sequence (checks : List Check) (node : Node) (location : Location) :
    (sequence checks).evaluate node location = evaluateAll checks node location := rfl

@[simp] theorem evaluate_failFast (checks : List Check) (node : Node) (location : Location) :
    (failFast checks).evaluate node location = evaluateFirst checks node location := rfl

@[simp] theorem evaluate_forEach (checks : List Check) (node : Node) (location : Location) :
    (forEach checks).evaluate node location =
      node.elements.zipIdx.flatMap fun element =>
        evaluateAll checks element.1 (location.index element.2) := rfl

@[simp] theorem evaluate_required (node : Node) (location : Location) :
    required.evaluate node location = reportUnless node.isFound location .missing := rfl

@[simp] theorem evaluate_optional (checks : List Check) (node : Node) (location : Location) :
    (optional checks).evaluate node location =
      if node.isFound then evaluateAll checks node location else [] := rfl

@[simp] theorem evaluate_kind (demand : Demand) (node : Node) (location : Location) :
    (kind demand).evaluate node location =
      reportUnless (demand.accepts node) location (.wrongKind demand) := rfl

/-! ## Induction -/

/-- What holds of a check as soon as it holds of the checks directly inside of it, holds of
every check. -/
theorem treeInduction {motive : Check → Prop}
    (property : ∀ name checks, (∀ check ∈ checks, motive check) → motive (.property name checks))
    (sequence : ∀ checks, (∀ check ∈ checks, motive check) → motive (.sequence checks))
    (failFast : ∀ checks, (∀ check ∈ checks, motive check) → motive (.failFast checks))
    (forEach : ∀ checks, (∀ check ∈ checks, motive check) → motive (.forEach checks))
    (required : motive .required)
    (optional : ∀ checks, (∀ check ∈ checks, motive check) → motive (.optional checks))
    (kind : ∀ demand, motive (.kind demand))
    (matching : ∀ regex, motive (.matching regex))
    (oneOf : ∀ values, motive (.oneOf values))
    (custom : ∀ label run, motive (.custom label run)) (check : Check) : motive check := by
  -- the lists inside of checks are checks that all have the property
  refine @Check.rec motive (fun checks => ∀ check ∈ checks, motive check) property sequence
    failFast forEach required optional kind matching oneOf custom ?_ ?_ check
  · intro check hcheck
    cases hcheck
  · intro first rest hfirst hrest
    exact List.forall_mem_cons.mpr ⟨hfirst, hrest⟩

/-! ## Literal forms behind a demand for a scalar -/

/-- What is reported of a node whose literal form is asked for: of a missing node
nothing, of a scalar the fault of its literal form, and of everything else that it is
no scalar. -/
def literalIssues (accepts : String → Bool) (fault : String → Finding) :
    Node → Location → List Issue
  | .missing, _ => []
  | .scalar leaf, location =>
      reportUnless (accepts leaf.literal) location (fault leaf.literal)
  | .map _, location | .sequence _, location => [.finding location (.wrongKind .scalar)]

theorem evaluate_matching_guarded (regex : Regex) (node : Node) (location : Location) :
    evaluateFirst [kind .scalar, matching regex] node location =
      literalIssues regex.isMatch (.patternMismatch · regex.source) node location := by
  cases node <;>
    simp [evaluateFirst_cons, evaluate, literalIssues, reportUnless, Demand.accepts,
      Node.literal?]

theorem evaluate_oneOf_guarded (values : List String) (node : Node) (location : Location) :
    evaluateFirst [kind .scalar, oneOf values] node location =
      literalIssues values.contains (.notAllowed · values) node location := by
  cases node <;>
    simp [evaluateFirst_cons, evaluate, literalIssues, reportUnless, Demand.accepts,
      Node.literal?]

end Check

end MtaCheck
