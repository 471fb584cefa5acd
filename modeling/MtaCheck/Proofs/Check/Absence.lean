import MtaCheck.Proofs.Check.Evaluation
import MtaCheck.Proofs.Check.Wording
import MtaCheck.Proofs.Node.Lookup

/-!
# Checks on nothing

A schema hands the value of an absent property to its checks as the missing node, and a leaf that
says nothing about being required leaves its checks unguarded.  So a check must not take the
absence of a node for a fault of the node.  This holds of each simple check but `required`, and
composing checks keeps it: `property` leads from nothing to nothing, `forEach` finds no elements in
it, and `optional` does not even ask.

Checks of another origin may do as they like, so the statements are about the others
(`Check.isComposed`), by the induction along them (`composedInduction`).
`Check.asksForPresence` looks for a `required` that nothing guards; by
`evaluate_missing_eq_nil_iff` it decides whether anything is reported of a missing node.
-/

namespace MtaCheck

/-- The missing node is what anybody may demand. -/
@[simp] theorem Demand.accepts_missing (demand : Demand) : demand.accepts .missing = true := by
  cases demand <;> rfl

namespace Check

/-! ## Kinds of checks -/

mutual

/-- Whether a check is composed of the simple checks, without one of another origin. -/
def isComposed : Check → Bool
  | .property _ checks | .sequence checks | .failFast checks | .forEach checks
  | .optional checks => areComposed checks
  | .custom _ _ => false
  | _ => true

/-- Whether this is so for each of some checks. -/
def areComposed : List Check → Bool
  | [] => true
  | check :: checks => check.isComposed && areComposed checks

end

mutual

/-- Whether a check asks for something to be there without having found anything before: there
is a `required` in it that stands neither in an `optional` nor in a `forEach`. -/
def asksForPresence : Check → Bool
  | .required => true
  | .property _ checks | .sequence checks | .failFast checks => anyAsksForPresence checks
  | _ => false

/-- Whether this is so for one of some checks. -/
def anyAsksForPresence : List Check → Bool
  | [] => false
  | check :: checks => check.asksForPresence || anyAsksForPresence checks

end

theorem areComposed_iff {checks : List Check} :
    areComposed checks = true ↔ ∀ check ∈ checks, check.isComposed = true := by
  induction checks with
  | nil => simp [areComposed]
  | cons check checks ih => rw [areComposed, Bool.and_eq_true, ih, List.forall_mem_cons]

theorem anyAsksForPresence_eq_false_iff {checks : List Check} :
    anyAsksForPresence checks = false ↔ ∀ check ∈ checks, check.asksForPresence = false := by
  induction checks with
  | nil => simp [anyAsksForPresence]
  | cons check checks ih =>
      rw [anyAsksForPresence, Bool.or_eq_false_iff, ih, List.forall_mem_cons]

/-- What holds of a composed check as soon as it holds of the checks directly inside of it, holds
of every composed check. -/
theorem composedInduction {motive : (check : Check) → check.isComposed = true → Prop}
    (property : ∀ name checks (hchecks : ∀ check ∈ checks, check.isComposed = true),
      (∀ check, ∀ hcheck : check ∈ checks, motive check (hchecks check hcheck)) →
        motive (.property name checks) (areComposed_iff.mpr hchecks))
    (sequence : ∀ checks (hchecks : ∀ check ∈ checks, check.isComposed = true),
      (∀ check, ∀ hcheck : check ∈ checks, motive check (hchecks check hcheck)) →
        motive (.sequence checks) (areComposed_iff.mpr hchecks))
    (failFast : ∀ checks (hchecks : ∀ check ∈ checks, check.isComposed = true),
      (∀ check, ∀ hcheck : check ∈ checks, motive check (hchecks check hcheck)) →
        motive (.failFast checks) (areComposed_iff.mpr hchecks))
    (forEach : ∀ checks (hchecks : ∀ check ∈ checks, check.isComposed = true),
      (∀ check, ∀ hcheck : check ∈ checks, motive check (hchecks check hcheck)) →
        motive (.forEach checks) (areComposed_iff.mpr hchecks))
    (required : motive .required rfl)
    (optional : ∀ checks (hchecks : ∀ check ∈ checks, check.isComposed = true),
      (∀ check, ∀ hcheck : check ∈ checks, motive check (hchecks check hcheck)) →
        motive (.optional checks) (areComposed_iff.mpr hchecks))
    (kind : ∀ demand, motive (.kind demand) rfl)
    (matching : ∀ regex, motive (.matching regex) rfl)
    (oneOf : ∀ values, motive (.oneOf values) rfl)
    (check : Check) (hcomposed : check.isComposed = true) : motive check hcomposed := by
  -- a composed check has only composed checks inside; a check of its own kind is not composed
  induction check using treeInduction with
  | property name checks ih =>
      have hchecks := areComposed_iff.mp hcomposed
      exact property name checks hchecks fun check hcheck => ih check hcheck (hchecks check hcheck)
  | sequence checks ih =>
      have hchecks := areComposed_iff.mp hcomposed
      exact sequence checks hchecks fun check hcheck => ih check hcheck (hchecks check hcheck)
  | failFast checks ih =>
      have hchecks := areComposed_iff.mp hcomposed
      exact failFast checks hchecks fun check hcheck => ih check hcheck (hchecks check hcheck)
  | forEach checks ih =>
      have hchecks := areComposed_iff.mp hcomposed
      exact forEach checks hchecks fun check hcheck => ih check hcheck (hchecks check hcheck)
  | required => exact required
  | optional checks ih =>
      have hchecks := areComposed_iff.mp hcomposed
      exact optional checks hchecks fun check hcheck => ih check hcheck (hchecks check hcheck)
  | kind demand => exact kind demand
  | matching regex => exact matching regex
  | oneOf values => exact oneOf values
  | custom label run => cases hcomposed

/-! ## What is reported of nothing -/

/-- What is reported if nothing is found at the end of some names below a place. -/
def absence (location : Location) (names : List String) : Issue :=
  .finding (location.follow (names.map .name)) .missing

theorem message_absence (location : Location) (names : List String) :
    (absence location names).message =
      "Missing required property <" ++ (location.follow (names.map .name)).leaf?.getD "" ++ "> in <"
        ++ (location.follow (names.map .name)).parent.display ++ ">" := by
  rw [absence, Issue.message_finding, Finding.message_missing]

/-- Whatever is reported of a missing node is that something is missing, there or below. -/
theorem exists_absence_of_mem_evaluate (check : Check) (hcomposed : check.isComposed = true) :
    ∀ location, ∀ issue ∈ check.evaluate .missing location,
      ∃ names, issue = absence location names := by
  -- for all places at once, since a property is one name further down
  induction check, hcomposed using composedInduction with
  | property name checks _ ih =>
      intro location issue hissue
      obtain ⟨check, hcheck, hinner⟩ := mem_evaluateAll_iff.mp hissue
      obtain ⟨names, rfl⟩ := ih check hcheck (location.child name) issue hinner
      exact ⟨name :: names, rfl⟩
  | sequence checks _ ih =>
      intro location issue hissue
      obtain ⟨check, hcheck, hinner⟩ := mem_evaluateAll_iff.mp hissue
      exact ih check hcheck location issue hinner
  | failFast checks _ ih =>
      intro location issue hissue
      have hfront := evaluateFirst_isPrefix checks .missing location
      have hall : issue ∈ evaluateAll checks .missing location := hfront.subset hissue
      obtain ⟨check, hcheck, hinner⟩ := mem_evaluateAll_iff.mp hall
      exact ih check hcheck location issue hinner
  | required =>
      intro location issue hissue
      exact ⟨[], List.mem_singleton.mp hissue⟩
  | kind demand =>
      intro location issue hissue
      simp [reportUnless] at hissue
  | forEach | optional | matching | oneOf =>
      intro location issue hissue
      cases hissue

/-- Something is reported of a missing node just if an unguarded `required` asks for it. -/
theorem evaluate_missing_eq_nil_iff (check : Check) (hcomposed : check.isComposed = true) :
    ∀ location, check.evaluate .missing location = [] ↔ check.asksForPresence = false := by
  induction check, hcomposed using composedInduction with
  | property name checks _ ih =>
      intro location
      rw [evaluate_property, asksForPresence, anyAsksForPresence_eq_false_iff,
        evaluateAll_eq_nil_iff]
      exact forall₂_congr fun check hcheck => ih check hcheck (location.child name)
  | sequence checks _ ih =>
      intro location
      rw [evaluate_sequence, asksForPresence, anyAsksForPresence_eq_false_iff,
        evaluateAll_eq_nil_iff]
      exact forall₂_congr fun check hcheck => ih check hcheck location
  | failFast checks _ ih =>
      intro location
      -- silent checks do not keep the others from being made
      rw [evaluate_failFast, asksForPresence, anyAsksForPresence_eq_false_iff,
        evaluateFirst_eq_nil_iff]
      exact forall₂_congr fun check hcheck => ih check hcheck location
  | required =>
      intro location
      simp [reportUnless, Node.isFound, asksForPresence]
  | kind demand =>
      intro location
      simp [reportUnless, asksForPresence]
  | forEach checks =>
      intro location
      simp [Node.elements, asksForPresence]
  | optional checks =>
      intro location
      simp [Node.isFound, asksForPresence]
  | matching regex =>
      intro location
      simp [evaluate, Node.literal?, asksForPresence]
  | oneOf values =>
      intro location
      simp [evaluate, Node.literal?, asksForPresence]

/-- **Checks are safe on what is absent.**  A check that is composed of the simple ones says of a
missing node only that something required is missing, at that place or at one that names lead to
from there.  It says nothing at all just if each `required` in it stands in an `optional` or in
a `forEach`. -/
theorem absenceSafe_of_isComposed (check : Check) (hcomposed : check.isComposed = true)
    (location : Location) :
    (∀ issue ∈ check.evaluate .missing location, ∃ names : List String,
      issue = .finding (location.follow (names.map .name)) .missing ∧
        issue.message = "Missing required property <"
          ++ (location.follow (names.map .name)).leaf?.getD "" ++ "> in <"
          ++ (location.follow (names.map .name)).parent.display ++ ">") ∧
      (check.evaluate .missing location = [] ↔ check.asksForPresence = false) := by
  refine ⟨?_, evaluate_missing_eq_nil_iff check hcomposed location⟩
  intro issue hissue
  obtain ⟨names, rfl⟩ := exists_absence_of_mem_evaluate check hcomposed location issue hissue
  exact ⟨names, rfl, message_absence location names⟩

/-- A check with a `required` of its own in front, whose demand for a map comes to nothing. -/
def addressCheck : Check :=
  .property "address" [.failFast [.kind .map, .property "city" [.required, .oneOf ["Rome"]],
    .property "street" [.required]], .optional [.required, .kind .scalar], .forEach [.required]]

/-- The same with each `required` behind an `optional` or a `forEach`. -/
def guardedAddressCheck : Check :=
  .property "address" [.sequence [.kind .map, .optional [.property "city" [.required]]],
    .matching ⟨"", .empty⟩, .forEach [.required]]

/-- Of a missing person the address has no city; the street is not asked for any more. -/
theorem absenceSafe_addressCheck :
    addressCheck.isComposed = true ∧ guardedAddressCheck.isComposed = true ∧
      (addressCheck.evaluate .missing .root).map Issue.message =
        ["Missing required property <city> in <root.address>"] ∧
      (∀ issue ∈ addressCheck.evaluate .missing .root, ∃ names : List String,
        issue = .finding (Location.root.follow (names.map .name)) .missing) ∧
      guardedAddressCheck.evaluate .missing .root = [] := by
  have hcomposed : addressCheck.isComposed = true := by decide
  have hguarded : guardedAddressCheck.isComposed = true := by decide
  obtain ⟨honly, -⟩ := absenceSafe_of_isComposed addressCheck hcomposed .root
  obtain ⟨-, hsilent⟩ := absenceSafe_of_isComposed guardedAddressCheck hguarded .root
  refine ⟨hcomposed, hguarded, by decide +kernel, ?_, hsilent.mpr (by decide)⟩
  intro issue hissue
  obtain ⟨names, hissue, -⟩ := honly issue hissue
  exact ⟨names, hissue⟩

end Check

end MtaCheck
