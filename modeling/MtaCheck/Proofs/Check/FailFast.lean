import MtaCheck.Proofs.Check.Evaluation

/-!
# Stopping at the first report

`Check.exhaustive` is a check in which nothing stops early: each `failFast` inside of it, however
deep, has become a `sequence`.  The two are compared by `Trims`, which says of two lists of issues
that the first leaves some of the second out but never all of them.

* A single `failFast` cuts off the end of what its checks report (`evaluateFirst_isPrefix`), and
  so it trims it (`trims_evaluateFirst`).
* What is trimmed in parts is trimmed as a whole (`Trims.append`, `Trims.flatMap`), and what is
  trimmed twice is trimmed (`Trims.trans`).  The second is what a `failFast` inside of another
  one needs.

The main result is `evaluate_exhaustive`: stopping early shortens a report, but a node that passes
with it passes without it.
-/

namespace MtaCheck

/-! ## Trimmed lists -/

/-- The first list is the second without some of its items, but not without all of them. -/
structure Trims {α : Type} (short full : List α) : Prop where
  sublist : short.Sublist full
  eq_nil : short = [] → full = []

namespace Trims

variable {α β : Type} {short full short' full' : List α}

theorem refl (items : List α) : Trims items items where
  sublist := List.Sublist.refl items
  eq_nil := id

theorem trans {middle : List α} (hfirst : Trims short middle) (hsecond : Trims middle full) :
    Trims short full where
  sublist := hfirst.sublist.trans hsecond.sublist
  eq_nil := by
    intro hshort
    exact hsecond.eq_nil (hfirst.eq_nil hshort)

theorem append (hfront : Trims short full) (hback : Trims short' full') :
    Trims (short ++ short') (full ++ full') where
  sublist := hfront.sublist.append hback.sublist
  eq_nil := by
    intro hshort
    obtain ⟨hfrontShort, hbackShort⟩ := List.append_eq_nil_iff.mp hshort
    rw [hfront.eq_nil hfrontShort, hback.eq_nil hbackShort, List.append_nil]

theorem flatMap {items : List β} {trimmed whole : β → List α}
    (hitems : ∀ item ∈ items, Trims (trimmed item) (whole item)) :
    Trims (items.flatMap trimmed) (items.flatMap whole) := by
  induction items with
  | nil => exact refl []
  | cons item items ih =>
      rw [List.forall_mem_cons] at hitems
      rw [List.flatMap_cons, List.flatMap_cons]
      exact hitems.1.append (ih hitems.2)

theorem eq_nil_iff (htrims : Trims short full) : short = [] ↔ full = [] := by
  constructor
  · exact htrims.eq_nil
  · intro hfull
    have hsublist := htrims.sublist
    rw [hfull] at hsublist
    exact List.sublist_nil.mp hsublist

end Trims

namespace Check

/-! ## Checks that never stop early -/

mutual

/-- The check that makes all checks of a list wherever they were made up to the first report. -/
def exhaustive : Check → Check
  | .property name checks => .property name (exhaustiveAll checks)
  | .sequence checks => .sequence (exhaustiveAll checks)
  | .failFast checks => .sequence (exhaustiveAll checks)
  | .forEach checks => .forEach (exhaustiveAll checks)
  | .optional checks => .optional (exhaustiveAll checks)
  | check => check

/-- Each of some checks without stopping early. -/
def exhaustiveAll : List Check → List Check
  | [] => []
  | check :: checks => check.exhaustive :: exhaustiveAll checks

end

/-! ## What stopping early leaves out -/

/-- One `failFast` trims the report of its checks. -/
theorem trims_evaluateFirst (checks : List Check) (node : Node) (location : Location) :
    Trims (evaluateFirst checks node location) (evaluateAll checks node location) where
  sublist := (evaluateFirst_isPrefix checks node location).sublist
  eq_nil := by
    intro hsilent
    rw [evaluateAll_eq_nil_iff]
    exact evaluateFirst_eq_nil_iff.mp hsilent

theorem trims_evaluateAll {checks : List Check}
    (hchecks : ∀ check ∈ checks, ∀ node location,
      Trims (check.evaluate node location) (check.exhaustive.evaluate node location))
    (node : Node) (location : Location) :
    Trims (evaluateAll checks node location)
      (evaluateAll (exhaustiveAll checks) node location) := by
  induction checks with
  | nil => exact .refl []
  | cons check checks ih =>
      rw [List.forall_mem_cons] at hchecks
      rw [exhaustiveAll, evaluateAll_cons, evaluateAll_cons]
      exact (hchecks.1 node location).append (ih hchecks.2)

theorem trims_evaluate (check : Check) : ∀ node location,
    Trims (check.evaluate node location) (check.exhaustive.evaluate node location) := by
  -- by induction on the check, for all nodes and places at once, since checks go down a document
  induction check using treeInduction with
  | property name checks ih =>
      intro node location
      rw [exhaustive, evaluate_property, evaluate_property]
      exact trims_evaluateAll ih (node.get name) (location.child name)
  | sequence checks ih =>
      intro node location
      rw [exhaustive, evaluate_sequence, evaluate_sequence]
      exact trims_evaluateAll ih node location
  | failFast checks ih =>
      intro node location
      rw [exhaustive, evaluate_failFast, evaluate_sequence]
      -- trimmed once for stopping here, and once for stopping further inside
      have houter := trims_evaluateFirst checks node location
      have hinner := trims_evaluateAll ih node location
      exact houter.trans hinner
  | forEach checks ih =>
      intro node location
      rw [exhaustive, evaluate_forEach, evaluate_forEach]
      refine .flatMap fun element _ => ?_
      exact trims_evaluateAll ih element.1 (location.index element.2)
  | optional checks ih =>
      intro node location
      rw [exhaustive, evaluate_optional, evaluate_optional]
      split
      · exact trims_evaluateAll ih node location
      · exact .refl []
  | required | kind | matching | oneOf | custom =>
      intro node location
      exact .refl _

/-- **Stopping early trims reports but never changes the verdict.**  Let each `failFast` in a
check be replaced by a `sequence`, at every depth.  Then all issues of the check are reported as
before, in their order and perhaps among others, and there are none before if and only if there
are none after.  A single `failFast` reports the first part of what its checks report together. -/
theorem evaluate_exhaustive (check : Check) (node : Node) (location : Location) :
    (check.evaluate node location).Sublist (check.exhaustive.evaluate node location) ∧
      (check.evaluate node location = [] ↔ check.exhaustive.evaluate node location = []) ∧
      ∀ checks : List Check,
        (failFast checks).evaluate node location <+: (sequence checks).evaluate node location := by
  have htrims := trims_evaluate check node location
  refine ⟨htrims.sublist, htrims.eq_nil_iff, ?_⟩
  intro checks
  rw [evaluate_failFast, evaluate_sequence]
  exact evaluateFirst_isPrefix checks node location

/-- A loop over elements, each of which is asked for a truth value twice.  The first demand is
behind one for a scalar; stopping early reports one issue for each element that is no truth value. -/
example :
    let node := Node.ofValue (.sequence [.mapping [], .truth true, .text "on"])
    let first := [kind .scalar, kind .boolean]
    ((forEach [failFast [failFast first, kind .boolean]]).evaluate node .root).map Issue.message =
        ["the root[0] property must be a scalar value", "the root[2] property must be a boolean"] ∧
      ((forEach [sequence [sequence first, kind .boolean]]).evaluate node .root).map Issue.message =
        ["the root[0] property must be a scalar value", "the root[0] property must be a boolean",
          "the root[0] property must be a boolean", "the root[2] property must be a boolean",
          "the root[2] property must be a boolean"] := by
  decide +kernel

end Check

end MtaCheck
