import MtaCheck.Proofs.Check.Absence

/-!
# Where a check begins

A check is handed a node and its place, and it only ever lengthens the place.  So what it finds
does not depend on the place, and neither do the steps from there to what it finds.  A `Sighting`
is a finding with these steps, and a report is relative (`IsRelative`) if one list of sightings
makes up what it says at every place.

Whether a check goes on after a report depends on whether there is a report at all, which is the
same everywhere for a relative one (`IsRelative.orElse`); this is what `failFast` needs.  With the
other lemmas on relative reports, the main result `exists_sightings` is one case for each form of a
check.  It also says whose names the steps have: those of the properties that the check asks for
(`Check.names`).
-/

namespace MtaCheck

/-! ## Sightings -/

/-- A finding some steps away from the node that is looked at. -/
structure Sighting where
  steps : List Step
  finding : Finding

/-- What is reported of a sighting by somebody who began at a place. -/
def Sighting.issue (base : Location) (sighting : Sighting) : Issue :=
  .finding (base.follow sighting.steps) sighting.finding

/-- The same sighting, seen from one step before. -/
def Sighting.after (step : Step) (sighting : Sighting) : Sighting :=
  ⟨step :: sighting.steps, sighting.finding⟩

/-- The steps of a sighting go to properties of these names, and to elements. -/
def Sighting.UsesNames (names : List String) (sighting : Sighting) : Prop :=
  ∀ key, Step.name key ∈ sighting.steps → key ∈ names

/-! ## Relative reports -/

/-- A report that tells of the same sightings at all places. -/
def IsRelative (names : List String) (report : Location → List Issue) : Prop :=
  ∃ sightings : List Sighting, (∀ sighting ∈ sightings, sighting.UsesNames names) ∧
    ∀ base, report base = sightings.map (Sighting.issue base)

section Relative

variable {names names' : List String} {report report' : Location → List Issue}

theorem isRelative_nil : IsRelative names fun _ => [] :=
  ⟨[], by simp, fun _ => rfl⟩

theorem IsRelative.mono (hnames : names ⊆ names') (hreport : IsRelative names report) :
    IsRelative names' report := by
  obtain ⟨sightings, huses, hall⟩ := hreport
  refine ⟨sightings, ?_, hall⟩
  intro sighting hsighting key hkey
  exact hnames (huses sighting hsighting key hkey)

theorem IsRelative.append (hreport : IsRelative names report)
    (hreport' : IsRelative names report') :
    IsRelative names fun base => report base ++ report' base := by
  obtain ⟨sightings, huses, hall⟩ := hreport
  obtain ⟨sightings', huses', hall'⟩ := hreport'
  refine ⟨sightings ++ sightings', List.forall_mem_append.mpr ⟨huses, huses'⟩, ?_⟩
  intro base
  simp only [hall, hall', List.map_append]

/-- Which of two reports is made does not depend on the place. -/
theorem IsRelative.orElse (hreport : IsRelative names report)
    (hreport' : IsRelative names report') :
    IsRelative names fun base => if (report base).isEmpty then report' base else report base := by
  obtain ⟨sightings, huses, hall⟩ := hreport
  cases sightings with
  | nil =>
      obtain ⟨sightings', huses', hall'⟩ := hreport'
      refine ⟨sightings', huses', ?_⟩
      intro base
      simp only [hall, hall', List.map_nil, List.isEmpty_nil, if_true]
  | cons first rest =>
      refine ⟨first :: rest, huses, ?_⟩
      intro base
      simp only [hall, List.map_cons, List.isEmpty_cons, Bool.false_eq_true, if_false]

theorem IsRelative.onlyIf (hreport : IsRelative names report) (wanted : Bool) :
    IsRelative names fun base => if wanted then report base else [] := by
  cases wanted with
  | true => exact hreport
  | false => exact isRelative_nil

/-- Everything is one step further away from one step before. -/
theorem IsRelative.after (step : Step) (hstep : ∀ key, step = .name key → key ∈ names)
    (hreport : IsRelative names report) : IsRelative names fun base => report (base.step step) := by
  obtain ⟨sightings, huses, hall⟩ := hreport
  refine ⟨sightings.map (Sighting.after step), ?_, ?_⟩
  · rw [List.forall_mem_map]
    intro sighting hsighting key hkey
    rcases List.mem_cons.mp hkey with hfirst | hrest
    · exact hstep key hfirst.symm
    · exact huses sighting hsighting key hrest
  · intro base
    simp only [hall, List.map_map]
    rfl

theorem isRelative_flatMap {α : Type} {items : List α} {report : α → Location → List Issue}
    (hitems : ∀ item ∈ items, IsRelative names (report item)) :
    IsRelative names fun base => items.flatMap fun item => report item base := by
  induction items with
  | nil => exact isRelative_nil
  | cons item items ih =>
      rw [List.forall_mem_cons] at hitems
      exact hitems.1.append (ih hitems.2)

theorem isRelative_reportUnless (fine : Bool) (finding : Finding) :
    IsRelative names fun base => Check.reportUnless fine base finding := by
  cases fine with
  | true => exact isRelative_nil
  | false => exact ⟨[⟨[], finding⟩], by simp [Sighting.UsesNames], fun _ => rfl⟩

end Relative

namespace Check

/-! ## The names in a check -/

mutual

/-- The names of the properties that a check asks for, at any depth. -/
def names : Check → List String
  | .property name checks => name :: namesOfAll checks
  | .sequence checks | .failFast checks | .forEach checks | .optional checks => namesOfAll checks
  | _ => []

/-- The names of the properties that some checks ask for. -/
def namesOfAll : List Check → List String
  | [] => []
  | check :: checks => check.names ++ namesOfAll checks

end

theorem names_subset {check : Check} {checks : List Check} (hcheck : check ∈ checks) :
    check.names ⊆ namesOfAll checks := by
  induction checks with
  | nil => cases hcheck
  | cons first rest ih =>
      rw [namesOfAll]
      rcases List.mem_cons.mp hcheck with rfl | hrest
      · exact List.subset_append_left _ _
      · exact List.subset_append_of_subset_right _ (ih hrest)

/-! ## Checks are relative -/

theorem isRelative_evaluateAll {checks : List Check} {node : Node}
    (hchecks : ∀ check ∈ checks, IsRelative check.names (check.evaluate node)) :
    IsRelative (namesOfAll checks) (evaluateAll checks node) := by
  have hall : evaluateAll checks node =
      fun base => checks.flatMap fun check => check.evaluate node base :=
    funext fun base => evaluateAll_eq_flatMap checks node base
  rw [hall]
  exact isRelative_flatMap fun check hcheck => (hchecks check hcheck).mono (names_subset hcheck)

theorem isRelative_evaluateFirst {checks : List Check} {node : Node}
    (hchecks : ∀ check ∈ checks, IsRelative check.names (check.evaluate node)) :
    IsRelative (namesOfAll checks) (evaluateFirst checks node) := by
  induction checks with
  | nil => exact isRelative_nil
  | cons check checks ih =>
      rw [List.forall_mem_cons] at hchecks
      have hfirst : evaluateFirst (check :: checks) node = fun base =>
          if (check.evaluate node base).isEmpty then evaluateFirst checks node base
          else check.evaluate node base :=
        funext fun base => evaluateFirst_cons check checks node base
      rw [hfirst]
      have hnames : check.names ⊆ namesOfAll (check :: checks) := names_subset List.mem_cons_self
      have hcheck := hchecks.1.mono hnames
      have hrest := (ih hchecks.2).mono (List.subset_append_right check.names (namesOfAll checks))
      exact hcheck.orElse hrest

/-- What is said of a literal form is said of it everywhere. -/
theorem isRelative_literal {names : List String} (node : Node) (accepts : String → Bool)
    (fault : String → Finding) :
    IsRelative names fun base =>
      match node.literal? with
      | none => []
      | some value => reportUnless (accepts value) base (fault value) := by
  cases node.literal? with
  | none => exact isRelative_nil
  | some value => exact isRelative_reportUnless _ _

theorem isRelative_evaluate (check : Check) (hcomposed : check.isComposed = true) :
    ∀ node, IsRelative check.names (check.evaluate node) := by
  -- for all nodes at once, since the checks inside look at other nodes
  induction check, hcomposed using composedInduction with
  | property name checks _ ih =>
      intro node
      have hinner : IsRelative (namesOfAll checks) (evaluateAll checks (node.get name)) :=
        isRelative_evaluateAll fun check hcheck => ih check hcheck _
      refine (hinner.mono (List.subset_cons_self name _)).after (.name name) ?_
      rintro _ ⟨⟩
      exact List.mem_cons_self
  | sequence checks _ ih =>
      intro node
      exact isRelative_evaluateAll fun check hcheck => ih check hcheck node
  | failFast checks _ ih =>
      intro node
      exact isRelative_evaluateFirst fun check hcheck => ih check hcheck node
  | forEach checks _ ih =>
      intro node
      refine isRelative_flatMap fun element _ => ?_
      have hinner : IsRelative (namesOfAll checks) (evaluateAll checks element.1) :=
        isRelative_evaluateAll fun check hcheck => ih check hcheck _
      exact hinner.after (.index element.2) nofun
  | required =>
      intro node
      exact isRelative_reportUnless _ _
  | optional checks _ ih =>
      intro node
      have hinner : IsRelative (namesOfAll checks) (evaluateAll checks node) :=
        isRelative_evaluateAll fun check hcheck => ih check hcheck node
      exact hinner.onlyIf node.isFound
  | kind demand =>
      intro node
      exact isRelative_reportUnless _ _
  | matching regex =>
      intro node
      exact isRelative_literal node regex.isMatch (.patternMismatch · regex.source)
  | oneOf values =>
      intro node
      exact isRelative_literal node values.contains (.notAllowed · values)

/-- **What is found does not depend on where a check begins.**  For a check that is composed of the
simple ones and a node there is one list of sightings, such that the check reports of the node, at
whatever place it is taken to stand, these findings in this order, each at the place to which its
steps lead from there. -/
theorem exists_sightings (check : Check) (hcomposed : check.isComposed = true) (node : Node) :
    ∃ sightings : List Sighting,
      (∀ sighting ∈ sightings, ∀ key, .name key ∈ sighting.steps → key ∈ check.names) ∧
        ∀ base, check.evaluate node base = sightings.map (Sighting.issue base) ∧
          (check.evaluate node base).map Issue.message =
            sightings.map fun sighting => sighting.finding.message (base.follow sighting.steps) := by
  obtain ⟨sightings, huses, hall⟩ := isRelative_evaluate check hcomposed node
  refine ⟨sightings, huses, fun base => ⟨hall base, ?_⟩⟩
  rw [hall, List.map_map]
  rfl

/-- A check with a report of its own, one that stops there, and one for the elements below. -/
def rosterCheck : Check :=
  .sequence [.required, .failFast [.property "name" [.required, .kind .scalar], .kind .array],
    .property "members" [.forEach [.required, .property "age" [.required, .oneOf ["1", "2"]]]]]

/-- A person without a name and without an age, and another one that is not there. -/
def roster : Node :=
  .map [(.text "members", .sequence [.mapping [(.text "age", .number (.whole 3))], .null])]

/-- The same roster at the root and under a name, which changes the words for its place. -/
theorem exists_sightings_roster :
    rosterCheck.isComposed = true ∧
      (∃ sightings : List Sighting,
        (rosterCheck.evaluate roster .root).map Issue.message = sightings.map (fun sighting =>
          sighting.finding.message (Location.root.follow sighting.steps)) ∧
        (rosterCheck.evaluate roster ⟨["own"]⟩).map Issue.message = sightings.map
          fun sighting => sighting.finding.message
            (Location.follow ⟨["own"]⟩ sighting.steps)) ∧
      (rosterCheck.evaluate roster .root).map Issue.message =
        ["Missing required property <name> in <root>",
          "the members[0].age property with the 3 value is not one of the expected values [1,2]",
          "Missing required property <[1]> in <root.members>",
          "Missing required property <age> in <members[1]>"] ∧
      (rosterCheck.evaluate roster ⟨["own"]⟩).map Issue.message =
        ["Missing required property <name> in <root.own>",
          "the own.members[0].age property with the 3 value is not one of the expected values [1,2]",
          "Missing required property <[1]> in <own.members>",
          "Missing required property <age> in <own.members[1]>"] := by
  have hcomposed : rosterCheck.isComposed = true := by decide
  obtain ⟨sightings, -, hall⟩ := exists_sightings rosterCheck hcomposed roster
  exact ⟨hcomposed, ⟨sightings, (hall _).2, (hall _).2⟩, by decide +kernel, by decide +kernel⟩

end Check

end MtaCheck
