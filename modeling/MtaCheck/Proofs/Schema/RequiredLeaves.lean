import Mathlib.Tactic.Choose
import MtaCheck.Proofs.Schema.Grammar
import MtaCheck.Proofs.Schema.Insertion

/-!
# The settings of a leaf

A leaf can say `required: true`, `required: false`, or nothing about it.  The three are compiled to
different checks: the checks of the value behind a `required` at which a report may stop, the same
checks inside of an `optional`, and the bare checks.  This file compares three schemas that differ
only in what one leaf says, wherever it stands (`Schema.Varied`, `Schema.IsSettings`).

* The comparison of the leaves is made once, on the rules that they have been read as
  (`Rules.issues_missing`, `Rules.issues_required_isPrefix`, `Rules.issues_required_eq_nil_iff`).
* The reports of the three schemas are one `Draft` whose gaps are filled by the leaf
  (`exists_draft`).  There is a gap for each node to which the leaf is applied, and what stands
  between the gaps does not depend on the leaf.

The main result, `requiredLaws_of_varied`, puts the two together.
-/

namespace MtaCheck

open Check

/-! ## Reports with gaps -/

/-- A piece of a report: an issue, or a gap for what is to be reported of a node at a place. -/
inductive Piece
  | issue (issue : Issue)
  | gap (node : Node) (location : Location)

/-- A report with gaps. -/
abbrev Draft := List Piece

namespace Draft

/-- A report without gaps. -/
def ofIssues (issues : List Issue) : Draft := issues.map .issue

/-- The nodes of the gaps, with their places. -/
def gaps : Draft → List (Node × Location)
  | [] => []
  | .issue _ :: draft => gaps draft
  | .gap node location :: draft => (node, location) :: gaps draft

/-- The report in which the gaps have been filled. -/
def fill (report : Node → Location → List Issue) : Draft → List Issue
  | [] => []
  | .issue issue :: draft => issue :: fill report draft
  | .gap node location :: draft => report node location ++ fill report draft

variable {α : Type} (report : Node → Location → List Issue)

@[simp] theorem gaps_ofIssues (issues : List Issue) : gaps (ofIssues issues) = [] := by
  induction issues with
  | nil => rfl
  | cons issue issues ih => exact ih

@[simp] theorem fill_ofIssues (issues : List Issue) : fill report (ofIssues issues) = issues := by
  induction issues with
  | nil => rfl
  | cons issue issues ih => exact congrArg (issue :: ·) ih

@[simp] theorem gaps_append (front back : Draft) :
    gaps (front ++ back) = gaps front ++ gaps back := by
  induction front with
  | nil => rfl
  | cons piece front ih => cases piece <;> simp [gaps, ih]

@[simp] theorem fill_append (front back : Draft) :
    fill report (front ++ back) = fill report front ++ fill report back := by
  induction front with
  | nil => rfl
  | cons piece front ih => cases piece <;> simp [fill, ih]

theorem gaps_flatMap (items : List α) (draft : α → Draft) :
    gaps (items.flatMap draft) = items.flatMap fun item => gaps (draft item) := by
  induction items with
  | nil => rfl
  | cons item items ih => rw [List.flatMap_cons, List.flatMap_cons, gaps_append, ih]

theorem fill_flatMap (items : List α) (draft : α → Draft) :
    fill report (items.flatMap draft) = items.flatMap fun item => fill report (draft item) := by
  induction items with
  | nil => rfl
  | cons item items ih => rw [List.flatMap_cons, List.flatMap_cons, fill_append, ih]

/-- A filled report is empty if there was nothing but gaps, and nothing to fill them with. -/
theorem fill_eq_nil_iff (draft : Draft) :
    fill report draft = [] ↔
      fill (fun _ _ => []) draft = [] ∧ ∀ site ∈ gaps draft, report site.1 site.2 = [] := by
  induction draft with
  | nil => simp [fill, gaps]
  | cons piece draft ih =>
      cases piece with
      | issue issue => simp [fill]
      | gap node location =>
          rw [fill, fill, gaps, List.append_eq_nil_iff, List.nil_append, ih, List.forall_mem_cons]
          exact and_left_comm

end Draft

/-! ## Schemas that differ in one place -/

namespace Schema

/-- Schemas, one for each index, that differ only in the schema at the end of a way.  Along the
way, what else stands in them beside `type`, `mapping` and `sequence` makes no difference and may
differ. -/
inductive Varied {ι : Type} (leaf : ι → Node) : List Descent → (ι → Node) → Prop
  | here : Varied leaf [] leaf
  | entry {schema sub : ι → Node} {way : List Descent}
      (before after : List (String × Node)) (name : String)
      (htype : ∀ index, ((schema index).get "type").text? = some "map")
      (hentries : ∀ index,
        ((schema index).get "mapping").entries = before ++ (name, sub index) :: after)
      (hrest : Varied leaf way sub) : Varied leaf (.entry before.length :: way) schema
  | item {schema item : ι → Node} {way : List Descent}
      (htype : ∀ index, ((schema index).get "type").text? = some "seq")
      (hitem : ∀ index, ((schema index).get "sequence").elements = [item index])
      (hrest : Varied leaf way item) : Varied leaf (.item :: way) schema

/-- Leaves that differ only in what they say about being required: nothing, or a truth value. -/
structure IsSettings (leaf : Option Bool → Node) : Prop where
  not_map : ((leaf none).get "type").text? ≠ some "map"
  not_sequence : ((leaf none).get "type").text? ≠ some "seq"
  type_eq : ∀ setting, (leaf setting).get "type" = (leaf none).get "type"
  enums_eq : ∀ setting, (leaf setting).get "enums" = (leaf none).get "enums"
  pattern_eq : ∀ setting, (leaf setting).get "pattern" = (leaf none).get "pattern"
  required_eq : ∀ setting,
    (leaf setting).get "required" = setting.elim .missing fun value => .scalar (.truth value)

end Schema

theorem Node.isMap_of_mem_entries {node : Node} {entry : String × Node}
    (hentry : entry ∈ node.entries) : node.isMap = true := by
  cases node with
  | map entries => rfl
  | _ => cases hentry

namespace CompiledSchema

open Schema (Varied IsSettings appliedAt)

section Varied

variable {ι : Type} {leaf schema : ι → Node} {way : List Schema.Descent}

theorem isValid_leaf_of_varied (hvaried : Varied leaf way schema) {index : ι} :
    (ofNode (schema index)).isValid = true → (ofNode (leaf index)).isValid = true := by
  induction hvaried with
  | here => exact id
  | @entry schema sub way before after name htype hentries hrest ih =>
      intro hvalid
      exact ih (isValid_entry (htype index) hvalid (name, sub index) (by simp [hentries]))
  | item htype hitem hrest ih =>
      intro hvalid
      exact ih (isValid_item (htype index) (hitem index) hvalid)

/-- A valid schema stays valid if a valid leaf is put in the place of another one. -/
theorem isValid_of_varied (hvaried : Varied leaf way schema) {index other : ι}
    (hleaf : (ofNode (leaf other)).isValid = true) :
    (ofNode (schema index)).isValid = true → (ofNode (schema other)).isValid = true := by
  -- in the grammar only the part with the leaf is different
  simp only [Grammar.isValid_iff_wellFormed] at hleaf ⊢
  induction hvaried with
  | here => exact fun _ => hleaf
  | @entry schema sub way before after name htype hentries hrest ih =>
      intro hformed
      rw [Grammar.wellFormed_map_iff (htype _), hentries, List.forall_mem_append,
        List.forall_mem_cons] at hformed ⊢
      obtain ⟨-, hbefore, hsub, hafter⟩ := hformed
      have hentry : (name, sub other) ∈ ((schema other).get "mapping").entries := by
        simp [hentries]
      exact ⟨Node.isMap_of_mem_entries hentry, hbefore, ih hsub, hafter⟩
  | item htype hitem hrest ih =>
      intro hformed
      rw [Grammar.wellFormed_sequence_iff (htype _)] at hformed ⊢
      obtain ⟨source, hsource, hformed⟩ := hformed
      rw [hitem, List.singleton_inj] at hsource
      rw [← hsource] at hformed
      exact ⟨_, hitem other, ih hformed⟩

/-- The reports of schemas that differ in one place differ in one place each time that it is
reached: they are one draft, whose gaps the schema in this place fills. -/
theorem exists_draft (hvaried : Varied leaf way schema)
    (hvalid : ∀ index, (ofNode (schema index)).isValid = true) :
    ∀ node location, ∃ draft : Draft,
      (∀ index, draft.gaps = appliedAt way (schema index) node location) ∧
        ∀ index, (ofNode (schema index)).issues node location =
          draft.fill (ofNode (leaf index)).issues := by
  induction hvaried with
  | here =>
      intro node location
      refine ⟨[.gap node location], fun _ => rfl, ?_⟩
      intro index
      rw [Draft.fill, Draft.fill, List.append_nil]
  | @entry schema sub way before after name htype hentries hrest ih =>
      intro node location
      have hsub : ∀ index, (ofNode (sub index)).isValid = true := by
        intro index
        exact isValid_entry (htype index) (hvalid index) (name, sub index) (by simp [hentries])
      obtain ⟨draft, hgaps, hfill⟩ := ih hsub (node.get name) (location.child name)
      -- the other entries of the mapping are the same for all schemas
      let asked (entries : List (String × Node)) : List Issue :=
        entries.flatMap fun entry =>
          (ofNode entry.2).issues (node.get entry.1) (location.child entry.1)
      let front := reportUnless (Demand.map.accepts node) location (.wrongKind .map) ++ asked before
      refine ⟨Draft.ofIssues front ++ draft ++ Draft.ofIssues (asked after), ?_, ?_⟩
      · intro index
        rw [Schema.appliedAt_entry (hentries index), ← hgaps index]
        simp
      · intro index
        rw [issues_of_map (htype index) (hvalid index), hentries, List.flatMap_append,
          List.flatMap_cons, hfill index]
        simp [front, asked]
  | @item schema item way htype hitem hrest ih =>
      intro node location
      have hsub : ∀ index, (ofNode (item index)).isValid = true := by
        intro index
        exact isValid_item (htype index) (hitem index) (hvalid index)
      choose draft hgaps hfill using ih hsub
      by_cases harray : Demand.array.accepts node = true
      · refine ⟨node.elements.zipIdx.flatMap fun element =>
          draft element.1 (location.index element.2), ?_, ?_⟩
        · intro index
          rw [Schema.appliedAt_item (hitem index), Draft.gaps_flatMap]
          simp only [hgaps _ _ index]
        · intro index
          rw [issues_of_sequence (htype index) (hitem index) (hvalid index), if_pos harray,
            Draft.fill_flatMap]
          simp only [hfill _ _ index]
      · -- without elements the leaf is not reached
        refine ⟨Draft.ofIssues [.finding location (.wrongKind .array)], ?_, ?_⟩
        · intro index
          rw [Schema.appliedAt_item (hitem index), Schema.elements_of_refused harray,
            Draft.gaps_ofIssues]
          rfl
        · intro index
          rw [issues_of_sequence (htype index) (hitem index) (hvalid index), if_neg harray,
            Draft.fill_ofIssues]

end Varied

end CompiledSchema

/-! ## What the settings make of the rules -/

namespace Rules

/-- To say `required: false` is to say nothing. -/
theorem issues_optional (kind : LeafKind) (pattern : Option Regex) :
    issues ⟨kind, pattern, some false⟩ = issues ⟨kind, pattern, none⟩ := rfl

variable {kind : LeafKind} {pattern : Option Regex} {node : Node} {location : Location}

/-- A required leaf stops a report of a found node, but adds nothing to it. -/
theorem issues_required_isPrefix (hfound : node.isFound = true) :
    issues ⟨kind, pattern, some true⟩ node location <+:
      issues ⟨kind, pattern, none⟩ node location := by
  simp only [issues, hfound, if_true]
  cases kindIssues kind node location with
  | nil => exact List.prefix_refl _
  | cons issue issues => exact List.prefix_append _ _

theorem issues_required_eq_nil_iff :
    issues ⟨kind, pattern, some true⟩ node location = [] ↔
      issues ⟨kind, pattern, none⟩ node location = [] ∧ node.isFound = true := by
  simp only [issues]
  cases hfound : node.isFound with
  | false => simp
  | true => cases kindIssues kind node location <;> simp

/-- A report is empty with a required leaf in its gaps if it is empty with the leaf that says
nothing, and if each gap is about a node that is there. -/
theorem fill_required_eq_nil_iff (kind : LeafKind) (pattern : Option Regex) (draft : Draft) :
    draft.fill (issues ⟨kind, pattern, some true⟩) = [] ↔
      draft.fill (issues ⟨kind, pattern, none⟩) = [] ∧
        ∀ site ∈ draft.gaps, site.1.isFound = true := by
  rw [Draft.fill_eq_nil_iff (issues ⟨kind, pattern, some true⟩),
    Draft.fill_eq_nil_iff (issues ⟨kind, pattern, none⟩)]
  simp only [issues_required_eq_nil_iff]
  constructor
  · rintro ⟨hframe, hsites⟩
    refine ⟨⟨hframe, ?_⟩, ?_⟩
    · intro site hsite
      exact (hsites site hsite).1
    · intro site hsite
      exact (hsites site hsite).2
  · rintro ⟨⟨hframe, hsilent⟩, hfound⟩
    refine ⟨hframe, ?_⟩
    intro site hsite
    exact ⟨hsilent site hsite, hfound site hsite⟩

/-- Leaves that differ only in their setting are read as rules that do. -/
theorem ofNode_settings {leaf : Option Bool → Node} (hleaf : Schema.IsSettings leaf)
    {setting : Option Bool} {rules : Rules} (hread : Rules.ofNode (leaf setting) = .ok rules)
    (other : Option Bool) : Rules.ofNode (leaf other) = .ok ⟨rules.kind, rules.pattern, other⟩ := by
  obtain ⟨hkind, hpattern, -⟩ := ofNode_eq_ok hread
  have hkind' : readKind (leaf other) = .ok rules.kind := by
    rw [← hkind]
    simp only [readKind, values, hleaf.type_eq other, hleaf.type_eq setting,
      hleaf.enums_eq other, hleaf.enums_eq setting]
  have hpattern' : readPattern (leaf other) = .ok rules.pattern := by
    rw [← hpattern]
    simp only [readPattern, hleaf.pattern_eq other, hleaf.pattern_eq setting]
  have hrequired : readRequired (leaf other) = .ok other := by
    rw [readRequired, hleaf.required_eq]
    cases other <;> rfl
  rw [Rules.ofNode, hkind', hpattern', hrequired]

end Rules

namespace CompiledSchema

open Schema (Varied IsSettings appliedAt)

/-- If one of the leaves is valid, then all are, and they report by the same rules. -/
theorem exists_rules_of_settings {leaf : Option Bool → Node} (hleaf : IsSettings leaf)
    {setting : Option Bool} (hvalid : (ofNode (leaf setting)).isValid = true) :
    ∃ kind pattern, ∀ other, (ofNode (leaf other)).isValid = true ∧
      (ofNode (leaf other)).issues = Rules.issues ⟨kind, pattern, other⟩ := by
  have hmap : ∀ other, ((leaf other).get "type").text? ≠ some "map" := by
    intro other
    rw [hleaf.type_eq]
    exact hleaf.not_map
  have hsequence : ∀ other, ((leaf other).get "type").text? ≠ some "seq" := by
    intro other
    rw [hleaf.type_eq]
    exact hleaf.not_sequence
  obtain ⟨rules, hrules, -⟩ := exists_rules_of_leaf (hmap setting) (hsequence setting) hvalid
  refine ⟨rules.kind, rules.pattern, fun other => ?_⟩
  have hread : Schema.ofNode (leaf other) = .ok (.leaf ⟨rules.kind, rules.pattern, other⟩) := by
    rw [Schema.ofNode_of_leaf (hmap other) (hsequence other), Rules.ofNode_settings hleaf hrules]
    rfl
  refine ⟨isValid_ofNode_iff.mpr ⟨_, hread⟩, ?_⟩
  funext node location
  rw [issues_ofNode hread, Schema.issues_leaf]

/-- How three schemas are related that differ only in the setting of one leaf. -/
structure RequiredLaws (way : List Schema.Descent) (leaf schema : Option Bool → Node) : Prop where
  valid : ∀ setting, (ofNode (schema setting)).isValid = true
  /-- To say `required: false` is to say nothing. -/
  optional : ∀ document, run (ofNode (schema (some false))).checks document =
    run (ofNode (schema none)).checks document
  /-- The reports differ only in what the leaf reports where it is applied. -/
  places : ∀ document, ∃ draft : Draft,
    (∀ setting, draft.gaps = appliedAt way (schema setting) document .root) ∧
      ∀ setting, run (ofNode (schema setting)).checks document =
        draft.fill (ofNode (leaf setting)).issues
  /-- Of a missing node only the required leaf reports something, and just that it is missing. -/
  missing : ∀ location,
    (ofNode (leaf (some true))).issues .missing location = [.finding location .missing] ∧
      (ofNode (leaf none)).issues .missing location = []
  /-- Of a found node it reports the first part of what the leaf reports otherwise, and nothing
  only if that is nothing. -/
  found : ∀ node location, node.isFound = true →
    (ofNode (leaf (some true))).issues node location <+:
        (ofNode (leaf none)).issues node location ∧
      ((ofNode (leaf (some true))).issues node location = [] ↔
        (ofNode (leaf none)).issues node location = [])
  /-- What is accepted otherwise is rejected just if the leaf is applied to a missing node. -/
  accepted : ∀ document, run (ofNode (schema (some true))).checks document = [] ↔
    run (ofNode (schema none)).checks document = [] ∧
      ∀ site ∈ appliedAt way (schema none) document .root, site.1.isFound = true

/-- **The three settings of `required`.**  Let schemas differ only in whether one leaf, anywhere in
them, says `required: true`, `required: false` or nothing about it.  If one of them is valid, then
all are.  The second and the third report the same of every document.  The first rejects, of the
documents that they accept, just those in which the leaf is applied to a missing node; there it
reports that it is missing, and of a found node a first part of what the others report, which is
empty only if theirs is. -/
theorem requiredLaws_of_varied (way : List Schema.Descent) (leaf schema : Option Bool → Node)
    (hvaried : Varied leaf way schema) (hleaf : IsSettings leaf) (setting : Option Bool)
    (hvalid : (ofNode (schema setting)).isValid = true) : RequiredLaws way leaf schema := by
  obtain ⟨kind, pattern, hrules⟩ :=
    exists_rules_of_settings hleaf (isValid_leaf_of_varied hvaried hvalid)
  have hissues : ∀ other, (ofNode (leaf other)).issues = Rules.issues ⟨kind, pattern, other⟩ :=
    fun other => (hrules other).2
  have hvalid' : ∀ other, (ofNode (schema other)).isValid = true := by
    intro other
    exact isValid_of_varied hvaried (hrules other).1 hvalid
  have hdrafts := fun document => exists_draft hvaried hvalid' document .root
  refine ⟨hvalid', ?_, hdrafts, ?_, ?_, ?_⟩
  · intro document
    obtain ⟨draft, -, hfill⟩ := hdrafts document
    rw [run_eq_issues, run_eq_issues, hfill, hfill, hissues, hissues, Rules.issues_optional]
  · intro location
    rw [hissues, hissues, Rules.issues_missing, Rules.issues_missing]
    exact ⟨rfl, rfl⟩
  · intro node location hfound
    rw [hissues, hissues]
    refine ⟨Rules.issues_required_isPrefix hfound, ?_⟩
    rw [Rules.issues_required_eq_nil_iff, hfound]
    exact and_iff_left rfl
  · intro document
    obtain ⟨draft, hgaps, hfill⟩ := hdrafts document
    rw [run_eq_issues, run_eq_issues, hfill, hfill, ← hgaps none, hissues, hissues]
    exact Rules.fill_required_eq_nil_iff kind pattern draft

/-- A grade, which is one of two characters, with a setting. -/
def gradeLeaf (setting : Option Bool) : Yaml.Value :=
  .mapping ([(.text "type", .text "enum"), (.text "enums", .sequence [.text "a", .text "b"]),
    (.text "pattern", .text "/^.$/")] ++
      (setting.map fun value => (Yaml.Value.text "required", Yaml.Value.truth value)).toList)

/-- A sequence of parts that have a grade and a note. -/
def gradedSchema (setting : Option Bool) : Node :=
  .ofValue (.mapping [(.text "type", .text "map"), (.text "mapping", .mapping [
    (.text "id", .null),
    (.text "parts", .mapping [(.text "type", .text "seq"), (.text "sequence", .sequence [
      .mapping [(.text "type", .text "map"), (.text "mapping", .mapping [
        (.text "grade", gradeLeaf setting),
        (.text "note", .mapping [(.text "required", .truth true)])])]])])])])

/-- Parts with a grade, without one, with a sequence in its place, and with a bad one. -/
def gradedDocument : Node :=
  .ofValue (.mapping [(.text "parts", .sequence [
    .mapping [(.text "grade", .text "a")],
    .mapping [(.text "grade", .null), (.text "note", .text "x")],
    .mapping [(.text "grade", .sequence []), (.text "note", .text "x")],
    .mapping [(.text "grade", .text "zz"), (.text "note", .text "x")]])])

theorem varied_gradedSchema :
    Varied (fun setting => .ofValue (gradeLeaf setting)) [.entry 1, .item, .entry 0]
      gradedSchema := by
  refine .entry [("id", .missing)] [] "parts" (fun _ => rfl) (fun _ => rfl)
    (.item (fun _ => rfl) (fun _ => rfl) ?_)
  exact .entry [] [("note", .ofValue (.mapping [(.text "required", .truth true)]))] "grade"
    (fun _ => rfl) (fun _ => rfl) .here

theorem isSettings_gradeLeaf : IsSettings fun setting => .ofValue (gradeLeaf setting) where
  not_map := by decide +kernel
  not_sequence := by decide +kernel
  type_eq setting := by rcases setting with _ | _ | _ <;> rfl
  enums_eq setting := by rcases setting with _ | _ | _ <;> rfl
  pattern_eq setting := by rcases setting with _ | _ | _ <;> rfl
  required_eq setting := by rcases setting with _ | _ | _ <;> rfl

/-- The missing grade is reported, and of the others one issue in the place of two. -/
theorem requiredLaws_gradedSchema :
    Varied (fun setting => .ofValue (gradeLeaf setting)) [.entry 1, .item, .entry 0]
        gradedSchema ∧
      IsSettings (fun setting => .ofValue (gradeLeaf setting)) ∧
      (ofNode (gradedSchema none)).isValid = true ∧
      RequiredLaws [.entry 1, .item, .entry 0] (fun setting => .ofValue (gradeLeaf setting))
        gradedSchema ∧
      (run (ofNode (gradedSchema none)).checks gradedDocument).map Issue.message =
        ["Missing required property <note> in <parts[0]>",
          "the parts[2].grade property must be a scalar value",
          "the parts[2].grade property must be a scalar value",
          "the parts[3].grade property with the zz value is not one of the expected values [a,b]",
          "the parts[3].grade property with the zz value does not match the ^.$ pattern"] ∧
      (run (ofNode (gradedSchema (some true))).checks gradedDocument).map Issue.message =
        ["Missing required property <note> in <parts[0]>",
          "Missing required property <grade> in <parts[1]>",
          "the parts[2].grade property must be a scalar value",
          "the parts[3].grade property with the zz value is not one of the expected values "
            ++ "[a,b]"] := by
  have hvalid : (ofNode (gradedSchema none)).isValid = true := by decide +kernel
  exact ⟨varied_gradedSchema, isSettings_gradeLeaf, hvalid,
    requiredLaws_of_varied _ _ _ varied_gradedSchema isSettings_gradeLeaf none hvalid,
    by decide +kernel, by decide +kernel⟩

end CompiledSchema

end MtaCheck
