import MtaCheck.Proofs.Schema.Issues

/-!
# What a schema accepts

`Schema.Accepts` says by recursion on a schema which nodes are in order, without checks,
places or messages.  By `issues_eq_nil_iff` these are the nodes of which the schema reports
nothing, at whatever place they stand.

The demands on a node are written with the few words of the first section: it has a literal
form of some kind (`HasLiteral`), it is a sequence of such nodes (`IsSequenceOf`), or it may
also be missing (`MissingOr`).
-/

namespace MtaCheck

open Check

/-! ## Demands on a node -/

namespace Node

/-- A scalar whose literal form is in order. -/
def HasLiteral (accepts : String → Prop) (node : Node) : Prop :=
  ∃ leaf, node = .scalar leaf ∧ accepts leaf.literal

/-- A truth value. -/
def IsTruth (node : Node) : Prop := ∃ value, node = .scalar (.truth value)

/-- A sequence whose elements are in order. -/
def IsSequenceOf (accepts : Node → Prop) (node : Node) : Prop :=
  node.isSequence = true ∧ ∀ element ∈ node.elements, accepts element

/-- Nothing, or a node that is in order. -/
def MissingOr (accepts : Node → Prop) (node : Node) : Prop := node = .missing ∨ accepts node

theorem hasLiteral_congr {accepts accepts' : String → Prop}
    (h : ∀ text, accepts text ↔ accepts' text) (node : Node) :
    node.HasLiteral accepts ↔ node.HasLiteral accepts' := by
  simp only [HasLiteral, h]

theorem isSequenceOf_congr {accepts accepts' : Node → Prop}
    (h : ∀ element, accepts element ↔ accepts' element) (node : Node) :
    node.IsSequenceOf accepts ↔ node.IsSequenceOf accepts' := by
  simp only [IsSequenceOf, h]

theorem missingOr_congr {accepts accepts' : Node → Prop}
    (h : ∀ node, accepts node ↔ accepts' node) (node : Node) :
    node.MissingOr accepts ↔ node.MissingOr accepts' := by
  simp only [MissingOr, h]

@[simp] theorem not_hasLiteral_missing (accepts : String → Prop) :
    ¬Node.missing.HasLiteral accepts := by
  rintro ⟨leaf, hleaf, -⟩
  cases hleaf

theorem hasLiteral_iff {accepts : String → Prop} {node : Node} :
    node.HasLiteral accepts ↔ node ≠ .missing ∧ node.MissingOr (HasLiteral accepts) := by
  constructor
  · rintro ⟨leaf, rfl, hleaf⟩
    exact ⟨by simp, .inr ⟨leaf, rfl, hleaf⟩⟩
  · rintro ⟨hfound, hmissing | hliteral⟩
    · exact absurd hmissing hfound
    · exact hliteral

theorem isFound_iff {node : Node} : node.isFound = true ↔ node ≠ .missing := by
  cases node <;> simp [isFound]

theorem accepts_map_iff {node : Node} :
    Demand.map.accepts node = true ↔ node.MissingOr (·.isMap = true) := by
  cases node <;> simp [Demand.accepts, MissingOr, isMap]

theorem accepts_array_iff {node : Node} :
    Demand.array.accepts node = true ↔ node.MissingOr (·.isSequence = true) := by
  cases node <;> simp [Demand.accepts, MissingOr, isSequence]

theorem accepts_boolean_iff {node : Node} :
    Demand.boolean.accepts node = true ↔ node.MissingOr IsTruth := by
  cases node with
  | scalar leaf => cases leaf <;> simp [Demand.accepts, MissingOr, IsTruth]
  | map entries | sequence items | missing => simp [Demand.accepts, MissingOr, IsTruth]

end Node

theorem Check.reportUnless_eq_nil_iff {fine : Bool} {location : Location} {finding : Finding} :
    reportUnless fine location finding = [] ↔ fine = true := by
  cases fine <;> simp [reportUnless]

/-- Nothing is reported of a literal form if there is none for lack of a node, or if it is
in order. -/
theorem Check.literalIssues_eq_nil_iff {accepts : String → Bool} {fault : String → Finding}
    {node : Node} {location : Location} :
    literalIssues accepts fault node location = [] ↔
      node.MissingOr (Node.HasLiteral (accepts · = true)) := by
  cases node <;> simp [literalIssues, reportUnless_eq_nil_iff, Node.MissingOr, Node.HasLiteral]

/-! ## Leaves -/

/-- What a kind of leaf accepts. -/
def LeafKind.Accepts : LeafKind → Node → Prop
  | .any, _ => True
  | .boolean, node => node.MissingOr Node.IsTruth
  | .oneOf values, node => node.MissingOr (Node.HasLiteral (· ∈ values))

namespace Rules

/-- What a leaf accepts. -/
structure Accepts (rules : Rules) (node : Node) : Prop where
  found : rules.required = some true → node ≠ .missing
  kind : rules.kind.Accepts node
  pattern : ∀ regex ∈ rules.pattern, node.MissingOr (Node.HasLiteral (regex.isMatch · = true))

theorem kindIssues_eq_nil_iff {kind : LeafKind} {node : Node} {location : Location} :
    kindIssues kind node location = [] ↔ kind.Accepts node := by
  cases kind with
  | any => simp [kindIssues, LeafKind.Accepts]
  | boolean =>
      rw [kindIssues, reportUnless_eq_nil_iff, Node.accepts_boolean_iff, LeafKind.Accepts]
  | oneOf values =>
      rw [kindIssues, literalIssues_eq_nil_iff, LeafKind.Accepts]
      simp only [List.contains_iff_mem]

theorem patternIssues_eq_nil_iff {pattern : Option Regex} {node : Node} {location : Location} :
    patternIssues pattern node location = [] ↔
      ∀ regex ∈ pattern, node.MissingOr (Node.HasLiteral (regex.isMatch · = true)) := by
  cases pattern with
  | none => simp [patternIssues]
  | some regex => simp [patternIssues, literalIssues_eq_nil_iff]

theorem issues_eq_nil_iff {rules : Rules} {node : Node} {location : Location} :
    rules.issues node location = [] ↔ rules.Accepts node := by
  obtain ⟨kind, pattern, required⟩ := rules
  have hkind : kindIssues kind node location = [] ↔ kind.Accepts node := kindIssues_eq_nil_iff
  have hpattern : patternIssues pattern node location = [] ↔
      ∀ regex ∈ pattern, node.MissingOr (Node.HasLiteral (regex.isMatch · = true)) :=
    patternIssues_eq_nil_iff
  have hsplit : Rules.Accepts ⟨kind, pattern, required⟩ node ↔
      (required = some true → node ≠ .missing) ∧ kindIssues kind node location = [] ∧
        patternIssues pattern node location = [] := by
    rw [hkind, hpattern]
    constructor
    · rintro ⟨found, kind, pattern⟩
      exact ⟨found, kind, pattern⟩
    · rintro ⟨found, kind, pattern⟩
      exact ⟨found, kind, pattern⟩
  rw [hsplit, issues]
  -- a required leaf stops at its first issue, which makes no difference to whether there is one
  rcases required with _ | _ | _
  · simp
  · simp
  · rw [← Node.isFound_iff]
    cases node.isFound with
    | false => simp
    | true => cases kindIssues kind node location <;> simp

end Rules

/-! ## Schemas -/

namespace Schema

mutual

/-- What a schema accepts. -/
def Accepts : Schema → Node → Prop
  | .map entries, node => node.MissingOr (·.isMap = true) ∧ EntriesAccept entries node
  | .sequence item, node => node.MissingOr (Node.IsSequenceOf item.Accepts)
  | .leaf rules, node => rules.Accepts node

/-- What the schemas of properties accept together. -/
def EntriesAccept : List (String × Schema) → Node → Prop
  | [], _ => True
  | (key, schema) :: entries, node => schema.Accepts (node.get key) ∧ EntriesAccept entries node

end

theorem elements_of_missingOr {node : Node} {accepts : Node → Prop} :
    (node.MissingOr (·.isSequence = true) ∧ ∀ element ∈ node.elements, accepts element) ↔
      node.MissingOr (Node.IsSequenceOf accepts) := by
  cases node <;> simp [Node.MissingOr, Node.IsSequenceOf, Node.isSequence, Node.elements]

mutual

/-- **A schema reports nothing of the nodes that it accepts, and of no other.** -/
theorem issues_eq_nil_iff : ∀ {schema : Schema} {node : Node} {location : Location},
    schema.issues node location = [] ↔ schema.Accepts node
  | .map entries, node, location => by
      rw [issues_map, List.append_eq_nil_iff, reportUnless_eq_nil_iff, Node.accepts_map_iff,
        Accepts, entryIssues_eq_nil_iff]
  | .sequence item, node, location => by
      have helements : (node.elements.zipIdx.flatMap fun element =>
          item.issues element.1 (location.index element.2)) = [] ↔
            ∀ element ∈ node.elements, item.Accepts element := by
        rw [List.flatMap_eq_nil_iff]
        constructor
        · intro hnone element helement
          obtain ⟨index, hindex, rfl⟩ := List.getElem_of_mem helement
          exact issues_eq_nil_iff.mp
            (hnone (node.elements[index], index) (List.mk_mem_zipIdx_iff_getElem?.mpr
              (List.getElem?_eq_getElem hindex)))
        · intro hall element helement
          exact issues_eq_nil_iff.mpr (hall _ (List.fst_mem_of_mem_zipIdx helement))
      rw [issues_sequence, Accepts, ← elements_of_missingOr, ← Node.accepts_array_iff]
      cases Demand.array.accepts node with
      | false => simp
      | true => simpa using helements
  | .leaf rules, node, location => by
      rw [issues_leaf, Rules.issues_eq_nil_iff, Accepts]

theorem entryIssues_eq_nil_iff : ∀ {entries : List (String × Schema)} {node : Node}
    {location : Location},
    (entries.flatMap fun entry => entry.2.issues (node.get entry.1) (location.child entry.1)) = []
      ↔ EntriesAccept entries node
  | [], node, location => by simp [EntriesAccept]
  | (key, schema) :: entries, node, location => by
      rw [List.flatMap_cons, List.append_eq_nil_iff, EntriesAccept, issues_eq_nil_iff,
        entryIssues_eq_nil_iff]

end

end Schema

end MtaCheck
