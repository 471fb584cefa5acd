import MtaCheck.Proofs.Check.Absence
import MtaCheck.Proofs.Schema.Rearrangement
import MtaCheck.Proofs.Schema.SameReading

/-!
# Tags

A tag says what a value is meant to be.  Nothing here asks for it: a node is the value behind its
tags (`Node.ofValue`), and whatever is looked up in a node is made a node again before anything else
is done with it.  This file shows that no place was forgotten.

* `Value.Untagged` relates a value to what is left of it when some of its tags are removed, at any
  depth.  The tags of keys stay, because they decide which of two keys a lookup finds.
* `Node.Untagged` is what this comes to for nodes, whose own tags are gone.  Everything that a check
  or a schema may ask of a node keeps the relation (`Untagged.get`, `Untagged.elements`,
  `Untagged.entries`) or has the same answer on both sides.
* `Check.evaluate_untagged` and `CompiledSchema.ofNode_untagged` go along a check and along a
  schema, and `untagged_transparent` puts the two together.
-/

namespace MtaCheck

namespace Yaml.Value

/-- What a value is for in a document. -/
inductive Role
  | key
  | content

/-- The second value is the first without some of its tags, at any depth.  A key keeps its own
tags; those of the values inside of it may be removed. -/
inductive Untagged : Role → Value → Value → Prop
  | same {role : Role} (value : Value) : Untagged role value value
  | removed {tag : String} {value value' : Value} (hvalue : Untagged .content value value') :
      Untagged .content (.tagged tag value) value'
  | kept {role : Role} {tag : String} {value value' : Value} (hvalue : Untagged role value value') :
      Untagged role (.tagged tag value) (.tagged tag value')
  | sequence {role : Role} {items items' : List Value} (hlength : items.length = items'.length)
      (hitems : ∀ pair ∈ items.zip items', Untagged .content pair.1 pair.2) :
      Untagged role (.sequence items) (.sequence items')
  | mapping {role : Role} {entries entries' : List (Value × Value)}
      (hlength : entries.length = entries'.length)
      (hkeys : ∀ pair ∈ entries.zip entries', Untagged .key pair.1.1 pair.2.1)
      (hvalues : ∀ pair ∈ entries.zip entries', Untagged .content pair.1.2 pair.2.2) :
      Untagged role (.mapping entries) (.mapping entries')

/-- Two entries of a mapping that differ in the tags of their values. -/
def UntaggedEntry (entry entry' : Value × Value) : Prop :=
  Untagged .key entry.1 entry'.1 ∧ Untagged .content entry.2 entry'.2

mutual

/-- What is left of a value without all its tags, those of keys apart. -/
def withoutTags : Value → Value
  | .tagged _ value => value.withoutTags
  | .sequence items => .sequence (itemsWithoutTags items)
  | .mapping entries => .mapping (entriesWithoutTags entries)
  | value => value

/-- What is left of the items of a sequence. -/
def itemsWithoutTags : List Value → List Value
  | [] => []
  | item :: items => item.withoutTags :: itemsWithoutTags items

/-- What is left of the entries of a mapping. -/
def entriesWithoutTags : List (Value × Value) → List (Value × Value)
  | [] => []
  | (key, value) :: entries => (key, value.withoutTags) :: entriesWithoutTags entries

end

mutual

theorem untagged_withoutTags : ∀ value : Value, Untagged .content value value.withoutTags
  | .tagged _ value => .removed (untagged_withoutTags value)
  | .sequence items => by
      obtain ⟨hlength, hitems⟩ := List.forall₂_iff_zip.mp (untagged_itemsWithoutTags items)
      exact .sequence hlength fun pair hpair => hitems hpair
  | .mapping entries => by
      obtain ⟨hlength, hentries⟩ := List.forall₂_iff_zip.mp (untagged_entriesWithoutTags entries)
      refine .mapping hlength ?_ ?_
      · intro pair hpair
        exact (hentries hpair).1
      · intro pair hpair
        exact (hentries hpair).2
  | .null | .truth _ | .number _ | .text _ => .same _

theorem untagged_itemsWithoutTags :
    ∀ items : List Value, List.Forall₂ (Untagged .content) items (itemsWithoutTags items)
  | [] => .nil
  | item :: items => .cons (untagged_withoutTags item) (untagged_itemsWithoutTags items)

theorem untagged_entriesWithoutTags :
    ∀ entries : List (Value × Value),
      List.Forall₂ UntaggedEntry entries (entriesWithoutTags entries)
  | [] => .nil
  | (key, value) :: entries =>
      .cons ⟨.same key, untagged_withoutTags value⟩ (untagged_entriesWithoutTags entries)

end

end Yaml.Value

namespace Node

open Yaml (Value)

/-- Two nodes that differ in the tags of the values inside of them. -/
inductive Untagged : Node → Node → Prop
  | same (node : Node) : Untagged node node
  | sequence {items items' : List Value}
      (hitems : List.Forall₂ (Value.Untagged .content) items items') :
      Untagged (.sequence items) (.sequence items')
  | map {entries entries' : List (Value × Value)}
      (hentries : List.Forall₂ Value.UntaggedEntry entries entries') :
      Untagged (.map entries) (.map entries')

/-- A node does not depend on the tags in front of its value. -/
theorem untagged_ofValue {role : Value.Role} {value value' : Value}
    (huntagged : Value.Untagged role value value') :
    Untagged (ofValue value) (ofValue value') := by
  induction huntagged with
  | same value => exact .same _
  | removed _ ih => exact ih
  | kept _ ih => exact ih
  | sequence hlength hitems =>
      exact .sequence (List.forall₂_iff_zip.mpr ⟨hlength, fun hpair => hitems _ hpair⟩)
  | mapping hlength hkeys hvalues =>
      refine .map (List.forall₂_iff_zip.mpr ⟨hlength, fun hpair => ?_⟩)
      exact ⟨hkeys _ hpair, hvalues _ hpair⟩

/-! ## What is asked of a node -/

namespace Untagged

variable {node node' : Node}

theorem outline_eq (huntagged : Untagged node node') : node.outline = node'.outline := by
  cases huntagged <;> rfl

theorem isFound_eq (huntagged : Untagged node node') : node.isFound = node'.isFound := by
  cases huntagged <;> rfl

theorem literal?_eq (huntagged : Untagged node node') : node.literal? = node'.literal? := by
  cases huntagged <;> rfl

theorem accepts_eq (huntagged : Untagged node node') (demand : Demand) :
    demand.accepts node = demand.accepts node' := by
  rw [← Demand.accepts_outline, huntagged.outline_eq, Demand.accepts_outline]

/-! ## What is looked up in a node -/

/-- A key is found under the same words as before. -/
theorem same_text_eq {key key' : Value} (hkey : Value.Untagged .key key key') (word : String) :
    key.same (.text word) = key'.same (.text word) := by
  cases hkey <;> simp [Value.same]

theorem keyLiteral?_eq {key key' : Value} (hkey : Value.Untagged .key key key') :
    keyLiteral? key = keyLiteral? key' := (untagged_ofValue hkey).literal?_eq

theorem get (huntagged : Untagged node node') (word : String) :
    Untagged (node.get word) (node'.get word) := by
  cases huntagged with
  | same => exact .same _
  | sequence hitems => exact .same _
  | map hentries =>
      refine rel_get (.same _) (hentries.imp fun entry entry' hentry => ?_)
      exact ⟨same_text_eq hentry.1 word, keyLiteral?_eq hentry.1,
        fun _ => untagged_ofValue hentry.2⟩

theorem elements (huntagged : Untagged node node') :
    List.Forall₂ Untagged node.elements node'.elements := by
  cases huntagged with
  | same => exact List.forall₂_same.mpr fun element _ => .same element
  | sequence hitems =>
      exact rel_elements (hitems.imp fun _ _ => untagged_ofValue)
  | map => exact .nil

theorem entries (huntagged : Untagged node node') :
    List.Forall₂ (fun entry entry' : String × Node =>
      entry.1 = entry'.1 ∧ Untagged entry.2 entry'.2) node.entries node'.entries := by
  cases huntagged with
  | same => exact List.forall₂_same.mpr fun entry _ => ⟨rfl, .same entry.2⟩
  | sequence => exact .nil
  | map hentries =>
      refine rel_entries (hentries.imp fun entry entry' hentry => ?_)
      exact ⟨keyLiteral?_eq hentry.1, untagged_ofValue hentry.2⟩

end Untagged

end Node

/-! ## Checks do not see tags -/

namespace Check

open Node (Untagged)

/-- A check reports of two nodes the same if they differ in tags only. -/
theorem evaluate_untagged (check : Check) (hcomposed : check.isComposed = true) :
    ∀ {node node' : Node}, Untagged node node' → ∀ location,
      check.evaluate node location = check.evaluate node' location := by
  -- a check asks a node for its parts, its literal form and its kind, and tags change none of them
  induction check, hcomposed using composedInduction with
  | property name checks _ ih =>
      intro node node' huntagged location
      rw [evaluate_property, evaluate_property]
      exact evaluateAll_congr fun check hcheck => ih check hcheck (huntagged.get name) _
  | sequence checks _ ih =>
      intro node node' huntagged location
      rw [evaluate_sequence, evaluate_sequence]
      exact evaluateAll_congr fun check hcheck => ih check hcheck huntagged location
  | failFast checks _ ih =>
      intro node node' huntagged location
      rw [evaluate_failFast, evaluate_failFast]
      exact evaluateFirst_congr fun check hcheck => ih check hcheck huntagged location
  | forEach checks _ ih =>
      intro node node' huntagged location
      rw [evaluate_forEach, evaluate_forEach]
      refine flatMap_zipIdx_of_forall₂ huntagged.elements ?_ 0
      intro element _ element' index helement
      exact evaluateAll_congr fun check hcheck => ih check hcheck helement _
  | required =>
      intro node node' huntagged location
      rw [evaluate_required, evaluate_required, huntagged.isFound_eq]
  | optional checks _ ih =>
      intro node node' huntagged location
      rw [evaluate_optional, evaluate_optional, huntagged.isFound_eq,
        evaluateAll_congr fun check hcheck => ih check hcheck huntagged location]
  | kind demand =>
      intro node node' huntagged location
      rw [evaluate_kind, evaluate_kind, huntagged.accepts_eq]
  | matching regex =>
      intro node node' huntagged location
      rw [evaluate, evaluate, huntagged.literal?_eq]
  | oneOf values =>
      intro node node' huntagged location
      rw [evaluate, evaluate, huntagged.literal?_eq]

end Check

/-! ## Schemas do not see tags -/

namespace Schema

open Node (Untagged)

theorem readAlike_untagged : ReadAlike Untagged where
  outline_eq := Untagged.outline_eq
  get := Untagged.get
  entries := Untagged.entries
  literals_eq := fun huntagged => map_eq_of_forall₂ _ huntagged.elements
    fun _ _ _ helement => helement.literal?_eq
  items := fun huntagged => (huntagged.get "sequence").elements

end Schema

namespace CompiledSchema

open Check
open Yaml (Value)

/-- Two schemas that differ in tags only are compiled to the same checks or defects. -/
theorem ofNode_untagged {schema schema' : Node} (huntagged : schema.Untagged schema') :
    ofNode schema = ofNode schema' := by
  rw [ofNode, ofNode, Schema.readAlike_untagged.ofNode_eq schema huntagged]

/-- **Tags are transparent.**  Let tags be removed from any values of a schema and of a document,
at any depth.  Then compiling the schema finds the same defects and makes checks with the same
labels, and these report the same of the document, at its root and wherever else it may stand. -/
theorem untagged_transparent {schema schema' document document' : Value}
    (hschema : Value.Untagged .content schema schema')
    (hdocument : Value.Untagged .content document document') :
    (ofNode (.ofValue schema')).defects = (ofNode (.ofValue schema)).defects ∧
      (ofNode (.ofValue schema')).checks.map label = (ofNode (.ofValue schema)).checks.map label ∧
      run (ofNode (.ofValue schema')).checks (.ofValue document') =
        run (ofNode (.ofValue schema)).checks (.ofValue document) ∧
      ∀ location, evaluateAll (ofNode (.ofValue schema')).checks (.ofValue document') location =
        evaluateAll (ofNode (.ofValue schema)).checks (.ofValue document) location := by
  have hcompiled := ofNode_untagged (Node.untagged_ofValue hschema)
  have hsame : ∀ location,
      evaluateAll (ofNode (.ofValue schema)).checks (.ofValue document) location =
        evaluateAll (ofNode (.ofValue schema)).checks (.ofValue document') location := by
    intro location
    have hchecks := areComposed_iff.mp (areComposed_checks (.ofValue schema))
    refine evaluateAll_congr fun check hcheck => ?_
    exact evaluate_untagged check (hchecks check hcheck) (Node.untagged_ofValue hdocument) location
  rw [← hcompiled]
  exact ⟨rfl, rfl, (hsame .root).symm, fun location => (hsame location).symm⟩

/-- A name under a pattern, a note of any kind and a sequence of kinds, with a tag on whatever may
have one, nothing included. -/
def taggedSchema : Value :=
  .tagged "!schema" (.mapping [(.text "type", .tagged "!type" (.text "map")),
    (.text "mapping", .tagged "!mapping" (.mapping [
      (.text "name", .mapping [(.text "required", .tagged "!required" (.truth true)),
        (.text "pattern", .tagged "!pattern" (.text "/^[a-z]+$/"))]),
      (.text "note", .tagged "!nothing" .null),
      (.text "kinds", .mapping [(.text "type", .text "seq"),
        (.text "sequence", .tagged "!sequence" (.sequence [.tagged "!item" (.mapping [
          (.text "type", .text "enum"),
          (.text "enums", .tagged "!enums" (.sequence [.tagged "!enum" (.text "a")]))])]))])]))])

/-- A tagged key stands for the name, after a key that is a tagged map. -/
def taggedDocument : Value :=
  .tagged "!document" (.mapping [(.tagged "!key" (.mapping []), .tagged "!outer" .null),
    (.tagged "!key" (.text "name"), .tagged "!outer" (.tagged "!inner" (.text "A1"))),
    (.text "kinds", .tagged "!kinds" (.sequence [.tagged "!a" (.text "a"), .tagged "!b" (.text "b"),
      .tagged "!nothing" .null, .tagged "!map" (.mapping [])]))])

/-- Without any tags the same three values are refused. -/
theorem untagged_transparent_taggedSchema :
    Value.Untagged .content taggedSchema taggedSchema.withoutTags ∧
      Value.Untagged .content taggedDocument taggedDocument.withoutTags ∧
      run (ofNode (.ofValue taggedSchema.withoutTags)).checks
          (.ofValue taggedDocument.withoutTags) =
        run (ofNode (.ofValue taggedSchema)).checks (.ofValue taggedDocument) ∧
      (run (ofNode (.ofValue taggedSchema)).checks (.ofValue taggedDocument)).map Issue.message =
        ["the root.name property with the A1 value does not match the ^[a-z]+$ pattern",
          "the kinds[1] property with the b value is not one of the expected values [a]",
          "the kinds[3] property must be a scalar value"] := by
  have hschema := Value.untagged_withoutTags taggedSchema
  have hdocument := Value.untagged_withoutTags taggedDocument
  obtain ⟨-, -, hrun, -⟩ := untagged_transparent hschema hdocument
  exact ⟨hschema, hdocument, hrun, by decide +kernel⟩

end CompiledSchema

end MtaCheck
