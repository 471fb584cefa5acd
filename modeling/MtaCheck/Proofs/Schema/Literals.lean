import MtaCheck.Proofs.Schema.Places
import MtaCheck.Proofs.Schema.Rearrangement
import MtaCheck.Proofs.Schema.SameReading

/-!
# Literal forms

A truth value or a number is never looked at except for its literal form, by a key that is looked
up, a pattern, an enumeration or a message.  So it might as well be the text of that form.  Only a
leaf of type `bool` can tell `true` from `"true"`.

* `Node.Worded` relates a document to what becomes of it when some of its scalars are replaced by
  the texts of their literal forms, at any depth.  Keys are replaced only in maps whose scalar keys
  have distinct literal forms: a key that has become a text is found before an earlier one of the
  same literal form that has not.
* `CompiledSchema.issues_worded` follows a schema without leaves of type `bool` down both
  documents.
* `Node.EnumsWorded` is the same for schemas, but for the lists under `enums` only: `required`, for
  one, has to be a truth value.  Such schemas are read alike (`Schema.readAlike_enumsWorded`).

The two sides are put together in `CompiledSchema.judged_by_literal`.
-/

namespace MtaCheck

open Check

namespace Node

open Yaml (Value)

/-- Two nodes that differ in how their scalars are written: those of the first have been replaced
by the texts of their literal forms, or they have not.  Scalar keys are left as they are, unless
those of their map have distinct literal forms. -/
inductive Worded : Node → Node → Prop
  | same (node : Node) : Worded node node
  | scalar (leaf : Leaf) : Worded (.scalar leaf) (.scalar (.text leaf.literal))
  | sequence {items items' : List Value} (hlength : items.length = items'.length)
      (hitems : ∀ pair ∈ items.zip items', Worded (ofValue pair.1) (ofValue pair.2)) :
      Worded (.sequence items) (.sequence items')
  | map {entries entries' : List (Value × Value)} (hlength : entries.length = entries'.length)
      (hkeys : ∀ pair ∈ entries.zip entries', Worded (ofValue pair.1.1) (ofValue pair.2.1))
      (hvalues : ∀ pair ∈ entries.zip entries', Worded (ofValue pair.1.2) (ofValue pair.2.2))
      (hscalars : (keyLiterals entries).Nodup ∨
        ∀ pair ∈ entries.zip entries', keyLiteral? pair.1.1 ≠ none → pair.1.1 = pair.2.1) :
      Worded (.map entries) (.map entries')

end Node

/-! ## All scalars as texts -/

namespace Yaml.Value

mutual

/-- A value in which all scalars are texts, keys as far as the literal forms of those of their map
are distinct. -/
def inWords : Value → Value
  | .truth value => .text (toString value)
  | .number value => .text value.literal
  | .sequence items => .sequence (itemsInWords items)
  | .mapping entries =>
      .mapping (entriesInWords (decide (Node.keyLiterals entries).Nodup) entries)
  | .tagged tag value => .tagged tag value.inWords
  | value => value

/-- The items of a sequence in words. -/
def itemsInWords : List Value → List Value
  | [] => []
  | item :: items => item.inWords :: itemsInWords items

/-- The entries of a mapping in words, with their keys or without. -/
def entriesInWords (withKeys : Bool) : List (Value × Value) → List (Value × Value)
  | [] => []
  | (key, value) :: entries =>
      (if withKeys then key.inWords else key, value.inWords) :: entriesInWords withKeys entries

end

mutual

theorem worded_inWords : ∀ value : Value,
    Node.Worded (.ofValue value) (.ofValue value.inWords)
  | .null | .text _ => .same _
  | .truth value => .scalar (.truth value)
  | .number value => .scalar (.number value)
  | .sequence items => by
      obtain ⟨hlength, hitems⟩ := List.forall₂_iff_zip.mp (worded_itemsInWords items)
      exact .sequence hlength fun pair hpair => hitems hpair
  | .mapping entries => by
      by_cases hdistinct : (Node.keyLiterals entries).Nodup
      · obtain ⟨hlength, hentries⟩ := List.forall₂_iff_zip.mp (worded_entriesInWords true entries)
        rw [inWords, decide_eq_true hdistinct]
        exact .map hlength (fun pair hpair => (hentries hpair).1)
          (fun pair hpair => (hentries hpair).2.1) (.inl hdistinct)
      · obtain ⟨hlength, hentries⟩ := List.forall₂_iff_zip.mp (worded_entriesInWords false entries)
        rw [inWords, decide_eq_false hdistinct]
        exact .map hlength (fun pair hpair => (hentries hpair).1)
          (fun pair hpair => (hentries hpair).2.1)
          (.inr fun pair hpair _ => (hentries hpair).2.2 rfl)
  | .tagged _ value => worded_inWords value

theorem worded_itemsInWords : ∀ items : List Value,
    List.Forall₂ (fun item item' => Node.Worded (.ofValue item) (.ofValue item')) items
      (itemsInWords items)
  | [] => .nil
  | item :: items => .cons (worded_inWords item) (worded_itemsInWords items)

theorem worded_entriesInWords (withKeys : Bool) : ∀ entries : List (Value × Value),
    List.Forall₂ (fun entry entry' : Value × Value =>
      Node.Worded (.ofValue entry.1) (.ofValue entry'.1) ∧
        Node.Worded (.ofValue entry.2) (.ofValue entry'.2) ∧
          (withKeys = false → entry.1 = entry'.1)) entries (entriesInWords withKeys entries)
  | [] => .nil
  | (key, value) :: entries => by
      refine .cons ⟨?_, worded_inWords value, ?_⟩ (worded_entriesInWords withKeys entries)
      · cases withKeys with
        | true => exact worded_inWords key
        | false => exact .same _
      · rintro rfl
        rfl

end

end Yaml.Value

/-! ## What is asked of a node -/

namespace Node

open Yaml (Value)

/-- A key without a literal form is no text. -/
theorem same_text_eq_false {key : Value} (hnone : keyLiteral? key = none) (word : String) :
    key.same (.text word) = false := by
  rw [← Bool.not_eq_true, same_text_iff]
  rintro rfl
  cases hnone

namespace Worded

variable {node node' : Node}

theorem isFound_eq (hworded : Worded node node') : node.isFound = node'.isFound := by
  cases hworded <;> rfl

theorem literal?_eq (hworded : Worded node node') : node.literal? = node'.literal? := by
  cases hworded <;> rfl

/-- Only a truth value is demanded of a scalar in particular. -/
theorem accepts_eq (hworded : Worded node node') {demand : Demand} (hdemand : demand ≠ .boolean) :
    demand.accepts node = demand.accepts node' := by
  cases demand with
  | boolean => contradiction
  | _ => cases hworded <;> rfl

theorem get (hworded : Worded node node') (word : String) :
    Worded (node.get word) (node'.get word) := by
  cases hworded with
  | same => exact .same _
  | scalar => exact .same _
  | sequence => exact .same _
  | map hlength hkeys hvalues hscalars =>
      rcases hscalars with hdistinct | hunchanged
      · refine rel_get_of_perm (.same _) hdistinct (List.Perm.refl _) ?_
        refine List.forall₂_iff_zip.mpr ⟨hlength, fun hpair => ?_⟩
        exact ⟨(hkeys _ hpair).literal?_eq, hvalues _ hpair⟩
      · refine rel_get (.same _) ?_
        refine List.forall₂_iff_zip.mpr ⟨hlength, fun {entry entry'} hpair => ?_⟩
        have hliteral : keyLiteral? entry.1 = keyLiteral? entry'.1 := (hkeys _ hpair).literal?_eq
        refine ⟨?_, hliteral, fun _ => hvalues _ hpair⟩
        -- a key that is not the same as before is no text, before or after
        by_cases hnone : keyLiteral? entry.1 = none
        · rw [same_text_eq_false hnone, same_text_eq_false (hliteral ▸ hnone)]
        · rw [hunchanged _ hpair hnone]

theorem elements (hworded : Worded node node') :
    List.Forall₂ Worded node.elements node'.elements := by
  cases hworded with
  | same => exact List.forall₂_same.mpr fun element _ => .same element
  | sequence hlength hitems =>
      exact rel_elements (List.forall₂_iff_zip.mpr ⟨hlength, fun hpair => hitems _ hpair⟩)
  | scalar => exact .nil
  | map => exact .nil

end Worded

end Node

/-! ## Documents in words -/

open Node (Worded)

/-- A check of literal forms reports the same of two nodes with the same one. -/
theorem Check.literalIssues_worded {node node' : Node} (accepts : String → Bool)
    (fault : String → Finding) (hworded : Worded node node') (location : Location) :
    literalIssues accepts fault node location = literalIssues accepts fault node' location := by
  cases hworded <;> rfl

namespace Rules

/-- A leaf that does not demand a truth value looks at literal forms only. -/
theorem issues_worded {rules : Rules} (hkind : rules.kind ≠ .boolean) {node node' : Node}
    (hworded : Worded node node') (location : Location) :
    rules.issues node location = rules.issues node' location := by
  have hkindIssues : kindIssues rules.kind node location =
      kindIssues rules.kind node' location := by
    cases hrules : rules.kind with
    | any => rfl
    | boolean => contradiction
    | oneOf values => rw [kindIssues, kindIssues, literalIssues_worded _ _ hworded]
  have hpatternIssues : patternIssues rules.pattern node location =
      patternIssues rules.pattern node' location := by
    cases rules.pattern with
    | none => rfl
    | some regex => rw [patternIssues, patternIssues, literalIssues_worded _ _ hworded]
  rw [issues, issues, hkindIssues, hpatternIssues, hworded.isFound_eq]

theorem kind_ne_boolean {schema : Node} {rules : Rules} (hread : Rules.ofNode schema = .ok rules)
    (htype : (schema.get "type").text? ≠ some "bool") : rules.kind ≠ .boolean := by
  rcases readKind_cases (ofNode_eq_ok hread).1 with
    ⟨hbool, -⟩ | ⟨values, -, -, hkind⟩ | ⟨-, -, hkind⟩
  · contradiction
  · simp [hkind]
  · simp [hkind]

end Rules

namespace Schema

/-- No leaf of the schema has the type `bool`. -/
def HasNoBooleanLeaf (schema : Node) : Prop :=
  ∀ steps target, Governs schema steps target → (target.get "type").text? ≠ some "bool"

variable {schema : Node}

theorem hasNoBooleanLeaf_map_iff (htype : (schema.get "type").text? = some "map") :
    HasNoBooleanLeaf schema ↔
      ∀ entry ∈ (schema.get "mapping").entries, HasNoBooleanLeaf entry.2 := by
  constructor
  · intro hleaves entry hentry steps target hgoverns
    exact hleaves _ target (.name htype hentry hgoverns)
  · intro hentries steps target hgoverns
    cases hgoverns with
    | here => simp [htype]
    | name _ hentry hrest => exact hentries _ hentry _ target hrest
    | index htype' => simp [htype] at htype'

theorem hasNoBooleanLeaf_sequence_iff (htype : (schema.get "type").text? = some "seq") {item : Node}
    (hitem : (schema.get "sequence").elements = [item]) :
    HasNoBooleanLeaf schema ↔ HasNoBooleanLeaf item := by
  constructor
  · intro hleaves steps target hgoverns
    exact hleaves (.index 0 :: steps) target (.index htype hitem hgoverns)
  · intro hleaves steps target hgoverns
    cases hgoverns with
    | here => simp [htype]
    | name htype' => simp [htype] at htype'
    | index _ hitem' hrest =>
        obtain rfl := List.singleton_inj.mp (hitem.symm.trans hitem')
        exact hleaves _ target hrest

theorem hasNoBooleanLeaf_leaf_iff (hmap : (schema.get "type").text? ≠ some "map")
    (hsequence : (schema.get "type").text? ≠ some "seq") :
    HasNoBooleanLeaf schema ↔ (schema.get "type").text? ≠ some "bool" := by
  constructor
  · intro hleaves
    exact hleaves [] schema .here
  · intro hbool steps target hgoverns
    cases hgoverns with
    | here => exact hbool
    | name htype => contradiction
    | index htype => contradiction

end Schema

namespace CompiledSchema

open Schema (HasNoBooleanLeaf)

/-- A schema without leaves of type `bool` reports the same of a document in words. -/
theorem issues_worded (schema : Node) (hvalid : (ofNode schema).isValid = true) :
    HasNoBooleanLeaf schema → ∀ {node node' : Node}, Worded node node' → ∀ location,
      (ofNode schema).issues node location = (ofNode schema).issues node' location := by
  -- the schema leads, and both documents follow it step by step
  induction schema, hvalid using validInduction with
  | map schema htype hvalid ih =>
      intro hleaves node node' hworded location
      have hentries : ∀ entry ∈ (schema.get "mapping").entries,
          (ofNode entry.2).issues (node.get entry.1) (location.child entry.1) =
            (ofNode entry.2).issues (node'.get entry.1) (location.child entry.1) := by
        intro entry hentry
        have hentryLeaves := (Schema.hasNoBooleanLeaf_map_iff htype).mp hleaves entry hentry
        exact ih entry hentry hentryLeaves (hworded.get entry.1) _
      rw [issues_of_map htype hvalid, issues_of_map htype hvalid, hworded.accepts_eq (by decide),
        List.flatMap_def, List.flatMap_def, List.map_congr_left hentries]
  | sequence schema item htype hitem hvalid _ ih =>
      intro hleaves node node' hworded location
      have hitemLeaves := (Schema.hasNoBooleanLeaf_sequence_iff htype hitem).mp hleaves
      rw [issues_of_sequence htype hitem hvalid, issues_of_sequence htype hitem hvalid,
        hworded.accepts_eq (by decide), flatMap_zipIdx_of_forall₂ hworded.elements]
      intro element _ element' index hpair
      exact ih hitemLeaves hpair _
  | leaf schema rules hmap hsequence hvalid hrules hissues =>
      intro hleaves node node' hworded location
      rw [hissues, hissues]
      have hbool := (Schema.hasNoBooleanLeaf_leaf_iff hmap hsequence).mp hleaves
      exact Rules.issues_worded (Rules.kind_ne_boolean hrules hbool) hworded location

end CompiledSchema

/-! ## Enumerations in words -/

namespace Node

open Yaml (Value)

/-- Two schemas that differ in how the allowed values are written, in the lists that stand under
`enums` anywhere in them.  The first argument says whether this is one of those lists. -/
inductive EnumsWorded : Bool → Node → Node → Prop
  | same {listed : Bool} (node : Node) : EnumsWorded listed node node
  | enums {items items' : List Value} (hlength : items.length = items'.length)
      (hitems : ∀ pair ∈ items.zip items', Worded (ofValue pair.1) (ofValue pair.2)) :
      EnumsWorded true (.sequence items) (.sequence items')
  | sequence {listed : Bool} {items items' : List Value} (hlength : items.length = items'.length)
      (hitems : ∀ pair ∈ items.zip items', EnumsWorded false (ofValue pair.1) (ofValue pair.2)) :
      EnumsWorded listed (.sequence items) (.sequence items')
  | map {listed : Bool} {entries entries' : List (Value × Value)}
      (hlength : entries.length = entries'.length)
      (hkeys : ∀ pair ∈ entries.zip entries', pair.1.1 = pair.2.1)
      (hvalues : ∀ pair ∈ entries.zip entries',
        EnumsWorded (keyLiteral? pair.1.1 == some "enums") (ofValue pair.1.2)
          (ofValue pair.2.2)) :
      EnumsWorded listed (.map entries) (.map entries')

namespace EnumsWorded

variable {listed : Bool} {node node' : Node}

theorem outline_eq (hworded : EnumsWorded listed node node') : node.outline = node'.outline := by
  cases hworded <;> rfl

theorem literal?_eq (hworded : EnumsWorded listed node node') : node.literal? = node'.literal? := by
  cases hworded <;> rfl

theorem get (hworded : EnumsWorded listed node node') (word : String) :
    EnumsWorded (some word == some "enums") (node.get word) (node'.get word) := by
  cases hworded with
  | same => exact .same _
  | enums => exact .same _
  | sequence => exact .same _
  | map hlength hkeys hvalues =>
      refine rel_get (.same _) (List.forall₂_iff_zip.mpr ⟨hlength, fun {entry entry'} hpair => ?_⟩)
      have hkey := hkeys _ hpair
      refine ⟨by rw [hkey], by rw [hkey], fun hword => ?_⟩
      rw [← hword]
      exact hvalues _ hpair

theorem elements (hworded : EnumsWorded false node node') :
    List.Forall₂ (EnumsWorded false) node.elements node'.elements := by
  cases hworded with
  | same => exact List.forall₂_same.mpr fun element _ => .same element
  | sequence hlength hitems =>
      exact rel_elements (List.forall₂_iff_zip.mpr ⟨hlength, fun hpair => hitems _ hpair⟩)
  | map => exact .nil

/-- Allowed values keep their literal forms, however they are written. -/
theorem map_literal?_elements (hworded : EnumsWorded listed node node') :
    node.elements.map Node.literal? = node'.elements.map Node.literal? := by
  cases hworded with
  | same => rfl
  | enums hlength hitems =>
      exact map_eq_of_forall₂ _ (Worded.sequence hlength hitems).elements
        fun element _ element' hpair => hpair.literal?_eq
  | sequence hlength hitems =>
      exact map_eq_of_forall₂ _ (EnumsWorded.sequence hlength hitems).elements
        fun element _ element' hpair => hpair.literal?_eq
  | map => rfl

theorem entries (hworded : EnumsWorded listed node node') :
    List.Forall₂ (fun entry entry' : String × Node =>
      entry.1 = entry'.1 ∧ ∃ listed, EnumsWorded listed entry.2 entry'.2)
      node.entries node'.entries := by
  cases hworded with
  | same => exact List.forall₂_same.mpr fun entry _ => ⟨rfl, false, .same entry.2⟩
  | enums => exact .nil
  | sequence => exact .nil
  | map hlength hkeys hvalues =>
      refine @rel_entries (fun node node' => ∃ listed, EnumsWorded listed node node') _ _ ?_
      refine List.forall₂_iff_zip.mpr ⟨hlength, fun {entry entry'} hpair => ?_⟩
      exact ⟨by rw [hkeys _ hpair], _, hvalues _ hpair⟩

/-- A map changes with its last value. -/
theorem map_last (entries : List (Value × Value)) {key value value' : Value}
    (hvalue : EnumsWorded (keyLiteral? key == some "enums") (ofValue value) (ofValue value')) :
    EnumsWorded listed (.map (entries ++ [(key, value)])) (.map (entries ++ [(key, value')])) := by
  have hentries : List.Forall₂ (fun entry entry' : Value × Value => entry.1 = entry'.1 ∧
      EnumsWorded (keyLiteral? entry.1 == some "enums") (ofValue entry.2) (ofValue entry'.2))
      (entries ++ [(key, value)]) (entries ++ [(key, value')]) :=
    List.rel_append (List.forall₂_same.mpr fun entry _ => ⟨rfl, .same _⟩) (.cons ⟨rfl, hvalue⟩ .nil)
  obtain ⟨hlength, hpairs⟩ := List.forall₂_iff_zip.mp hentries
  exact .map hlength (fun pair hpair => (hpairs hpair).1) (fun pair hpair => (hpairs hpair).2)

end EnumsWorded

end Node

namespace Schema

open Node (EnumsWorded)

theorem readAlike_enumsWorded :
    ReadAlike fun schema schema' => ∃ listed, EnumsWorded listed schema schema' where
  outline_eq := fun ⟨_, hworded⟩ => hworded.outline_eq
  get := fun ⟨_, hworded⟩ word => ⟨_, hworded.get word⟩
  entries := fun ⟨_, hworded⟩ => hworded.entries
  literals_eq := fun ⟨_, hworded⟩ => hworded.map_literal?_elements
  items := fun ⟨_, hworded⟩ =>
    (hworded.get "sequence").elements.imp fun _ _ helement => ⟨false, helement⟩

end Schema

namespace CompiledSchema

open Node (EnumsWorded)
open Schema (HasNoBooleanLeaf)
open Yaml (Value)

/-- **Scalars are judged by their literal forms only.**  Let scalars of a document be replaced by
the texts of their literal forms, at any depth, and also as keys in maps whose scalar keys have
distinct literal forms.  Then a valid schema without leaves of type `bool` reports the same issues
as before.  If this is done in the lists under `enums` of any schema, then it is compiled to the
same checks or defects, and so it has the same answer for every document. -/
theorem judged_by_literal :
    (∀ schema : Node, (ofNode schema).isValid = true → HasNoBooleanLeaf schema →
      ∀ document document' : Node, Worded document document' →
        run (ofNode schema).checks document' = run (ofNode schema).checks document) ∧
      ∀ schema schema' : Node, EnumsWorded false schema schema' →
        ofNode schema' = ofNode schema ∧
          ∀ content, (ofNode schema').validate content = (ofNode schema).validate content := by
  refine ⟨?_, ?_⟩
  · intro schema hvalid hleaves document document' hworded
    rw [run_eq_issues, run_eq_issues]
    exact (issues_worded schema hvalid hleaves hworded .root).symm
  · intro schema schema' hworded
    have hsame : ofNode schema' = ofNode schema := by
      rw [ofNode, ofNode, Schema.readAlike_enumsWorded.ofNode_eq schema ⟨false, hworded⟩]
    refine ⟨hsame, fun content => ?_⟩
    rw [hsame]

-- a leaf of type `bool` accepts the truth value and refuses its text
example :
    run (ofNode (.map [(.text "type", .text "bool")])).checks (.scalar (.truth true)) = [] ∧
      (run (ofNode (.map [(.text "type", .text "bool")])).checks (.scalar (.text "true"))).map
        Issue.message = ["the root property must be a boolean"] := by
  decide +kernel

/-- A sequence of lengths, which are written in digits. -/
def lengthsSchema : Value :=
  .mapping [(.text "type", .text "seq"),
    (.text "sequence", .sequence [.mapping [(.text "pattern", .text "/^[0-9]+$/")]])]

/-- A shelf, which is one of those given. -/
def shelfSchema (shelves : List Value) : Value :=
  .mapping [(.text "type", .text "enum"), (.text "enums", .sequence shelves)]

/-- Lengths, and a shelf under a key that is a number. -/
def stockSchema (shelves : List Value) : Node :=
  .map [(.text "type", .text "map"), (.text "mapping", .mapping [(.text "lengths", lengthsSchema),
    (.number (.whole 1), shelfSchema shelves)])]

/-- Shelves with a number, a truth value and a text for a name. -/
def shelves : List Value := [.number (.whole 10), .truth true, .text "low"]

/-- A shelf that is not given, and two lengths that are none. -/
def stockDocument : Value :=
  .mapping [(.number (.whole 1), .number (.whole 20)),
    (.text "lengths", .sequence [.number (.whole 3), .truth true, .mapping [(.null, .null)]])]

theorem enumsWorded_stockSchema (shelves : List Value) :
    EnumsWorded false (stockSchema shelves) (stockSchema (Value.itemsInWords shelves)) := by
  obtain ⟨hlength, hitems⟩ := List.forall₂_iff_zip.mp (Value.worded_itemsInWords shelves)
  have hshelves : EnumsWorded true (.sequence shelves) (.sequence (Value.itemsInWords shelves)) :=
    .enums hlength fun pair hpair => hitems hpair
  exact .map_last [_] (.map_last [_] (.map_last [_] hshelves))

theorem hasNoBooleanLeaf_stockSchema : HasNoBooleanLeaf (stockSchema shelves) := by
  have hlengths : HasNoBooleanLeaf (.ofValue lengthsSchema) := by
    rw [Schema.hasNoBooleanLeaf_sequence_iff rfl rfl,
      Schema.hasNoBooleanLeaf_leaf_iff (by decide +kernel) (by decide +kernel)]
    decide +kernel
  have hshelf : HasNoBooleanLeaf (.ofValue (shelfSchema shelves)) := by
    rw [Schema.hasNoBooleanLeaf_leaf_iff (by decide +kernel) (by decide +kernel)]
    decide +kernel
  refine (Schema.hasNoBooleanLeaf_map_iff rfl).mpr fun entry hentry => ?_
  have hentries : entry ∈
      [("lengths", Node.ofValue lengthsSchema), ("1", .ofValue (shelfSchema shelves))] := hentry
  simp only [List.mem_cons, List.not_mem_nil, or_false] at hentries
  rcases hentries with rfl | rfl
  · exact hlengths
  · exact hshelf

/-- In words or not, neither the shelf nor all of the lengths are accepted. -/
theorem judged_by_literal_stockSchema :
    (ofNode (stockSchema shelves)).isValid = true ∧ HasNoBooleanLeaf (stockSchema shelves) ∧
      (Node.ofValue stockDocument).Worded (.ofValue stockDocument.inWords) ∧
      EnumsWorded false (stockSchema shelves) (stockSchema (Value.itemsInWords shelves)) ∧
      run (ofNode (stockSchema (Value.itemsInWords shelves))).checks
          (.ofValue stockDocument.inWords) =
        run (ofNode (stockSchema shelves)).checks (.ofValue stockDocument) ∧
      (run (ofNode (stockSchema shelves)).checks (.ofValue stockDocument)).map Issue.message =
        ["the lengths[1] property with the true value does not match the ^[0-9]+$ pattern",
          "the lengths[2] property must be a scalar value",
          "the root.1 property with the 20 value is not one of the expected values [10,true,low]"] := by
  have hvalid : (ofNode (stockSchema shelves)).isValid = true := by decide +kernel
  have hleaves := hasNoBooleanLeaf_stockSchema
  have hdocument := Value.worded_inWords stockDocument
  have hschema := enumsWorded_stockSchema shelves
  obtain ⟨hrun, hcompiled⟩ := judged_by_literal
  refine ⟨hvalid, hleaves, hdocument, hschema, ?_, by decide +kernel⟩
  rw [(hcompiled _ _ hschema).1]
  exact hrun _ hvalid hleaves _ _ hdocument

end CompiledSchema

end MtaCheck
