import MtaCheck.Proofs.Node.Lookup
import MtaCheck.Proofs.Schema.Compiled
import MtaCheck.Proofs.Schema.Interpreter

/-!
# What a schema does not look at

A schema asks for the properties that it declares and looks at no other, and it finds them
wherever they stand in their map.  `Rearranged` relates two documents that differ in no more
than that: in the order of entries anywhere (`Node.Permuted`), in entries that a map of the
schema does not declare, and in the contents of collections that stand at a leaf.

The main result, `run_rearranged`, is that two such documents have the same issues, if the keys
of the first have distinct literal forms in each of its maps.  It goes down the schema and both
documents at once; one step of it is what `Rearranged.outline_eq`, `Rearranged.get` and
`Rearranged.elements` say.
-/

namespace MtaCheck

open Check
open Yaml (Value)

/-! ## Distinct keys -/

namespace Yaml.Value

mutual

/-- Whether the keys of each map in a value have distinct literal forms, as far as they have
any.  Maps in keys are left out. -/
def hasDistinctKeys : Value → Bool
  | .sequence items => itemsHaveDistinctKeys items
  | .mapping entries => decide (Node.keyLiterals entries).Nodup && entriesHaveDistinctKeys entries
  | .tagged _ value => value.hasDistinctKeys
  | _ => true

/-- Whether this is so for each of some items. -/
def itemsHaveDistinctKeys : List Value → Bool
  | [] => true
  | item :: items => item.hasDistinctKeys && itemsHaveDistinctKeys items

/-- Whether this is so for the value of each of some entries. -/
def entriesHaveDistinctKeys : List (Value × Value) → Bool
  | [] => true
  | (_, value) :: entries => value.hasDistinctKeys && entriesHaveDistinctKeys entries

end

theorem itemsHaveDistinctKeys_iff {items : List Value} :
    itemsHaveDistinctKeys items = true ↔ ∀ item ∈ items, item.hasDistinctKeys = true := by
  induction items with
  | nil => simp [itemsHaveDistinctKeys]
  | cons item items ih =>
      rw [itemsHaveDistinctKeys, Bool.and_eq_true, ih, List.forall_mem_cons]

theorem entriesHaveDistinctKeys_iff {entries : List (Value × Value)} :
    entriesHaveDistinctKeys entries = true ↔
      ∀ entry ∈ entries, entry.2.hasDistinctKeys = true := by
  induction entries with
  | nil => simp [entriesHaveDistinctKeys]
  | cons entry entries ih =>
      rw [entriesHaveDistinctKeys, Bool.and_eq_true, ih, List.forall_mem_cons]

end Yaml.Value

namespace Node

/-- Whether the keys of each map in a node have distinct literal forms. -/
def hasDistinctKeys : Node → Bool
  | .map entries => (Value.mapping entries).hasDistinctKeys
  | .sequence items => (Value.sequence items).hasDistinctKeys
  | _ => true

theorem hasDistinctKeys_ofValue (value : Value) :
    (ofValue value).hasDistinctKeys = value.hasDistinctKeys := by
  induction value using ofValue.induct with
  | case7 tag value ih => rw [ofValue, ih, Value.hasDistinctKeys]
  | _ => simp [ofValue, hasDistinctKeys, Value.hasDistinctKeys]

theorem hasDistinctKeys_map {entries : List (Value × Value)} :
    (Node.map entries).hasDistinctKeys = true ↔
      (keyLiterals entries).Nodup ∧ ∀ entry ∈ entries, entry.2.hasDistinctKeys = true := by
  rw [hasDistinctKeys, Value.hasDistinctKeys, Bool.and_eq_true, decide_eq_true_eq,
    Value.entriesHaveDistinctKeys_iff]

theorem hasDistinctKeys_get {node : Node} (hdistinct : node.hasDistinctKeys = true)
    (key : String) : (node.get key).hasDistinctKeys = true := by
  cases node with
  | map entries =>
      rcases get_eq_missing_or_exists entries key with hget | ⟨entry, hentry, hget⟩
      · rw [hget]
        rfl
      · rw [hget, hasDistinctKeys_ofValue]
        exact (hasDistinctKeys_map.mp hdistinct).2 entry hentry
  | _ => rfl

theorem hasDistinctKeys_of_mem_elements {node element : Node}
    (hdistinct : node.hasDistinctKeys = true) (helement : element ∈ node.elements) :
    element.hasDistinctKeys = true := by
  cases node with
  | sequence items =>
      obtain ⟨item, hitem, rfl⟩ := List.mem_map.mp helement
      rw [hasDistinctKeys, Value.hasDistinctKeys, Value.itemsHaveDistinctKeys_iff] at hdistinct
      rw [hasDistinctKeys_ofValue]
      exact hdistinct item hitem
  | _ => cases helement

/-! ## The outline of a node -/

/-- A node without its contents: of a map and of a sequence, only that it is one. -/
def outline : Node → Node
  | .map _ => .map []
  | .sequence _ => .sequence []
  | node => node

/-! ## Entries that correspond -/

/-- Let the entries of two maps correspond, in some order, such that the keys of a pair have
the same literal form, if any.  Then under each word stand two values that correspond, or none
in both maps. -/
theorem get_of_correspondence {entries arranged entries' : List (Value × Value)}
    {related : Value × Value → Value × Value → Prop} (hperm : entries.Perm arranged)
    (hpairs : List.Forall₂ (fun entry entry' =>
      keyLiteral? entry.1 = keyLiteral? entry'.1 ∧ related entry entry') arranged entries')
    {word : String}
    (hdistinct : (entries.filter fun entry => keyLiteral? entry.1 == some word).length ≤ 1) :
    valuesOf word entries = [] ∧ valuesOf word entries' = [] ∨
      ∃ entry entry', keyLiteral? entry.1 = some word ∧ related entry entry' ∧
        valuesOf word entries = [entry.2] ∧ valuesOf word entries' = [entry'.2] := by
  -- both sides are cut down to the entries of the word, and there is at most one
  have hperm' := hperm.filter fun entry => keyLiteral? entry.1 == some word
  have hpairs' := List.rel_filter (p := fun entry => keyLiteral? entry.1 == some word)
    (q := fun entry => keyLiteral? entry.1 == some word)
    (fun entry entry' hpair => by simp only [hpair.1]) hpairs
  rcases hentries : entries.filter fun entry => keyLiteral? entry.1 == some word with
    _ | ⟨entry, _ | ⟨second, rest⟩⟩
  · rw [hentries, List.nil_perm] at hperm'
    rw [hperm', List.forall₂_nil_left_iff] at hpairs'
    exact .inl ⟨by rw [valuesOf, hentries, List.map_nil], by rw [valuesOf, hpairs', List.map_nil]⟩
  · rw [hentries, List.singleton_perm] at hperm'
    rw [← hperm', List.forall₂_cons_left_iff] at hpairs'
    obtain ⟨entry', rest', ⟨-, hrelated⟩, hrest, heq⟩ := hpairs'
    rw [List.forall₂_nil_left_iff] at hrest
    have hkey : entry ∈ entries.filter fun entry => keyLiteral? entry.1 == some word := by
      rw [hentries]
      exact List.mem_singleton_self _
    refine .inr ⟨entry, entry', by simpa using (List.mem_filter.mp hkey).2, hrelated, ?_, ?_⟩
    · rw [valuesOf, hentries, List.map_singleton]
    · rw [valuesOf, heq, hrest, List.map_singleton]
  · rw [hentries] at hdistinct
    simp at hdistinct

/-- Let the entries of two maps correspond in this way, and let the keys of the first have distinct
literal forms.  Then what is found under a word is related, if the values that correspond are. -/
theorem rel_get_of_perm {related : Node → Node → Prop} (hmissing : related .missing .missing)
    {word : String} {entries arranged entries' : List (Value × Value)}
    (hdistinct : (keyLiterals entries).Nodup) (hperm : entries.Perm arranged)
    (hpairs : List.Forall₂ (fun entry entry' : Value × Value =>
      keyLiteral? entry.1 = keyLiteral? entry'.1 ∧
        related (ofValue entry.2) (ofValue entry'.2)) arranged entries') :
    related ((Node.map entries).get word) ((Node.map entries').get word) := by
  rcases get_of_correspondence hperm hpairs (length_filter_le_one hdistinct word) with
    ⟨hnone, hnone'⟩ | ⟨entry, entry', -, hrelated, hvalue, hvalue'⟩
  · rw [get_of_valuesOf_nil hnone, get_of_valuesOf_nil hnone']
    exact hmissing
  · rw [get_of_valuesOf_singleton hvalue, get_of_valuesOf_singleton hvalue']
    exact hrelated

/-! ## Permuted entries -/

/-- Two nodes that differ in the order of the entries of their maps, at any depth and also in
their keys. -/
inductive Permuted : Node → Node → Prop
  | same (node : Node) : Permuted node node
  | sequence {items items' : List Value} (hlength : items.length = items'.length)
      (hitems : ∀ pair ∈ items.zip items', Permuted (ofValue pair.1) (ofValue pair.2)) :
      Permuted (.sequence items) (.sequence items')
  | map {entries arranged entries' : List (Value × Value)} (hperm : entries.Perm arranged)
      (hlength : arranged.length = entries'.length)
      (hkeys : ∀ pair ∈ arranged.zip entries', Permuted (ofValue pair.1.1) (ofValue pair.2.1))
      (hvalues : ∀ pair ∈ arranged.zip entries', Permuted (ofValue pair.1.2) (ofValue pair.2.2)) :
      Permuted (.map entries) (.map entries')

namespace Permuted

variable {node node' : Node}

theorem outline_eq (hpermuted : Permuted node node') : node.outline = node'.outline := by
  cases hpermuted <;> rfl

/-- Collections have no literal form, so nothing happens to literal forms. -/
theorem literal?_eq (hpermuted : Permuted node node') : node.literal? = node'.literal? := by
  cases hpermuted <;> rfl

theorem get (hpermuted : Permuted node node') (hdistinct : node.hasDistinctKeys = true)
    (key : String) : Permuted (node.get key) (node'.get key) := by
  cases hpermuted with
  | same => exact .same _
  | sequence hlength hitems => exact .same _
  | @map entries arranged entries' hperm hlength hkeys hvalues =>
      refine rel_get_of_perm (.same _) (hasDistinctKeys_map.mp hdistinct).1 hperm ?_
      refine List.forall₂_iff_zip.mpr ⟨hlength, fun hpair => ?_⟩
      exact ⟨(hkeys _ hpair).literal?_eq, hvalues _ hpair⟩

theorem elements (hpermuted : Permuted node node') :
    List.Forall₂ Permuted node.elements node'.elements := by
  cases hpermuted with
  | same => exact List.forall₂_same.mpr fun element _ => .same element
  | sequence hlength hitems =>
      exact rel_elements (List.forall₂_iff_zip.mpr ⟨hlength, fun hpair => hitems _ hpair⟩)
  | map => exact .nil

end Permuted

end Node

/-! ## Documents that a schema does not tell apart -/

namespace Schema

open Node (keyLiteral? ofValue)

/-- Whether a key has a literal form that is declared in the mapping of a schema. -/
def declares (schema : Node) (key : Value) : Bool :=
  (keyLiteral? key).any fun name => ((schema.get "mapping").entries.map (·.1)).contains name

/-- Two documents that differ, for a schema, only in what it does not look at: the order of
entries anywhere, the contents of collections where it has a leaf, and entries that its maps
do not declare.  The declared entries of two maps correspond in some order, with keys of the
same literal form and with values that no schema declared for them tells apart. -/
inductive Rearranged : Node → Node → Node → Prop
  | permuted {schema node node' : Node} (hpermuted : node.Permuted node') :
      Rearranged schema node node'
  | leafMap {schema : Node} (entries entries' : List (Value × Value))
      (hmap : (schema.get "type").text? ≠ some "map")
      (hsequence : (schema.get "type").text? ≠ some "seq") :
      Rearranged schema (.map entries) (.map entries')
  | leafSequence {schema : Node} (items items' : List Value)
      (hmap : (schema.get "type").text? ≠ some "map")
      (hsequence : (schema.get "type").text? ≠ some "seq") :
      Rearranged schema (.sequence items) (.sequence items')
  | map {schema : Node} {entries arranged entries' : List (Value × Value)}
      (htype : (schema.get "type").text? = some "map")
      (hperm : (entries.filter fun entry => declares schema entry.1).Perm arranged)
      (hkeys : arranged.map (fun entry => keyLiteral? entry.1) =
        (entries'.filter fun entry => declares schema entry.1).map fun entry =>
          keyLiteral? entry.1)
      (hvalues : ∀ pair ∈ arranged.zip (entries'.filter fun entry => declares schema entry.1),
        ∀ declared ∈ (schema.get "mapping").entries, keyLiteral? pair.1.1 = some declared.1 →
          Rearranged declared.2 (ofValue pair.1.2) (ofValue pair.2.2)) :
      Rearranged schema (.map entries) (.map entries')
  | sequence {schema item : Node} {items items' : List Value}
      (htype : (schema.get "type").text? = some "seq")
      (hitem : (schema.get "sequence").elements = [item])
      (hlength : items.length = items'.length)
      (hitems : ∀ pair ∈ items.zip items', Rearranged item (ofValue pair.1) (ofValue pair.2)) :
      Rearranged schema (.sequence items) (.sequence items')

/-- What stands under a declared name stands in a declared entry. -/
theorem filter_declares {schema : Node} {word : String}
    (hdeclared : word ∈ (schema.get "mapping").entries.map (·.1)) (entries : List (Value × Value)) :
    (entries.filter fun entry => declares schema entry.1).filter
        (fun entry => keyLiteral? entry.1 == some word) =
      entries.filter fun entry => keyLiteral? entry.1 == some word := by
  rw [List.filter_filter]
  refine List.filter_congr fun entry _ => ?_
  by_cases hkey : keyLiteral? entry.1 = some word
  · simp [declares, hkey]
    simpa using hdeclared
  · simp [hkey]

namespace Rearranged

variable {schema node node' : Node}

theorem outline_eq (hrearranged : Rearranged schema node node') : node.outline = node'.outline := by
  cases hrearranged with
  | permuted hpermuted => exact hpermuted.outline_eq
  | _ => rfl

theorem get (hrearranged : Rearranged schema node node') (hdistinct : node.hasDistinctKeys = true)
    (htype : (schema.get "type").text? = some "map") :
    ∀ declared ∈ (schema.get "mapping").entries,
      Rearranged declared.2 (node.get declared.1) (node'.get declared.1) := by
  intro declared hdeclared
  cases hrearranged with
  | permuted hpermuted => exact .permuted (hpermuted.get hdistinct _)
  | leafMap _ _ hmap => contradiction
  | leafSequence _ _ hmap => contradiction
  | sequence => exact .permuted (.same _)
  | @map _ entries arranged entries' _ hperm hkeys hvalues =>
      have hmem := List.mem_map_of_mem (f := Prod.fst) hdeclared
      have hpairs : List.Forall₂ (fun entry entry' : Value × Value =>
          keyLiteral? entry.1 = keyLiteral? entry'.1 ∧
            (keyLiteral? entry.1 = some declared.1 →
              Rearranged declared.2 (ofValue entry.2) (ofValue entry'.2)))
          arranged (entries'.filter fun entry => declares schema entry.1) := by
        have hliterals := List.forall₂_iff_zip.mp (List.forall₂_map_left_iff.mp
          (List.forall₂_map_right_iff.mp (List.forall₂_eq_eq_eq ▸ hkeys)))
        exact List.forall₂_iff_zip.mpr ⟨hliterals.1, fun hpair =>
          ⟨hliterals.2 hpair, hvalues _ hpair declared hdeclared⟩⟩
      -- keys are distinct, so at most one entry answers to the declared key, on each side
      have hone := Node.length_filter_le_one (Node.hasDistinctKeys_map.mp hdistinct).1 declared.1
      rw [← filter_declares hmem] at hone
      have hcases := Node.get_of_correspondence hperm hpairs hone
      simp only [Node.valuesOf, filter_declares hmem] at hcases
      rcases hcases with ⟨hnone, hnone'⟩ | ⟨entry, entry', hkey, hrelated, hvalue, hvalue'⟩
      · rw [get_of_valuesOf_nil hnone, get_of_valuesOf_nil hnone']
        exact .permuted (.same _)
      · rw [get_of_valuesOf_singleton hvalue, get_of_valuesOf_singleton hvalue']
        exact hrelated hkey

theorem elements (hrearranged : Rearranged schema node node')
    (htype : (schema.get "type").text? = some "seq") {item : Node}
    (hitem : (schema.get "sequence").elements = [item]) :
    List.Forall₂ (Rearranged item) node.elements node'.elements := by
  cases hrearranged with
  | permuted hpermuted => exact hpermuted.elements.imp fun _ _ => .permuted
  | leafMap _ _ _ hsequence => contradiction
  | leafSequence _ _ _ hsequence => contradiction
  | map htype' => simp [htype] at htype'
  | sequence _ hitem' hlength hitems =>
      obtain rfl := List.singleton_inj.mp (hitem.symm.trans hitem')
      exact Node.rel_elements (List.forall₂_iff_zip.mpr ⟨hlength, fun hpair => hitems _ hpair⟩)

end Rearranged

end Schema

/-! ## The same issues -/

theorem Demand.accepts_outline (demand : Demand) (node : Node) :
    demand.accepts node.outline = demand.accepts node := by
  cases demand <;> cases node <;> rfl

/-- A leaf looks at the outline of a node only. -/
theorem Rules.issues_outline (rules : Rules) (node : Node) (location : Location) :
    rules.issues node.outline location = rules.issues node location := by
  have hfound : node.outline.isFound = node.isFound := by cases node <;> rfl
  have hkind : kindIssues rules.kind node.outline location =
      kindIssues rules.kind node location := by
    cases rules.kind <;> cases node <;> rfl
  have hpattern : patternIssues rules.pattern node.outline location =
      patternIssues rules.pattern node location := by
    cases rules.pattern <;> cases node <;> rfl
  simp only [issues, hfound, hkind, hpattern]

theorem flatMap_zipIdx_of_forall₂ {α β : Type} {related : α → α → Prop} {items items' : List α}
    {report : α × Nat → List β} (hitems : List.Forall₂ related items items')
    (hreport : ∀ item ∈ items, ∀ item' index, related item item' →
      report (item, index) = report (item', index)) (start : Nat) :
    (items.zipIdx start).flatMap report = (items'.zipIdx start).flatMap report := by
  induction hitems generalizing start with
  | nil => rfl
  | cons hfirst _ ih =>
      rw [List.forall_mem_cons] at hreport
      rw [List.zipIdx_cons, List.zipIdx_cons, List.flatMap_cons, List.flatMap_cons,
        hreport.1 _ _ hfirst, ih hreport.2]

namespace CompiledSchema

open Schema (Rearranged)

theorem issues_rearranged (schema : Node) (hvalid : (ofNode schema).isValid = true) :
    ∀ {node node' : Node}, node.hasDistinctKeys = true → Rearranged schema node node' →
      ∀ location, (ofNode schema).issues node location =
        (ofNode schema).issues node' location := by
  -- the schema leads, and both documents follow it step by step
  induction schema, hvalid using validInduction with
  | map schema htype hvalid ih =>
      intro node node' hdistinct hrearranged location
      have hentries : ∀ entry ∈ (schema.get "mapping").entries,
          (ofNode entry.2).issues (node.get entry.1) (location.child entry.1) =
            (ofNode entry.2).issues (node'.get entry.1) (location.child entry.1) := by
        intro entry hentry
        exact ih entry hentry (Node.hasDistinctKeys_get hdistinct _)
          (hrearranged.get hdistinct htype entry hentry) _
      rw [issues_of_map htype hvalid, issues_of_map htype hvalid, ← Demand.accepts_outline,
        hrearranged.outline_eq, Demand.accepts_outline, List.flatMap_def, List.flatMap_def,
        List.map_congr_left hentries]
  | sequence schema item htype hitem hvalid _ ih =>
      intro node node' hdistinct hrearranged location
      rw [issues_of_sequence htype hitem hvalid, issues_of_sequence htype hitem hvalid,
        ← Demand.accepts_outline, hrearranged.outline_eq, Demand.accepts_outline,
        flatMap_zipIdx_of_forall₂ (hrearranged.elements htype hitem)]
      intro element helement element' index hpair
      exact ih (Node.hasDistinctKeys_of_mem_elements hdistinct helement) hpair _
  | leaf schema rules hmap hsequence hvalid hrules hissues =>
      intro node node' _ hrearranged location
      rw [hissues, hissues, ← Rules.issues_outline, hrearranged.outline_eq, Rules.issues_outline]

/-- **Only declared keys matter, and their order does not.**  Two documents that a valid schema
does not look at differently have the same issues in the same order, if the keys of each map
of the first have distinct literal forms. -/
theorem run_rearranged (schema document document' : Node)
    (hvalid : (ofNode schema).isValid = true) (hdistinct : document.hasDistinctKeys = true)
    (hrearranged : Rearranged schema document document') :
    run (ofNode schema).checks document = run (ofNode schema).checks document' := by
  rw [run_eq_issues, run_eq_issues]
  exact issues_rearranged schema hvalid hdistinct hrearranged .root

open Interpreter (sampleSchema)

/-- A name that is a map with the given entries, where the sample schema has a leaf. -/
def nameEntry (entries : List (Value × Value)) : Value × Value := (.text "name", .mapping entries)

/-- Flags that are none. -/
def flagsEntry : Value × Value := (.text "flags", .sequence [.text "on", .null])

/-- A name, flags and a note. -/
def notedDocument : Node :=
  .map [nameEntry [(.text "a", .null)], flagsEntry, (.text "note", .text "x")]

/-- A key without a literal form, the same flags and another name. -/
def unnotedDocument : Node :=
  .map [(.null, .text "y"), flagsEntry, nameEntry [(.text "b", .truth true), (.text "c", .null)]]

theorem rearranged_notedDocument : Rearranged sampleSchema notedDocument unnotedDocument := by
  have hperm : [nameEntry [(.text "a", .null)], flagsEntry].Perm
      [flagsEntry, nameEntry [(.text "a", .null)]] := .swap _ _ _
  have hleaf : ∀ declared ∈ (sampleSchema.get "mapping").entries, declared.1 = "name" →
      (declared.2.get "type").text? ≠ some "map" ∧
        (declared.2.get "type").text? ≠ some "seq" := by
    decide +kernel
  refine .map rfl hperm rfl fun pair hpair declared hdeclared hkey => ?_
  have hpairs : pair ∈ [(flagsEntry, flagsEntry), (nameEntry [(.text "a", .null)],
      nameEntry [(.text "b", .truth true), (.text "c", .null)])] := hpair
  simp only [List.mem_cons, List.not_mem_nil, or_false] at hpairs
  rcases hpairs with rfl | rfl
  · exact .permuted (.same _)
  · obtain ⟨hmap, hsequence⟩ := hleaf declared hdeclared (Option.some_inj.mp hkey).symm
    exact .leafMap _ _ hmap hsequence

/-- All three kinds of differences at once. -/
theorem run_rearranged_notedDocument :
    (ofNode sampleSchema).isValid = true ∧ notedDocument.hasDistinctKeys = true ∧
      Rearranged sampleSchema notedDocument unnotedDocument ∧
      run (ofNode sampleSchema).checks notedDocument =
        run (ofNode sampleSchema).checks unnotedDocument ∧
      (run (ofNode sampleSchema).checks notedDocument).map Issue.message =
        ["the root.name property must be a scalar value", "the flags[0] property must be a boolean",
          "Missing required property <[1]> in <root.flags>"] := by
  have hvalid : (ofNode sampleSchema).isValid = true := by decide +kernel
  have hdistinct : notedDocument.hasDistinctKeys = true := by decide +kernel
  exact ⟨hvalid, hdistinct, rearranged_notedDocument,
    run_rearranged sampleSchema notedDocument unnotedDocument hvalid hdistinct
      rearranged_notedDocument, by decide +kernel⟩

end CompiledSchema

end MtaCheck
