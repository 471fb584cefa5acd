import MtaCheck.Proofs.Schema.Issues
import MtaCheck.Proofs.Schema.Reading

/-!
# What a compiled schema reports, read off its document

`Schema.issues` follows the schema that a document has been read as.  The statements about
schemas are about the document itself, so its three equations are carried over here:

* `issues_of_map`, `issues_of_sequence` and `exists_rules_of_leaf` say what a valid schema
  reports, one for each form that its `type` announces;
* `validInduction` is the induction along the schemas inside of a valid one, all of which are
  valid themselves.

A theorem about all valid schemas needs nothing else: it has no reading to carry along.
-/

namespace MtaCheck

open Check

namespace CompiledSchema

/-- What a compiled schema reports of a node at a place. -/
def issues (compiled : CompiledSchema) (node : Node) (location : Location) : List Issue :=
  evaluateAll compiled.checks node location

theorem run_eq_issues (compiled : CompiledSchema) (document : Node) :
    run compiled.checks document = compiled.issues document .root := rfl

variable {schema : Node}

theorem issues_ofNode {read : Schema} (hread : Schema.ofNode schema = .ok read) (node : Node)
    (location : Location) : (ofNode schema).issues node location = read.issues node location := by
  rw [issues, checks_ofNode hread, Schema.issues]

/-- The checks of a compiled schema are composed, or there are none. -/
theorem areComposed_checks (schema : Node) : areComposed (ofNode schema).checks = true := by
  cases hread : Schema.ofNode schema with
  | ok read =>
      rw [checks_ofNode hread]
      exact Schema.areComposed_checks read
  | error defects =>
      rw [ofNode, hread]
      rfl

/-! ## The schemas inside of a valid one -/

theorem isValid_entry (htype : (schema.get "type").text? = some "map")
    (hvalid : (ofNode schema).isValid = true) :
    ∀ entry ∈ (schema.get "mapping").entries, (ofNode entry.2).isValid = true := by
  intro entry hentry
  obtain ⟨read, hread⟩ := isValid_ofNode_iff.mp hvalid
  obtain ⟨entries, -, hentries⟩ := Schema.ofNode_map_eq_ok htype hread
  have hmem := List.mem_map_of_mem
    (f := fun entry => (Schema.ofNode entry.2).map fun sub => (entry.1, sub)) hentry
  rw [hentries] at hmem
  obtain ⟨value, -, hvalue⟩ := List.mem_map.mp hmem
  obtain ⟨sub, hsub, -⟩ := map_eq_ok hvalue.symm
  exact isValid_ofNode_iff.mpr ⟨sub, hsub⟩

theorem exists_item (htype : (schema.get "type").text? = some "seq")
    (hvalid : (ofNode schema).isValid = true) :
    ∃ item, (schema.get "sequence").elements = [item] ∧ (ofNode item).isValid = true := by
  obtain ⟨read, hread⟩ := isValid_ofNode_iff.mp hvalid
  obtain ⟨item, sub, helements, hsub, -⟩ := Schema.ofNode_sequence_eq_ok htype hread
  exact ⟨item, helements, isValid_ofNode_iff.mpr ⟨sub, hsub⟩⟩

theorem isValid_item (htype : (schema.get "type").text? = some "seq") {item : Node}
    (helements : (schema.get "sequence").elements = [item])
    (hvalid : (ofNode schema).isValid = true) : (ofNode item).isValid = true := by
  obtain ⟨source, hsource, hitem⟩ := exists_item htype hvalid
  rw [helements, List.singleton_inj] at hsource
  rw [hsource]
  exact hitem

/-! ## What it reports, by its type -/

/-- A map demands a map and asks the schema of each entry about the property of its name. -/
theorem issues_of_map (htype : (schema.get "type").text? = some "map")
    (hvalid : (ofNode schema).isValid = true) (node : Node) (location : Location) :
    (ofNode schema).issues node location =
      reportUnless (Demand.map.accepts node) location (.wrongKind .map) ++
        (schema.get "mapping").entries.flatMap fun entry =>
          (ofNode entry.2).issues (node.get entry.1) (location.child entry.1) := by
  obtain ⟨read, hread⟩ := isValid_ofNode_iff.mp hvalid
  obtain ⟨entries, rfl, hentries⟩ := Schema.ofNode_map_eq_ok htype hread
  rw [issues_ofNode hread, Schema.issues_map]
  congr 1
  refine flatMap_eq_of_map_eq_map_ok hentries fun entry _ value hvalue => ?_
  obtain ⟨sub, hsub, rfl⟩ := map_eq_ok hvalue
  exact (issues_ofNode hsub _ _).symm

/-- A sequence demands an array and, if there is one, asks its schema about each element. -/
theorem issues_of_sequence (htype : (schema.get "type").text? = some "seq") {item : Node}
    (helements : (schema.get "sequence").elements = [item])
    (hvalid : (ofNode schema).isValid = true) (node : Node) (location : Location) :
    (ofNode schema).issues node location =
      if Demand.array.accepts node then
        node.elements.zipIdx.flatMap fun element =>
          (ofNode item).issues element.1 (location.index element.2)
      else [.finding location (.wrongKind .array)] := by
  obtain ⟨read, hread⟩ := isValid_ofNode_iff.mp hvalid
  obtain ⟨source, sub, hsource, hsub, rfl⟩ := Schema.ofNode_sequence_eq_ok htype hread
  obtain rfl : source = item := by simpa using hsource.symm.trans helements
  rw [issues_ofNode hread, Schema.issues_sequence]
  simp only [issues_ofNode hsub]

/-- A leaf has rules and reports what they report. -/
theorem exists_rules_of_leaf (hmap : (schema.get "type").text? ≠ some "map")
    (hsequence : (schema.get "type").text? ≠ some "seq")
    (hvalid : (ofNode schema).isValid = true) :
    ∃ rules, Rules.ofNode schema = .ok rules ∧ ∀ node location,
      (ofNode schema).issues node location = rules.issues node location := by
  obtain ⟨read, hread⟩ := isValid_ofNode_iff.mp hvalid
  obtain ⟨rules, hrules, rfl⟩ := Schema.ofNode_leaf_eq_ok hmap hsequence hread
  refine ⟨rules, hrules, fun node location => ?_⟩
  rw [issues_ofNode hread, Schema.issues_leaf]

/-! ## Induction -/

/-- What holds of a valid schema as soon as it holds of the valid schemas directly inside of
it, holds of every valid schema. -/
theorem validInduction {motive : (schema : Node) → (ofNode schema).isValid = true → Prop}
    (map : ∀ (schema : Node) (htype : (schema.get "type").text? = some "map")
      (hvalid : (ofNode schema).isValid = true),
      (∀ entry, ∀ hentry : entry ∈ (schema.get "mapping").entries,
        motive entry.2 (isValid_entry htype hvalid entry hentry)) → motive schema hvalid)
    (sequence : ∀ (schema item : Node), (schema.get "type").text? = some "seq" →
      (schema.get "sequence").elements = [item] →
      ∀ (hvalid : (ofNode schema).isValid = true) (hitem : (ofNode item).isValid = true),
        motive item hitem → motive schema hvalid)
    (leaf : ∀ (schema : Node) (rules : Rules), (schema.get "type").text? ≠ some "map" →
      (schema.get "type").text? ≠ some "seq" → ∀ hvalid : (ofNode schema).isValid = true,
      Rules.ofNode schema = .ok rules →
      (∀ node location, (ofNode schema).issues node location = rules.issues node location) →
      motive schema hvalid)
    (schema : Node) (hvalid : (ofNode schema).isValid = true) : motive schema hvalid := by
  -- whatever is directly inside of a valid schema is valid, so that the hypotheses apply to it
  induction schema using Node.schemaInduction with
  | map schema htype ih =>
      refine map schema htype hvalid fun entry hentry => ?_
      exact ih entry hentry (isValid_entry htype hvalid entry hentry)
  | sequence schema htype ih =>
      obtain ⟨item, helements, hitem⟩ := exists_item htype hvalid
      exact sequence schema item htype helements hvalid hitem
        (ih item (by simp [helements]) hitem)
  | leaf schema hmap hsequence =>
      obtain ⟨rules, hrules, hissues⟩ := exists_rules_of_leaf hmap hsequence hvalid
      exact leaf schema rules hmap hsequence hvalid hrules hissues

end CompiledSchema

end MtaCheck
