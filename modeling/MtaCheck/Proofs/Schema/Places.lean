import MtaCheck.Proofs.Node.Lookup
import MtaCheck.Proofs.Schema.Compiled
import MtaCheck.Proofs.Schema.Interpreter

/-!
# The places of reported issues

A check goes down a document and lengthens the location that it reports, and it does so in two
separate computations.  This file ties them together.  A way into a document is a list of
steps, names and indices.  It leads a node to a node (`Node.follow`), a location to a location
(`Location.follow`) and a schema to the schemas that are asked there (`Schema.Governs`).

`Schema.Blames` says without any check what a schema may say of a node, word by word, and when
it is true.  The main result, `exists_blame_of_mem_run`, is that an issue of a whole
document always comes with one way on which the location in its text, the node that it is about
and the schema that it quotes are found together.
-/

namespace MtaCheck

open Check
open Interpreter (mustBe mustBe_eq_message)

/-! ## Ways into a document -/

namespace Schema

/-- The schemas that a schema asks at the end of a way: below a map those of its mapping, by
name, and below a sequence its only one, whatever the index. -/
inductive Governs : Node → List Step → Node → Prop
  | here {schema : Node} : Governs schema [] schema
  | name {schema sub target : Node} {key : String} {steps : List Step}
      (htype : (schema.get "type").text? = some "map")
      (hentry : (key, sub) ∈ (schema.get "mapping").entries) (hrest : Governs sub steps target) :
      Governs schema (.name key :: steps) target
  | index {schema item target : Node} {index : Nat} {steps : List Step}
      (htype : (schema.get "type").text? = some "seq")
      (hitem : (schema.get "sequence").elements = [item]) (hrest : Governs item steps target) :
      Governs schema (.index index :: steps) target

/-! ## What may be said of a node -/

/-- What a schema says of a node at a place, and when it may.  The allowed values of an
enumeration are the literal forms under `enums`, of which the first four are listed. -/
inductive Blames (schema node : Node) (location : Location) : String → Prop
  | missing (hrequired : schema.get "required" = .scalar (.truth true)) (hnode : node = .missing) :
      Blames schema node location ("Missing required property <" ++ location.leaf?.getD "" ++
        "> in <" ++ location.parent.display ++ ">")
  | notMap (htype : (schema.get "type").text? = some "map") (hfound : node.isFound = true)
      (hnode : node.isMap = false) :
      Blames schema node location (mustBe location "a map")
  | notArray (htype : (schema.get "type").text? = some "seq") (hfound : node.isFound = true)
      (hnode : node.isSequence = false) :
      Blames schema node location (mustBe location "an array")
  | notBoolean (htype : (schema.get "type").text? = some "bool") (hfound : node.isFound = true)
      (hnode : ∀ value, node ≠ .scalar (.truth value)) :
      Blames schema node location (mustBe location "a boolean")
  | notScalar (hrule : (schema.get "type").text? = some "enum" ∨
        (schema.get "pattern").isFound = true)
      (hnode : node.isMap = true ∨ node.isSequence = true) :
      Blames schema node location (mustBe location "a scalar value")
  | mismatch {text value : String} {regex : Regex}
      (hpattern : (schema.get "pattern").text? = some text)
      (hregex : Regex.ofSource (Rules.withoutSlashes text) = .ok regex)
      (hnode : node.literal? = some value) (hmatch : regex.isMatch value = false) :
      Blames schema node location ("the " ++ location.display ++ " property with the " ++ value ++
        " value does not match the " ++ Rules.withoutSlashes text ++ " pattern")
  | notAllowed {values : List String} {value : String}
      (htype : (schema.get "type").text? = some "enum")
      (hvalues : (schema.get "enums").elements.map Node.literal? = values.map some)
      (hnode : node.literal? = some value) (hallowed : value ∉ values) :
      Blames schema node location ("the " ++ location.display ++ " property with the " ++ value ++
        " value is not one of the expected values [" ++ ",".intercalate (values.take 4) ++ "]")

end Schema

/-! ## What a leaf reports -/

theorem Check.mem_reportUnless {fine : Bool} {location : Location} {finding : Finding}
    {issue : Issue} :
    issue ∈ reportUnless fine location finding ↔
      fine = false ∧ issue = .finding location finding := by
  cases fine <;> simp [reportUnless]

/-- No demand is made of a missing node. -/
theorem Check.isFound_of_refused {demand : Demand} {node : Node}
    (hrefused : demand.accepts node = false) : node.isFound = true := by
  cases node with
  | missing => cases demand <;> cases hrefused
  | _ => rfl

/-- An issue of a literal form is about a scalar that is not accepted, or about a collection,
which has no literal form. -/
theorem Check.literalIssues_cases {accepts : String → Bool} {fault : String → Finding}
    {node : Node} {location : Location} {issue : Issue}
    (hissue : issue ∈ literalIssues accepts fault node location) :
    (∃ value, node.literal? = some value ∧ accepts value = false ∧
        issue = .finding location (fault value)) ∨
      (node.isMap = true ∨ node.isSequence = true) ∧
        issue = .finding location (.wrongKind .scalar) := by
  cases node with
  | missing => simp [literalIssues] at hissue
  | scalar leaf =>
      obtain ⟨hrefused, rfl⟩ := mem_reportUnless.mp hissue
      exact .inl ⟨leaf.literal, rfl, hrefused, rfl⟩
  | map entries => exact .inr ⟨.inl rfl, List.mem_singleton.mp hissue⟩
  | sequence items => exact .inr ⟨.inr rfl, List.mem_singleton.mp hissue⟩

namespace Rules

variable {schema node : Node} {location : Location} {issue : Issue}

/-- An issue of a leaf is about its presence, its kind or its pattern. -/
theorem issues_cases {rules : Rules} (hissue : issue ∈ rules.issues node location) :
    rules.required = some true ∧ node = .missing ∧ issue = .finding location .missing ∨
      issue ∈ kindIssues rules.kind node location ∨
        issue ∈ patternIssues rules.pattern node location := by
  rw [issues] at hissue
  split at hissue
  · rename_i hrequired
    split at hissue
    · split at hissue
      · exact .inr (.inr hissue)
      · exact .inr (.inl hissue)
    · rename_i hfound
      refine .inl ⟨hrequired, ?_, List.mem_singleton.mp hissue⟩
      cases node <;> simp_all [Node.isFound]
  · exact .inr (List.mem_append.mp hissue)

theorem blames_of_mem_kindIssues {kind : LeafKind} (hread : readKind schema = .ok kind)
    (hissue : issue ∈ kindIssues kind node location) :
    Schema.Blames schema node location issue.message := by
  rcases readKind_cases hread with
    ⟨htype, rfl⟩ | ⟨values, htype, hvalues, rfl⟩ | ⟨-, -, rfl⟩
  · rw [kindIssues, mem_reportUnless] at hissue
    obtain ⟨hrefused, rfl⟩ := hissue
    rw [Issue.message_finding, ← mustBe_eq_message]
    refine .notBoolean htype (isFound_of_refused hrefused) ?_
    rintro value rfl
    cases hrefused
  · rw [kindIssues] at hissue
    rcases literalIssues_cases hissue with ⟨value, hnode, hrefused, rfl⟩ | ⟨hnode, rfl⟩
    · rw [Issue.message_finding, Finding.message_notAllowed]
      refine .notAllowed htype (map_literal?_eq_of_values hvalues) hnode ?_
      simpa using hrefused
    · rw [Issue.message_finding, ← mustBe_eq_message]
      exact .notScalar (.inl htype) hnode
  · cases hissue

theorem blames_of_mem_patternIssues {pattern : Option Regex}
    (hread : readPattern schema = .ok pattern)
    (hissue : issue ∈ patternIssues pattern node location) :
    Schema.Blames schema node location issue.message := by
  rcases readPattern_cases hread with ⟨-, rfl⟩ | ⟨text, regex, htext, hregex, rfl⟩
  · cases hissue
  · rw [patternIssues] at hissue
    rcases literalIssues_cases hissue with ⟨value, hnode, hrefused, rfl⟩ | ⟨hnode, rfl⟩
    · rw [Issue.message_finding, Finding.message_patternMismatch, Regex.source_eq_of_ofSource hregex]
      exact .mismatch htext hregex hnode hrefused
    · rw [Issue.message_finding, ← mustBe_eq_message]
      refine .notScalar (.inr ?_) hnode
      cases hpattern : schema.get "pattern" <;> simp_all [Node.text?, Node.isFound]

/-- A leaf says of a node only what is true of it. -/
theorem blames_of_mem_issues {rules : Rules} (hread : Rules.ofNode schema = .ok rules)
    (hissue : issue ∈ rules.issues node location) :
    Schema.Blames schema node location issue.message := by
  obtain ⟨hkind, hpattern, hrequired⟩ := ofNode_eq_ok hread
  rcases issues_cases hissue with ⟨htrue, hmissing, rfl⟩ | hissue | hissue
  · rw [Issue.message_finding, Finding.message_missing]
    rcases readRequired_cases hrequired with ⟨-, hnone⟩ | ⟨value, hnode, hvalue⟩
    · rw [hnone] at htrue
      cases htrue
    · rw [hvalue] at htrue
      cases htrue
      exact .missing hnode hmissing
  · exact blames_of_mem_kindIssues hkind hissue
  · exact blames_of_mem_patternIssues hpattern hissue

end Rules

/-! ## What a schema reports -/

namespace CompiledSchema

/-- Node, place and schema are found on the same way, wherever it begins. -/
theorem exists_blame_of_mem_issues (schema : Node) (hvalid : (ofNode schema).isValid = true) :
    ∀ node location, ∀ issue ∈ (ofNode schema).issues node location,
      ∃ steps target, Schema.Governs schema steps target ∧
        Schema.Blames target (node.follow steps) (location.follow steps) issue.message := by
  -- a way grows at its front, for the node, the place and the schema alike
  induction schema, hvalid using validInduction with
  | map schema htype hvalid ih =>
      intro node location issue hissue
      rw [issues_of_map htype hvalid, List.mem_append, List.mem_flatMap] at hissue
      rcases hissue with hkind | ⟨⟨key, sub⟩, hentry, hissue⟩
      · obtain ⟨hrefused, rfl⟩ := mem_reportUnless.mp hkind
        have hblames : Schema.Blames schema node location (mustBe location "a map") :=
          .notMap htype (isFound_of_refused hrefused)
            (by cases node <;> simp_all [Node.isMap, Demand.accepts])
        refine ⟨[], schema, .here, ?_⟩
        rw [Issue.message_finding, ← mustBe_eq_message]
        exact hblames
      · obtain ⟨steps, target, hgoverns, hblames⟩ := ih _ hentry _ _ issue hissue
        exact ⟨.name key :: steps, target, .name htype hentry hgoverns, hblames⟩
  | sequence schema item htype helements hvalid hitem ih =>
      intro node location issue hissue
      rw [issues_of_sequence htype helements hvalid] at hissue
      split at hissue
      · obtain ⟨⟨element, index⟩, helement, hissue⟩ := List.mem_flatMap.mp hissue
        obtain ⟨steps, target, hgoverns, hblames⟩ := ih _ _ issue hissue
        refine ⟨.index index :: steps, target, .index htype helements hgoverns, ?_⟩
        rw [Node.follow_cons, Node.step, Node.at?_of_mem_zipIdx helement]
        exact hblames
      · rename_i hrefused
        obtain rfl := List.mem_singleton.mp hissue
        have hblames : Schema.Blames schema node location (mustBe location "an array") :=
          .notArray htype (isFound_of_refused (by simpa using hrefused))
            (by cases node <;> simp_all [Node.isSequence, Demand.accepts])
        refine ⟨[], schema, .here, ?_⟩
        rw [Issue.message_finding, ← mustBe_eq_message]
        exact hblames
  | leaf schema rules hmap hsequence hvalid hrules hissues =>
      intro node location issue hissue
      rw [hissues] at hissue
      exact ⟨[], schema, .here, Rules.blames_of_mem_issues hrules hissue⟩

/-- **Every reported issue is true of the document at the place it names.**  Whatever a valid
schema reports of a document, there is a way from the root such that the text speaks of the
place at its end, is true of the node at its end, and appeals to a schema that is asked
there. -/
theorem exists_blame_of_mem_run (schema document : Node)
    (hvalid : (ofNode schema).isValid = true) :
    ∀ issue ∈ run (ofNode schema).checks document,
      ∃ steps target, Schema.Governs schema steps target ∧
        Schema.Blames target (document.follow steps) (Location.root.follow steps)
          issue.message := by
  intro issue hissue
  rw [run_eq_issues] at hissue
  exact exists_blame_of_mem_issues schema hvalid document .root issue hissue

open Interpreter (sampleSchema sampleDocument) in
/-- Of a sequence of truth values with a number in it, something is said of the number. -/
theorem exists_blame_of_flags :
    (ofNode sampleSchema).isValid = true ∧
      ∃ issue ∈ run (ofNode sampleSchema).checks sampleDocument,
        issue.message = "the flags[2] property must be a boolean" ∧
          ∃ steps target, Schema.Governs sampleSchema steps target ∧
            Schema.Blames target (sampleDocument.follow steps) (Location.root.follow steps)
              issue.message := by
  have hvalid : (ofNode sampleSchema).isValid = true := by decide +kernel
  have hreported : "the flags[2] property must be a boolean" ∈
      (run (ofNode sampleSchema).checks sampleDocument).map Issue.message := by decide +kernel
  obtain ⟨issue, hissue, hmessage⟩ := List.mem_map.mp hreported
  exact ⟨hvalid, issue, hissue, hmessage,
    exists_blame_of_mem_run sampleSchema sampleDocument hvalid issue hissue⟩

end CompiledSchema

end MtaCheck
