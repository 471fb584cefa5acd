import MtaCheck.Proofs.Check.Wording
import MtaCheck.Proofs.Schema.Issues
import MtaCheck.Proofs.Schema.Reading

/-!
# Interpreting a schema directly

A schema is compiled before it is used: its document is read as a `Schema`, which is
turned into checks, which are evaluated.  `Interpreter.messages` says without any of
that what a schema document means for another document.  It goes down both together
and writes out every message as it is read by a user.

`evaluateAll_compiled_eq_messages` is the agreement of the two: for each schema that
compiles, on every node and at every place, the compiled checks report the messages
of the interpreter, in its order and no others.
-/

namespace MtaCheck

namespace Interpreter

/-! ## Leaves -/

/-- The message that a value is not what it must be. -/
def mustBe (location : Location) (words : String) : String :=
  "the " ++ location.display ++ " property must be " ++ words

/-- The messages about a value whose literal form is under a rule.  Nothing is said
of a missing value, and of a map or a sequence only that it is no scalar. -/
def scalarMessages (rule : String → List String) (document : Node) (location : Location) :
    List String :=
  match document with
  | .missing => []
  | .scalar leaf => rule leaf.literal
  | .map _ | .sequence _ => [mustBe location "a scalar value"]

/-- The messages about a value that has to be a truth value. -/
def booleanMessages (document : Node) (location : Location) : List String :=
  match document with
  | .missing | .scalar (.truth _) => []
  | _ => [mustBe location "a boolean"]

/-- The literal forms under `enums`. -/
def allowed (schema : Node) : List String := (schema.get "enums").elements.filterMap Node.literal?

/-- The messages about the `type` of a leaf.  Of the allowed values the first four
are quoted. -/
def kindMessages (schema document : Node) (location : Location) : List String :=
  match (schema.get "type").text? with
  | some "bool" => booleanMessages document location
  | some "enum" =>
      scalarMessages (fun value =>
        if value ∈ allowed schema then []
        else ["the " ++ location.display ++ " property with the " ++ value
          ++ " value is not one of the expected values ["
          ++ ",".intercalate ((allowed schema).take 4) ++ "]"]) document location
  | _ => []

/-- The messages about the `pattern` of a leaf, which stands between slashes. -/
def patternMessages (schema document : Node) (location : Location) : List String :=
  match (schema.get "pattern").text? with
  | none => []
  | some text =>
      let pattern := Rules.withoutSlashes text
      match Regex.ofSource pattern with
      | .error _ => []
      | .ok regex =>
          scalarMessages (fun value =>
            if regex.isMatch value then []
            else ["the " ++ location.display ++ " property with the " ++ value
              ++ " value does not match the " ++ pattern ++ " pattern"]) document location

/-- The messages of a leaf.  A required leaf asks for the presence, then for the kind
and then for the pattern, and says only the first that it has to say. -/
def leafMessages (schema document : Node) (location : Location) : List String :=
  let kind := kindMessages schema document location
  let pattern := patternMessages schema document location
  match schema.get "required" with
  | .scalar (.truth true) =>
      if document.isFound then if kind.isEmpty then pattern else kind
      else ["Missing required property <" ++ location.leaf?.getD "" ++ "> in <"
        ++ location.parent.display ++ ">"]
  | _ => kind ++ pattern

/-! ## Schemas -/

/-- The messages of a schema about a document at a place. -/
def messages (schema document : Node) (location : Location) : List String :=
  match (schema.get "type").text? with
  | some "map" =>
      (if document.isFound && !document.isMap then [mustBe location "a map"] else [])
        ++ (schema.get "mapping").entries.attach.flatMap fun ⟨(key, sub), _⟩ =>
          messages sub (document.get key) (location.child key)
  | some "seq" =>
      if document.isFound && !document.isSequence then [mustBe location "an array"]
      else match _hitems : (schema.get "sequence").elements with
        | [item] => document.elements.zipIdx.flatMap fun element =>
            messages item element.1 (location.index element.2)
        | _ => []
  | _ => leafMessages schema document location
termination_by schema.weight
decreasing_by
  · rename_i hmem
    have hentry := Node.weight_lt_of_mem_entries hmem
    have hmapping := schema.weight_get_le "mapping"
    omega
  · have hmem : item ∈ (schema.get "sequence").elements := by simp [_hitems]
    have hitem := Node.weight_lt_of_mem_elements hmem
    have hsequence := schema.weight_get_le "sequence"
    omega

/-! ## One step of the interpreter -/

variable {schema : Node} (document : Node) (location : Location)

theorem messages_of_map (htype : (schema.get "type").text? = some "map") :
    messages schema document location =
      (if document.isFound && !document.isMap then [mustBe location "a map"] else [])
        ++ (schema.get "mapping").entries.flatMap fun entry =>
          messages entry.2 (document.get entry.1) (location.child entry.1) := by
  rw [messages, htype]
  simp only [List.flatMap_def, List.map_attach_eq_pmap, List.pmap_eq_map]

theorem messages_of_sequence (htype : (schema.get "type").text? = some "seq") {item : Node}
    (hitem : (schema.get "sequence").elements = [item]) :
    messages schema document location =
      if document.isFound && !document.isSequence then [mustBe location "an array"]
      else document.elements.zipIdx.flatMap fun element =>
        messages item element.1 (location.index element.2) := by
  rw [messages, htype]
  simp only
  split
  · rfl
  · split
    · rename_i only helements
      rw [hitem] at helements
      cases helements
      rfl
    · rename_i hnone
      exact absurd hitem (hnone item)

theorem messages_of_leaf (hmap : (schema.get "type").text? ≠ some "map")
    (hsequence : (schema.get "type").text? ≠ some "seq") :
    messages schema document location = leafMessages schema document location := by
  rw [messages]
  split
  · contradiction
  · contradiction
  · rfl

/-! ## Agreement with the compiled checks -/

theorem mustBe_eq_message (demand : Demand) :
    mustBe location demand.words = (Finding.wrongKind demand).message location := by
  rw [Finding.message_wrongKind, mustBe]

theorem map_message_reportUnless (fine : Bool) (finding : Finding) :
    (Check.reportUnless fine location finding).map Issue.message =
      if fine then [] else [finding.message location] := by
  cases fine <;> rfl

/-- The guarded checks of literal forms say what the rule says, if the rule says the
message of their fault just of the literal forms that they do not accept. -/
theorem map_message_literalIssues {accepts : String → Bool} {fault : String → Finding}
    {rule : String → List String}
    (hrule : ∀ value, rule value =
      if accepts value then [] else [(fault value).message location]) :
    (Check.literalIssues accepts fault document location).map Issue.message =
      scalarMessages rule document location := by
  have hscalar : mustBe location "a scalar value" =
      (Finding.wrongKind .scalar).message location := mustBe_eq_message location .scalar
  cases document with
  | missing => rfl
  | scalar leaf =>
      rw [scalarMessages, hrule, Check.literalIssues, map_message_reportUnless]
  | map entries =>
      rw [scalarMessages, hscalar]
      rfl
  | sequence items =>
      rw [scalarMessages, hscalar]
      rfl

/-- The allowed values that a leaf has read are those that stand under `enums`. -/
theorem allowed_eq_of_values {values : List String} (hread : Rules.values schema = .ok values) :
    allowed schema = values := by
  have hliterals := Rules.map_literal?_eq_of_values hread
  calc allowed schema
      = ((schema.get "enums").elements.map Node.literal?).filterMap id := by
        rw [List.filterMap_map]
        rfl
    _ = values := by
        rw [hliterals, List.filterMap_map]
        exact List.filterMap_some

theorem map_message_kindIssues {kind : LeafKind} (hread : Rules.readKind schema = .ok kind) :
    (Rules.kindIssues kind document location).map Issue.message =
      kindMessages schema document location := by
  rcases Rules.readKind_cases hread with
    ⟨htype, rfl⟩ | ⟨values, htype, hvalues, rfl⟩ | ⟨hbool, henum, rfl⟩
  · rw [kindMessages, htype, Rules.kindIssues, map_message_reportUnless,
      ← mustBe_eq_message location .boolean]
    cases document with
    | scalar leaf => cases leaf <;> rfl
    | _ => rfl
  · rw [kindMessages, htype, Rules.kindIssues]
    refine map_message_literalIssues document location fun value => ?_
    rw [allowed_eq_of_values hvalues, Finding.message_notAllowed, listedValues]
    simp only [List.contains_iff_mem]
  · rw [kindMessages]
    split
    · contradiction
    · contradiction
    · rfl

theorem map_message_patternIssues {pattern : Option Regex}
    (hread : Rules.readPattern schema = .ok pattern) :
    (Rules.patternIssues pattern document location).map Issue.message =
      patternMessages schema document location := by
  rcases Rules.readPattern_cases hread with ⟨htext, rfl⟩ | ⟨text, regex, htext, hregex, rfl⟩
  · rw [patternMessages, htext]
    rfl
  · rw [patternMessages, htext, Rules.patternIssues]
    simp only [hregex]
    refine map_message_literalIssues document location fun value => ?_
    rw [Finding.message_patternMismatch, Regex.source_eq_of_ofSource hregex]

theorem map_message_leaf {rules : Rules} (hread : Rules.ofNode schema = .ok rules) :
    (rules.issues document location).map Issue.message =
      leafMessages schema document location := by
  obtain ⟨hkind, hpattern, hrequired⟩ := Rules.ofNode_eq_ok hread
  rw [leafMessages, ← map_message_kindIssues document location hkind,
    ← map_message_patternIssues document location hpattern, Rules.issues]
  rcases Rules.readRequired_cases hrequired with ⟨hnode, hvalue⟩ | ⟨value, hnode, hvalue⟩
  · rw [hnode, hvalue]
    exact List.map_append
  · rw [hnode, hvalue]
    cases value with
    | false => exact List.map_append
    | true =>
        cases document.isFound with
        | false =>
            rw [← Finding.message_missing location]
            rfl
        | true => cases Rules.kindIssues rules.kind document location <;> rfl

/-- A schema that has been read reports what the interpreter says of its document. -/
theorem map_message_issues (schema : Node) :
    ∀ {read : Schema}, Schema.ofNode schema = .ok read → ∀ document location,
      (read.issues document location).map Issue.message =
        messages schema document location := by
  induction schema using Node.schemaInduction with
  | map schema htype ih =>
      intro read hread document location
      obtain ⟨entries, rfl, hentries⟩ := Schema.ofNode_map_eq_ok htype hread
      rw [messages_of_map document location htype, Schema.issues_map, List.map_append,
        map_message_reportUnless, List.map_flatMap, ← mustBe_eq_message location .map]
      congr 1
      · cases document <;> rfl
      · refine flatMap_eq_of_map_eq_map_ok hentries fun entry hentry value hvalue => ?_
        obtain ⟨sub, hsub, rfl⟩ := map_eq_ok hvalue
        exact ih entry hentry hsub _ _
  | sequence schema htype ih =>
      intro read hread document location
      obtain ⟨source, item, helements, hitem, rfl⟩ := Schema.ofNode_sequence_eq_ok htype hread
      have hsource : source ∈ (schema.get "sequence").elements := by simp [helements]
      rw [messages_of_sequence document location htype helements, Schema.issues_sequence]
      have harray : mustBe location "an array" =
          (Finding.wrongKind .array).message location := mustBe_eq_message location .array
      have helement : ∀ element : Node × Nat,
          (item.issues element.1 (location.index element.2)).map Issue.message =
            messages source element.1 (location.index element.2) :=
        fun element => ih source hsource hitem _ _
      -- only of a sequence there are elements to be asked about
      cases document with
      | map entries =>
          rw [harray]
          rfl
      | scalar leaf =>
          rw [harray]
          rfl
      | missing => rfl
      | sequence items =>
          simp only [Demand.accepts, if_true, Node.isFound, Node.isSequence, List.map_flatMap,
            helement]
          rfl
  | leaf schema hmap hsequence =>
      intro read hread document location
      obtain ⟨rules, hrules, rfl⟩ := Schema.ofNode_leaf_eq_ok hmap hsequence hread
      rw [messages_of_leaf document location hmap hsequence, Schema.issues_leaf]
      exact map_message_leaf document location hrules

/-- **Compiling a schema and running its checks is interpreting it.**  For every schema
without defects, on every node and at every place, the compiled checks report the
messages that the interpreter reads off the document of the schema. -/
theorem evaluateAll_compiled_eq_messages (schema document : Node) (location : Location)
    (hvalid : (CompiledSchema.ofNode schema).isValid = true) :
    (Check.evaluateAll (CompiledSchema.ofNode schema).checks document location).map
        Issue.message =
      messages schema document location := by
  obtain ⟨read, hread⟩ := CompiledSchema.isValid_ofNode_iff.mp hvalid
  rw [CompiledSchema.checks_ofNode hread]
  exact map_message_issues schema hread document location

/-- A map with a required name under a pattern, a kind out of five, and a sequence of
required truth values. -/
def sampleSchema : Node :=
  .ofValue (.mapping [(.text "type", .text "map"), (.text "mapping", .mapping [
    (.text "name", .mapping [(.text "required", .truth true),
      (.text "pattern", .text "/^[a-z]+$/")]),
    (.text "kind", .mapping [(.text "type", .text "enum"),
      (.text "enums", .sequence [.text "a", .text "b", .text "c", .text "d", .text "e"])]),
    (.text "flags", .mapping [(.text "type", .text "seq"), (.text "sequence", .sequence [
      .mapping [(.text "type", .text "bool"), (.text "required", .truth true)]])])])])

/-- A document with a bad name, an unknown kind, no first flag and a number for the last. -/
def sampleDocument : Node :=
  .ofValue (.mapping [(.text "name", .text "A1"), (.text "kind", .text "z"),
    (.text "flags", .sequence [.null, .truth true, .number (.whole 1)])])

theorem evaluateAll_compiled_sample :
    (CompiledSchema.ofNode sampleSchema).isValid = true ∧
      (Check.evaluateAll (CompiledSchema.ofNode sampleSchema).checks sampleDocument .root).map
          Issue.message =
        ["the root.name property with the A1 value does not match the ^[a-z]+$ pattern",
          "the root.kind property with the z value is not one of the expected values [a,b,c,d]",
          "Missing required property <[0]> in <root.flags>",
          "the flags[2] property must be a boolean"] := by
  have hvalid : (CompiledSchema.ofNode sampleSchema).isValid = true := by decide +kernel
  refine ⟨hvalid, ?_⟩
  rw [evaluateAll_compiled_eq_messages sampleSchema sampleDocument .root hvalid]
  decide +kernel

end Interpreter

end MtaCheck
