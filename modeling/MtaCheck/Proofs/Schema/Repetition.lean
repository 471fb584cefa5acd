import MtaCheck.Proofs.Schema.AbsentSections

/-!
# Reports that repeat themselves

A leaf looks at a value up to two times: for the kind that its `type` demands and for its
`pattern`.  Both an enumeration and a pattern ask for a scalar first, each on its own, since they
ask for the literal form then.  So a map or a sequence is told twice that it is no scalar, unless
the leaf is required and stops at the first report.

`Schema.AsksTwice` describes the leaves that do so.  `mem_kind_and_pattern` is the reason why
nothing else is ever said twice: all other messages of the two looks are different from each other,
whatever the values and the place quoted in them.  The main result, `leaf_repeats_iff`, says just
when a leaf repeats itself, and what its report is then.
-/

namespace MtaCheck

open Check
open Interpreter (mustBe mustBe_eq_message)

/-! ## Messages that differ -/

namespace Finding

variable (location : Location)

theorem message_boolean_ne_scalar :
    (wrongKind .boolean).message location ≠ (wrongKind .scalar).message location := by
  rw [message_wrongKind, message_wrongKind, Ne, String.append_right_inj]
  decide

/-- The two go apart after the place, by their next word. -/
theorem message_wrongKind_ne_patternMismatch (demand : Demand) (value pattern : String) :
    (wrongKind demand).message location ≠ (patternMismatch value pattern).message location := by
  rw [message_wrongKind, message_patternMismatch]
  simp only [String.append_assoc, Ne, String.append_right_inj]
  intro hequal
  have hletters := congrArg String.toList hequal
  simp [String.toList_append] at hletters

/-- The two go apart after the value, if it is the same. -/
theorem message_notAllowed_ne_patternMismatch (value pattern : String) (allowed : List String) :
    (notAllowed value allowed).message location ≠
      (patternMismatch value pattern).message location := by
  rw [message_notAllowed, message_patternMismatch]
  simp only [String.append_assoc, Ne, String.append_right_inj]
  intro hequal
  have hletters := congrArg String.toList hequal
  simp [String.toList_append] at hletters

end Finding

/-! ## Two looks at a value -/

theorem Check.length_reportUnless_le_one (fine : Bool) (location : Location) (finding : Finding) :
    (reportUnless fine location finding).length ≤ 1 := by
  cases fine <;> simp [reportUnless]

theorem Check.length_literalIssues_le_one (accepts : String → Bool) (fault : String → Finding)
    (node : Node) (location : Location) :
    (literalIssues accepts fault node location).length ≤ 1 := by
  cases node with
  | scalar leaf => exact length_reportUnless_le_one _ _ _
  | _ => simp [literalIssues]

/-- A map and a sequence are told that they are no scalar. -/
theorem Check.literalIssues_of_collection {accepts : String → Bool} {fault : String → Finding}
    {node : Node} {location : Location} (hnode : node.isMap = true ∨ node.isSequence = true) :
    literalIssues accepts fault node location = [.finding location (.wrongKind .scalar)] := by
  cases node with
  | map | sequence => rfl
  | scalar | missing => simp [Node.isMap, Node.isSequence] at hnode

theorem nodup_of_length_le_one {α : Type} {items : List α} (hlength : items.length ≤ 1) :
    items.Nodup := by
  match items with
  | [] => exact List.nodup_nil
  | [item] => simp

namespace Rules

variable {node : Node} {location : Location}

theorem length_kindIssues_le_one (kind : LeafKind) :
    (kindIssues kind node location).length ≤ 1 := by
  cases kind with
  | any => exact Nat.zero_le 1
  | boolean => exact length_reportUnless_le_one _ _ _
  | oneOf values =>
      rw [kindIssues]
      exact length_literalIssues_le_one _ _ _ _

theorem length_patternIssues_le_one (pattern : Option Regex) :
    (patternIssues pattern node location).length ≤ 1 := by
  cases pattern with
  | none => exact Nat.zero_le 1
  | some regex =>
      rw [patternIssues]
      exact length_literalIssues_le_one _ _ _ _

/-- The two looks agree in their words only if the value is no scalar and both ask for one. -/
theorem mem_kind_and_pattern {kind : LeafKind} {pattern : Option Regex} {issue issue' : Issue}
    (hkind : issue ∈ kindIssues kind node location)
    (hpattern : issue' ∈ patternIssues pattern node location)
    (hmessage : issue.message = issue'.message) :
    (∃ values, kind = .oneOf values) ∧ (∃ regex, pattern = some regex) ∧
      (node.isMap = true ∨ node.isSequence = true) := by
  cases pattern with
  | none => cases hpattern
  | some regex =>
      rw [patternIssues] at hpattern
      cases kind with
      | any => cases hkind
      | boolean =>
          obtain ⟨-, rfl⟩ := mem_reportUnless.mp hkind
          rcases literalIssues_cases hpattern with ⟨value, -, -, rfl⟩ | ⟨-, rfl⟩
          · exact absurd hmessage (Finding.message_wrongKind_ne_patternMismatch _ _ _ _)
          · exact absurd hmessage (Finding.message_boolean_ne_scalar _)
      | oneOf values =>
          rw [kindIssues] at hkind
          refine ⟨⟨values, rfl⟩, ⟨regex, rfl⟩, ?_⟩
          rcases literalIssues_cases hkind with ⟨value, hvalue, -, rfl⟩ | ⟨hnode, -⟩
          · rcases literalIssues_cases hpattern with ⟨value', hvalue', -, rfl⟩ | ⟨hnode, -⟩
            · -- both quote the same literal form
              obtain rfl : value = value' := Option.some_inj.mp (hvalue.symm.trans hvalue')
              exact absurd hmessage (Finding.message_notAllowed_ne_patternMismatch _ _ _ _)
            · exact hnode
          · exact hnode

/-- A required leaf says of a found node what one of the two looks says. -/
theorem length_issues_required_le_one {kind : LeafKind} {pattern : Option Regex}
    (hfound : node.isFound = true) :
    (issues ⟨kind, pattern, some true⟩ node location).length ≤ 1 := by
  simp only [issues, hfound, if_true]
  split
  · exact length_patternIssues_le_one pattern
  · exact length_kindIssues_le_one kind

/-- Every other leaf says what both looks say. -/
theorem issues_of_not_required {rules : Rules} (hrequired : rules.required ≠ some true) :
    rules.issues node location =
      kindIssues rules.kind node location ++ patternIssues rules.pattern node location := by
  rw [issues]
  split
  · contradiction
  · rfl

/-- What a leaf says of a found node is said once, or it is said by both looks of a leaf that is
not required, about a value that is no scalar. -/
theorem nodup_or_repeats (rules : Rules) (hfound : node.isFound = true) :
    ((rules.issues node location).map Issue.message).Nodup ∨
      rules.required ≠ some true ∧ (∃ values, rules.kind = .oneOf values) ∧
        (∃ regex, rules.pattern = some regex) ∧ (node.isMap = true ∨ node.isSequence = true) := by
  obtain ⟨kind, pattern, required⟩ := rules
  by_cases hrequired : required = some true
  · subst hrequired
    refine .inl (nodup_of_length_le_one ?_)
    rw [List.length_map]
    exact length_issues_required_le_one hfound
  by_cases hrepeats : ∃ issue ∈ kindIssues kind node location,
      ∃ issue' ∈ patternIssues pattern node location, issue.message = issue'.message
  · obtain ⟨issue, hissue, issue', hissue', hmessage⟩ := hrepeats
    exact .inr ⟨hrequired, mem_kind_and_pattern hissue hissue' hmessage⟩
  · left
    rw [issues_of_not_required hrequired, List.map_append, List.nodup_append]
    refine ⟨nodup_of_length_le_one ?_, nodup_of_length_le_one ?_, ?_⟩
    · rw [List.length_map]
      exact length_kindIssues_le_one kind
    · rw [List.length_map]
      exact length_patternIssues_le_one pattern
    · intro message hmessage message' hmessage' hequal
      obtain ⟨issue, hissue, rfl⟩ := List.mem_map.mp hmessage
      obtain ⟨issue', hissue', rfl⟩ := List.mem_map.mp hmessage'
      exact hrepeats ⟨issue, hissue, issue', hissue', hequal⟩

/-- Both looks at a value that is no scalar say the same. -/
theorem messages_of_repeats {rules : Rules} (hrequired : rules.required ≠ some true)
    (hkind : ∃ values, rules.kind = .oneOf values) (hpattern : ∃ regex, rules.pattern = some regex)
    (hnode : node.isMap = true ∨ node.isSequence = true) :
    (rules.issues node location).map Issue.message =
      [mustBe location "a scalar value", mustBe location "a scalar value"] := by
  obtain ⟨values, hvalues⟩ := hkind
  obtain ⟨regex, hregex⟩ := hpattern
  have hscalar : mustBe location "a scalar value" = (Finding.wrongKind .scalar).message location :=
    mustBe_eq_message location .scalar
  rw [issues_of_not_required hrequired, hvalues, hregex, kindIssues, patternIssues,
    literalIssues_of_collection hnode, literalIssues_of_collection hnode, hscalar]
  rfl

end Rules

/-! ## The leaves that repeat themselves -/

/-- A leaf that lists the allowed values and has a pattern, but is not required. -/
structure Schema.AsksTwice (schema : Node) : Prop where
  listed : (schema.get "type").text? = some "enum"
  pattern : ∃ text, (schema.get "pattern").text? = some text
  not_required : schema.get "required" ≠ .scalar (.truth true)

/-- Such leaves are read as rules that look twice. -/
theorem Rules.asksTwice_iff {schema : Node} {rules : Rules}
    (hread : Rules.ofNode schema = .ok rules) :
    Schema.AsksTwice schema ↔
      rules.required ≠ some true ∧ (∃ values, rules.kind = .oneOf values) ∧
        ∃ regex, rules.pattern = some regex := by
  obtain ⟨hkind, hpattern, -⟩ := ofNode_eq_ok hread
  have hrequired : rules.required = some true ↔ schema.get "required" = .scalar (.truth true) := by
    rw [required_eq_iff hread, Schema.isRequired_iff]
  have hlisted : (schema.get "type").text? = some "enum" ↔
      ∃ values, rules.kind = .oneOf values := by
    rcases readKind_cases hkind with
      ⟨htype, hrules⟩ | ⟨values, htype, -, hrules⟩ | ⟨-, htype, hrules⟩
    · simp [htype, hrules]
    · simp [htype, hrules]
    · simp [htype, hrules]
  have htext : (∃ text, (schema.get "pattern").text? = some text) ↔
      ∃ regex, rules.pattern = some regex := by
    rcases readPattern_cases hpattern with ⟨htext, hrules⟩ | ⟨text, regex, htext, -, hrules⟩
    · simp [htext, hrules]
    · simp [htext, hrules]
  rw [Ne, hrequired, ← hlisted, ← htext]
  constructor
  · rintro ⟨hlisted, hpattern, hoptional⟩
    exact ⟨hoptional, hlisted, hpattern⟩
  · rintro ⟨hoptional, hlisted, hpattern⟩
    exact ⟨hlisted, hpattern, hoptional⟩

namespace CompiledSchema

open Schema (AsksTwice)
open Yaml (Value)

/-- **When a leaf says the same twice.**  What the checks of a valid leaf report of a found value
holds a message twice just if the leaf lists the allowed values, has a pattern and is not required,
and the value is a map or a sequence.  The report then says twice that the value must be a scalar,
and nothing else.  In every other case it says so at most once, and each message once. -/
theorem leaf_repeats_iff (schema node : Node) (location : Location)
    (hmap : (schema.get "type").text? ≠ some "map")
    (hsequence : (schema.get "type").text? ≠ some "seq")
    (hvalid : (ofNode schema).isValid = true) (hfound : node.isFound = true) :
    let messages :=
      (evaluateAll (ofNode schema).checks node location).map Issue.message
    let notScalar := "the " ++ location.display ++ " property must be " ++ "a scalar value"
    (¬ messages.Nodup ↔ AsksTwice schema ∧ (node.isMap = true ∨ node.isSequence = true)) ∧
      (AsksTwice schema ∧ (node.isMap = true ∨ node.isSequence = true) →
        messages = [notScalar, notScalar]) ∧
      (messages.count notScalar ≤ 1 ↔
        ¬ (AsksTwice schema ∧ (node.isMap = true ∨ node.isSequence = true))) := by
  intro messages notScalar
  obtain ⟨rules, hrules, hissues⟩ := exists_rules_of_leaf hmap hsequence hvalid
  have hmessages : messages = (rules.issues node location).map Issue.message :=
    congrArg (List.map Issue.message) (hissues node location)
  have hrepeats : AsksTwice schema ∧ (node.isMap = true ∨ node.isSequence = true) →
      messages = [notScalar, notScalar] := by
    rintro ⟨htwice, hnode⟩
    obtain ⟨hrequired, hkind, hpattern⟩ := (Rules.asksTwice_iff hrules).mp htwice
    rw [hmessages]
    exact Rules.messages_of_repeats hrequired hkind hpattern hnode
  have honce : ¬ (AsksTwice schema ∧ (node.isMap = true ∨ node.isSequence = true)) →
      messages.Nodup := by
    intro hother
    rw [hmessages]
    rcases Rules.nodup_or_repeats rules hfound with hnodup | ⟨hrequired, hkind, hpattern, hnode⟩
    · exact hnodup
    · exact absurd ⟨(Rules.asksTwice_iff hrules).mpr ⟨hrequired, hkind, hpattern⟩, hnode⟩ hother
  refine ⟨⟨?_, ?_⟩, hrepeats, ⟨?_, ?_⟩⟩
  · intro hdouble
    by_contra hother
    exact hdouble (honce hother)
  · intro htwice
    rw [hrepeats htwice]
    simp
  · intro hcount htwice
    rw [hrepeats htwice] at hcount
    simp at hcount
  · intro hother
    exact List.nodup_iff_count.mp (honce hother) notScalar

/-- A size that is one of two words, with a pattern that both of them match. -/
def sizeSchema (more : List (Value × Value)) : Node :=
  .map ([(.text "type", .text "enum"), (.text "enums", .sequence [.text "big", .text "small"]),
    (.text "pattern", .text "/^[a-z]+$/")] ++ more)

/-- Of a map both looks say the same; of a number each says something of its own. -/
theorem leaf_repeats_size :
    ((sizeSchema []).get "type").text? ≠ some "map" ∧
      ((sizeSchema []).get "type").text? ≠ some "seq" ∧
      (ofNode (sizeSchema [])).isValid = true ∧
      ¬ ((evaluateAll (ofNode (sizeSchema [])).checks (.map []) .root).map Issue.message).Nodup ∧
      ((evaluateAll (ofNode (sizeSchema [])).checks (.scalar (.number (.whole 7))) .root).map
        Issue.message).Nodup ∧
      (evaluateAll (ofNode (sizeSchema [])).checks (.scalar (.number (.whole 7))) .root).map
          Issue.message =
        ["the root property with the 7 value is not one of the expected values [big,small]",
          "the root property with the 7 value does not match the ^[a-z]+$ pattern"] := by
  have hmap : ((sizeSchema []).get "type").text? ≠ some "map" := by decide +kernel
  have hsequence : ((sizeSchema []).get "type").text? ≠ some "seq" := by decide +kernel
  have hvalid : (ofNode (sizeSchema [])).isValid = true := by decide +kernel
  have htwice : AsksTwice (sizeSchema []) :=
    ⟨by decide +kernel, ⟨"/^[a-z]+$/", by decide +kernel⟩, nofun⟩
  obtain ⟨hofMap, -, -⟩ := leaf_repeats_iff (sizeSchema []) (.map []) .root
    hmap hsequence hvalid rfl
  obtain ⟨hofNumber, -, -⟩ := leaf_repeats_iff (sizeSchema []) (.scalar (.number (.whole 7))) .root
    hmap hsequence hvalid rfl
  refine ⟨hmap, hsequence, hvalid, hofMap.mpr ⟨htwice, .inl rfl⟩, ?_, by decide +kernel⟩
  by_contra hdouble
  obtain ⟨-, hnumber⟩ := hofNumber.mp hdouble
  simp [Node.isMap, Node.isSequence] at hnumber

/-- A leaf may say of a map twice that it must be a scalar.  If it were required, it would say so
once. -/
theorem leaf_says_notScalar_twice :
    ((sizeSchema []).get "type").text? = some "enum" ∧ (ofNode (sizeSchema [])).isValid = true ∧
      (Node.map []).isFound = true ∧
      (evaluateAll (ofNode (sizeSchema [])).checks (.map []) .root).map Issue.message =
        ["the root property must be a scalar value", "the root property must be a scalar value"] ∧
      ¬ ((evaluateAll (ofNode (sizeSchema [])).checks (.map []) .root).map Issue.message).Nodup ∧
      (evaluateAll (ofNode (sizeSchema [(.text "required", .truth true)])).checks
          (.map []) .root).map Issue.message =
        ["the root property must be a scalar value"] := by
  decide +kernel

end CompiledSchema

end MtaCheck
