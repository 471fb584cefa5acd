import MtaCheck.Proofs.Schema.Reading

/-!
# The grammar of schemas

Which documents are schemas is said here twice, without reading any:

* `Grammar.WellFormed` is the grammar: a map of schemas, a sequence of one schema, or
  a leaf whose `type`, `pattern` and `required` are what they have to be;
* `Grammar.defects` lists where a document leaves the grammar, in the order in which
  the document is written.

`defects_eq_nil_iff` ties the two together.  The main result is
`compile_accepts_exactly_wellFormed`: compiling finds just these defects, a schema is
valid just when it is well formed, and nothing of a schema that is not well formed is
ever used.
-/

namespace MtaCheck

namespace Grammar

/-! ## Leaves -/

/-- What is wrong with the allowed values of an enumeration. -/
def enumsDefects : Node → List SchemaDefect
  | .missing => [.enumsMissing]
  | .sequence items =>
      if ∀ item ∈ items, (Node.ofValue item).literal?.isSome then [] else [.enumsNotSimple]
  | _ => [.enumsNotArray]

/-- What is wrong with the `type` of a leaf. -/
def typeDefects (schema : Node) : List SchemaDefect :=
  match schema.get "type" with
  | .missing => []
  | .scalar (.text type) => if type = "enum" then enumsDefects (schema.get "enums") else []
  | _ => [.typeNotText]

/-- What is wrong with the `pattern` of a leaf. -/
def patternDefects (schema : Node) : List SchemaDefect :=
  match schema.get "pattern" with
  | .missing => []
  | .scalar (.text text) =>
      match Regex.ofSource (Rules.withoutSlashes text) with
      | .ok _ => []
      | .error error => [.patternInvalid (Rules.withoutSlashes text) error]
  | _ => [.patternNotText]

/-- What is wrong with the `required` of a leaf. -/
def requiredDefects (schema : Node) : List SchemaDefect :=
  match schema.get "required" with
  | .missing | .scalar (.truth _) => []
  | _ => [.requiredNotBoolean]

/-! ## Schemas -/

/-- What is wrong with a schema. -/
def defects (schema : Node) : List SchemaDefect :=
  match (schema.get "type").text? with
  | some "map" =>
      if (schema.get "mapping").isMap then
        (schema.get "mapping").entries.attach.flatMap fun ⟨(_, sub), _⟩ => defects sub
      else [.mappingNotMap]
  | some "seq" =>
      if (schema.get "sequence").isSequence then
        match _hitems : (schema.get "sequence").elements with
        | [] => [.sequenceEmpty]
        | [item] => defects item
        | _ => [.sequenceLong]
      else [.sequenceNotArray]
  | _ => typeDefects schema ++ patternDefects schema ++ requiredDefects schema
termination_by schema.weight
decreasing_by
  · rename_i hmem
    have hentry := Node.weight_lt_of_mem_entries hmem
    have hmapping := schema.weight_get_le "mapping"
    omega
  · have hmem : item ∈ (schema.get "sequence").elements := by simp [_hitems]
    have hitem := Node.weight_lt_of_mem_elements hmem
    have hsequence := schema.weight_get_le "sequence"
    omega

/-- The grammar of schemas. -/
inductive WellFormed : Node → Prop
  /-- A map has a schema for each of its properties. -/
  | map {schema : Node} (htype : (schema.get "type").text? = some "map")
      (hmapping : (schema.get "mapping").isMap = true)
      (hentries : ∀ entry ∈ (schema.get "mapping").entries, WellFormed entry.2) :
      WellFormed schema
  /-- A sequence has one schema for its elements. -/
  | sequence {schema item : Node} (htype : (schema.get "type").text? = some "seq")
      (hsequence : (schema.get "sequence").elements = [item]) (hitem : WellFormed item) :
      WellFormed schema
  /-- Whatever is neither is a leaf: its type, if it has one, is a text, and the type of
  an enumeration comes with a list of scalars; its pattern, if it has one, is a text
  and a regular expression between its slashes; and it says with a truth value whether
  it is required, if it says so at all. -/
  | leaf {schema : Node} (hmap : (schema.get "type").text? ≠ some "map")
      (hsequence : (schema.get "type").text? ≠ some "seq")
      (htype : schema.get "type" = .missing ∨ ∃ type, schema.get "type" = .scalar (.text type))
      (henums : schema.get "type" = .scalar (.text "enum") →
        (schema.get "enums").isSequence = true ∧
          ∀ element ∈ (schema.get "enums").elements, ∃ value, element.literal? = some value)
      (hpattern : schema.get "pattern" = .missing ∨
        ∃ text regex, schema.get "pattern" = .scalar (.text text) ∧
          Regex.ofSource (Rules.withoutSlashes text) = .ok regex)
      (hrequired : schema.get "required" = .missing ∨
        ∃ value, schema.get "required" = .scalar (.truth value)) :
      WellFormed schema

/-! ## One step of the list of defects -/

variable {schema : Node}

theorem defects_of_map (htype : (schema.get "type").text? = some "map") :
    defects schema =
      if (schema.get "mapping").isMap then
        (schema.get "mapping").entries.flatMap fun entry => defects entry.2
      else [.mappingNotMap] := by
  rw [defects, htype]
  simp only [List.flatMap_def, List.map_attach_eq_pmap, List.pmap_eq_map]

theorem defects_of_sequence (htype : (schema.get "type").text? = some "seq") :
    defects schema =
      if (schema.get "sequence").isSequence then
        match (schema.get "sequence").elements with
        | [] => [.sequenceEmpty]
        | [item] => defects item
        | _ => [.sequenceLong]
      else [.sequenceNotArray] := by
  rw [defects, htype]
  simp only
  split
  · split
    · rename_i helements
      rw [helements]
    · rename_i helements
      rw [helements]
    · rename_i hnone hone helements
      split <;> simp_all
  · rfl

theorem defects_of_leaf (hmap : (schema.get "type").text? ≠ some "map")
    (hsequence : (schema.get "type").text? ≠ some "seq") :
    defects schema = typeDefects schema ++ patternDefects schema ++ requiredDefects schema := by
  rw [defects]
  split
  · contradiction
  · contradiction
  · rfl

/-! ## The defects that reading finds -/

theorem defectsOf_values :
    defectsOf (Rules.values schema) = enumsDefects (schema.get "enums") := by
  rw [Rules.values]
  cases schema.get "enums" with
  | sequence items =>
      simp only [enumsDefects]
      cases hread : (Node.sequence items).elements.mapM fun element =>
          element.literal?.elim (Except.error SchemaDefect.enumsNotSimple) .ok with
      | ok values =>
          have hliterals := Rules.map_eq_of_mapM_elim hread
          have hsome : ∀ item ∈ items, (Node.ofValue item).literal?.isSome := by
            intro item hitem
            have hmem : (Node.ofValue item).literal? ∈ values.map some := by
              rw [← hliterals]
              exact List.mem_map_of_mem (List.mem_map_of_mem hitem)
            obtain ⟨value, -, hvalue⟩ := List.mem_map.mp hmem
            rw [← hvalue]
            rfl
          rw [if_pos hsome]
          rfl
      | error defect =>
          obtain ⟨rfl, element, helement, hnone⟩ := Rules.exists_none_of_mapM_elim hread
          obtain ⟨item, hitem, rfl⟩ := List.mem_map.mp helement
          rw [if_neg fun hsome => by simpa [hnone] using hsome item hitem]
          rfl
  | _ => rfl

theorem defectsOf_readKind : defectsOf (Rules.readKind schema) = typeDefects schema := by
  rw [Rules.readKind, typeDefects]
  cases schema.get "type" with
  | scalar leaf =>
      cases leaf with
      | text type =>
          simp only [Node.asText]
          split
          · rename_i heq
            cases heq
            rfl
          · rename_i heq
            cases heq
            rw [if_pos rfl, ← defectsOf_values]
            cases Rules.values schema <;> rfl
          · rename_i henum heq
            rw [if_neg fun htype => henum (by rw [← Except.ok.inj heq, htype])]
            rfl
          · contradiction
      | _ => rfl
  | _ => rfl

theorem defectsOf_readPattern : defectsOf (Rules.readPattern schema) = patternDefects schema := by
  rw [Rules.readPattern, patternDefects]
  cases schema.get "pattern" with
  | scalar leaf =>
      cases leaf with
      | text text =>
          simp only [Node.asText]
          cases Regex.ofSource (Rules.withoutSlashes text) <;> rfl
      | _ => rfl
  | _ => rfl

theorem defectsOf_readRequired :
    defectsOf (Rules.readRequired schema) = requiredDefects schema := by
  rw [Rules.readRequired, requiredDefects]
  cases schema.get "required" with
  | scalar leaf => cases leaf <;> rfl
  | _ => rfl

theorem defectsLeft_rules :
    defectsLeft (Rules.ofNode schema) =
      typeDefects schema ++ patternDefects schema ++ requiredDefects schema := by
  rw [← defectsOf_readKind, ← defectsOf_readPattern, ← defectsOf_readRequired, Rules.ofNode]
  cases Rules.readKind schema <;> cases Rules.readPattern schema <;>
    cases Rules.readRequired schema <;> rfl

/-- Reading a schema leaves behind just what is wrong with it. -/
theorem defectsLeft_ofNode (schema : Node) :
    defectsLeft (Schema.ofNode schema) = defects schema := by
  induction schema using Node.schemaInduction with
  | map schema htype ih =>
      rw [Schema.ofNode_of_map htype, defects_of_map htype]
      split
      -- the entries are all read, also behind one that has defects
      · have hentries : ∀ entry ∈ (schema.get "mapping").entries,
            defectsLeft ((Schema.ofNode entry.2).map fun read => (entry.1, read)) =
              defects entry.2 := by
          intro entry hentry
          rw [defectsLeft_map, ih entry hentry]
        rw [defectsLeft_map, defectsLeft_collect, List.flatMap_map, List.flatMap_def,
          List.flatMap_def]
        exact congrArg List.flatten (List.map_congr_left hentries)
      · rfl
  | sequence schema htype ih =>
      rw [Schema.ofNode_of_sequence htype, defects_of_sequence htype]
      split
      · rcases helements : (schema.get "sequence").elements with _ | ⟨item, _ | ⟨second, rest⟩⟩
        · rfl
        · have hitem : item ∈ (schema.get "sequence").elements := by simp [helements]
          exact (defectsLeft_map _ _).trans (ih item hitem)
        · rfl
      · rfl
  | leaf schema hmap hsequence =>
      rw [Schema.ofNode_of_leaf hmap hsequence, defects_of_leaf hmap hsequence,
        defectsLeft_map, defectsLeft_rules]

/-! ## No defects just in the grammar -/

theorem enumsDefects_eq_nil_iff {enums : Node} :
    enumsDefects enums = [] ↔
      enums.isSequence = true ∧
        ∀ element ∈ enums.elements, ∃ value, element.literal? = some value := by
  cases enums with
  | sequence items =>
      simp [enumsDefects, Node.isSequence, Node.elements, Option.isSome_iff_exists]
  | _ => simp [enumsDefects, Node.isSequence]

theorem typeDefects_eq_nil_iff :
    typeDefects schema = [] ↔
      (schema.get "type" = .missing ∨ ∃ type, schema.get "type" = .scalar (.text type)) ∧
        (schema.get "type" = .scalar (.text "enum") →
          (schema.get "enums").isSequence = true ∧
            ∀ element ∈ (schema.get "enums").elements,
              ∃ value, element.literal? = some value) := by
  rw [typeDefects, ← enumsDefects_eq_nil_iff]
  cases schema.get "type" with
  | scalar leaf => cases leaf <;> simp
  | _ => simp

theorem patternDefects_eq_nil_iff :
    patternDefects schema = [] ↔
      schema.get "pattern" = .missing ∨
        ∃ text regex, schema.get "pattern" = .scalar (.text text) ∧
          Regex.ofSource (Rules.withoutSlashes text) = .ok regex := by
  rw [patternDefects]
  cases schema.get "pattern" with
  | scalar leaf =>
      cases leaf with
      | text text => cases hread : Regex.ofSource (Rules.withoutSlashes text) <;> simp [hread]
      | _ => simp
  | _ => simp

theorem requiredDefects_eq_nil_iff :
    requiredDefects schema = [] ↔
      schema.get "required" = .missing ∨
        ∃ value, schema.get "required" = .scalar (.truth value) := by
  rw [requiredDefects]
  cases schema.get "required" with
  | scalar leaf => cases leaf <;> simp
  | _ => simp

theorem wellFormed_map_iff (htype : (schema.get "type").text? = some "map") :
    WellFormed schema ↔
      (schema.get "mapping").isMap = true ∧
        ∀ entry ∈ (schema.get "mapping").entries, WellFormed entry.2 := by
  constructor
  · intro hformed
    cases hformed with
    | map _ hmapping hentries => exact ⟨hmapping, hentries⟩
    | sequence hother => simp [hother] at htype
    | leaf hmap => contradiction
  · rintro ⟨hmapping, hentries⟩
    exact .map htype hmapping hentries

theorem wellFormed_sequence_iff (htype : (schema.get "type").text? = some "seq") :
    WellFormed schema ↔
      ∃ item, (schema.get "sequence").elements = [item] ∧ WellFormed item := by
  constructor
  · intro hformed
    cases hformed with
    | map hother => simp [hother] at htype
    | @sequence _ item _ helements hitem => exact ⟨item, helements, hitem⟩
    | leaf _ hsequence => contradiction
  · rintro ⟨item, helements, hitem⟩
    exact .sequence htype helements hitem

theorem wellFormed_leaf_iff (hmap : (schema.get "type").text? ≠ some "map")
    (hsequence : (schema.get "type").text? ≠ some "seq") :
    WellFormed schema ↔
      typeDefects schema = [] ∧ patternDefects schema = [] ∧ requiredDefects schema = [] := by
  rw [typeDefects_eq_nil_iff, patternDefects_eq_nil_iff, requiredDefects_eq_nil_iff]
  constructor
  · intro hformed
    cases hformed with
    | map htype => contradiction
    | sequence htype => contradiction
    | leaf _ _ htype henums hpattern hrequired => exact ⟨⟨htype, henums⟩, hpattern, hrequired⟩
  · rintro ⟨⟨htype, henums⟩, hpattern, hrequired⟩
    exact .leaf hmap hsequence htype henums hpattern hrequired

/-- A schema has no defects if and only if it is in the grammar. -/
theorem defects_eq_nil_iff (schema : Node) : defects schema = [] ↔ WellFormed schema := by
  induction schema using Node.schemaInduction with
  | map schema htype ih =>
      rw [defects_of_map htype, wellFormed_map_iff htype]
      by_cases hmapping : (schema.get "mapping").isMap
      · rw [if_pos hmapping, List.flatMap_eq_nil_iff]
        constructor
        · intro hall
          refine ⟨hmapping, ?_⟩
          intro entry hentry
          exact (ih entry hentry).mp (hall entry hentry)
        · rintro ⟨-, hall⟩ entry hentry
          exact (ih entry hentry).mpr (hall entry hentry)
      · simp [hmapping]
  | sequence schema htype ih =>
      rw [defects_of_sequence htype, wellFormed_sequence_iff htype]
      cases hnode : schema.get "sequence" with
      | sequence items =>
          rw [hnode] at ih
          -- of the three lengths that are told apart, only one is sound
          rcases items with _ | ⟨item, _ | ⟨second, rest⟩⟩
          · simp [Node.isSequence, Node.elements]
          · simpa [Node.isSequence, Node.elements] using
              ih (Node.ofValue item) (List.mem_cons_self ..)
          · simp [Node.isSequence, Node.elements]
      | _ => simp [Node.isSequence, Node.elements]
  | leaf schema hmap hsequence =>
      rw [defects_of_leaf hmap hsequence, wellFormed_leaf_iff hmap hsequence,
        List.append_eq_nil_iff, List.append_eq_nil_iff, and_assoc]

/-! ## Compiling -/

theorem isValid_iff_wellFormed (schema : Node) :
    (CompiledSchema.ofNode schema).isValid = true ↔ WellFormed schema := by
  rw [CompiledSchema.isValid, List.isEmpty_iff, CompiledSchema.defects_ofNode,
    defectsLeft_ofNode, defects_eq_nil_iff]

/-- **Compiling accepts just the well-formed schemas.**  It finds the defects of a
schema, all of them and in their order; a schema is valid if and only if it is well
formed; and of a schema that is not, no checks are left, so that no document is
validated with a part of it.  The three ways in which a sequence can miss its one
schema are told apart by their messages. -/
theorem compile_accepts_exactly_wellFormed (schema : Node) :
    (CompiledSchema.ofNode schema).defects = defects schema ∧
      ((CompiledSchema.ofNode schema).isValid = true ↔ WellFormed schema) ∧
      (¬ WellFormed schema → (CompiledSchema.ofNode schema).checks = []) ∧
      ([SchemaDefect.sequenceNotArray, .sequenceEmpty, .sequenceLong].map
        SchemaDefect.message).Nodup := by
  have hdefects : (CompiledSchema.ofNode schema).defects = defects schema := by
    rw [CompiledSchema.defects_ofNode, defectsLeft_ofNode]
  have hvalid : (CompiledSchema.ofNode schema).isValid = true ↔ WellFormed schema :=
    isValid_iff_wellFormed schema
  refine ⟨hdefects, hvalid, fun hformed => ?_, by decide +kernel⟩
  cases hread : Schema.ofNode schema with
  | ok read =>
      exact absurd (hvalid.mp (CompiledSchema.isValid_ofNode_iff.mpr ⟨read, hread⟩)) hformed
  | error failed => rw [CompiledSchema.ofNode, hread, CompiledSchema.ofResult]

/-- A schema with a defect in all three parts of a leaf, one in each further entry, and
the last of them inside a sequence. -/
def faultySchema : Node :=
  .ofValue (.mapping [(.text "type", .text "map"), (.text "mapping", .mapping [
    (.text "name", .mapping [(.text "type", .sequence []), (.text "pattern", .truth true),
      (.text "required", .text "yes")]),
    (.text "path", .mapping [(.text "pattern", .text "/(/")]),
    (.text "parts", .mapping [(.text "type", .text "seq"), (.text "sequence", .sequence [])]),
    (.text "params", .mapping [(.text "type", .text "map")]),
    (.text "kinds", .mapping [(.text "type", .text "seq"), (.text "sequence", .sequence [
      .mapping [(.text "type", .text "enum"), (.text "enums", .sequence [.null])]])])])])

theorem compile_faultySchema :
    ¬ WellFormed faultySchema ∧
      (CompiledSchema.ofNode faultySchema).checks = [] ∧
      (CompiledSchema.ofNode faultySchema).defects.map SchemaDefect.message =
        ["invalid YAML schema: the type node must be a string",
          "invalid YAML schema: the pattern node must be a string",
          "invalid YAML schema: the required node must be a boolean",
          "invalid YAML schema: the pattern node is invalid because: regex parse error:\n"
            ++ "    (\n    ^\nerror: unclosed group",
          "invalid YAML schema: the sequence node must contain one item",
          "invalid YAML schema: the mapping node must be a map",
          "invalid YAML schema: enum values must be simple"] := by
  obtain ⟨hdefects, hvalid, hunused, -⟩ := compile_accepts_exactly_wellFormed faultySchema
  have hformed : ¬ WellFormed faultySchema := by
    rw [← hvalid]
    decide +kernel
  refine ⟨hformed, hunused hformed, ?_⟩
  rw [hdefects]
  decide +kernel

end Grammar

end MtaCheck
