import MtaCheck.Schema

/-!
# How a schema is read

`Schema.ofNode` goes down a document by the weight of its nodes.  This file opens
it once, so that the files above never see that recursion again:

* `ofNode_of_map`, `ofNode_of_sequence` and `ofNode_of_leaf` give one step of the
  reading for each form that the `type` of a schema announces;
* `Node.schemaInduction` is the induction along those forms;
* `eq_map_ok_of_collect`, `exists_error_of_collect` and `defectsLeft_collect` say
  when the entries of a map are read together, and which defects they leave behind.
-/

namespace MtaCheck

/-! ## Texts and truth values

A schema says what it says in texts and truth values.  Everything else at the same
place counts as something else, which `asText` and `asTruth` refuse. -/

/-- The text that a node is, if it is one. -/
def Node.text? : Node → Option String
  | .scalar (.text value) => some value
  | _ => none

theorem Node.asText_eq_ok_some_iff {node : Node} {text : String} :
    node.asText = .ok (some text) ↔ node.text? = some text := by
  cases node with
  | scalar leaf => cases leaf <;> simp [asText, text?]
  | _ => simp [asText, text?]

/-! ## Results that are read together -/

/-- The defects that a reading leaves behind. -/
def defectsLeft {ε α : Type} : Except (List ε) α → List ε
  | .ok _ => []
  | .error defects => defects

@[simp] theorem defectsLeft_map {ε α β : Type} (read : α → β) (result : Except (List ε) α) :
    defectsLeft (result.map read) = defectsLeft result := by
  cases result <;> rfl

theorem map_eq_ok {ε α β : Type} {read : α → β} {result : Except ε α} {value : β}
    (hmap : result.map read = .ok value) : ∃ source, result = .ok source ∧ value = read source := by
  cases result with
  | error defect => cases hmap
  | ok source =>
      cases hmap
      exact ⟨source, rfl, rfl⟩

theorem map_eq_error {ε α β : Type} {read : α → β} {result : Except ε α} {defect : ε}
    (hmap : result.map read = .error defect) : result = .error defect := by
  cases result with
  | error other =>
      cases hmap
      rfl
  | ok source => cases hmap

/-- Reading together loses no defect and keeps their order. -/
theorem defectsLeft_collect {ε α : Type} (results : List (Except (List ε) α)) :
    defectsLeft (collect results) = results.flatMap defectsLeft := by
  induction results with
  | nil => rfl
  | cons result results ih =>
      rw [List.flatMap_cons, ← ih]
      cases result <;> cases hrest : collect results <;> simp [collect, hrest, defectsLeft]

theorem eq_map_ok_of_collect {ε α : Type} {results : List (Except (List ε) α)}
    {values : List α} (hcollect : collect results = .ok values) : results = values.map .ok := by
  induction results generalizing values with
  | nil =>
      cases hcollect
      rfl
  | cons result results ih =>
      cases hrest : collect results with
      | error defects => cases result <;> simp [collect, hrest] at hcollect
      | ok rest =>
          cases result with
          | error defects => simp [collect, hrest] at hcollect
          | ok value =>
              simp only [collect, hrest, Except.ok.injEq] at hcollect
              rw [← hcollect, List.map_cons, ih hrest]

/-- Reading together fails only because one of the readings fails. -/
theorem exists_error_of_collect {ε α : Type} {results : List (Except (List ε) α)}
    {defects : List ε} (hcollect : collect results = .error defects) :
    ∃ failed, .error failed ∈ results := by
  induction results generalizing defects with
  | nil => cases hcollect
  | cons result results ih =>
      cases result with
      | error failed => exact ⟨failed, List.mem_cons_self ..⟩
      | ok value =>
          cases hrest : collect results with
          | ok rest => simp [collect, hrest] at hcollect
          | error later =>
              obtain ⟨failed, hmem⟩ := ih hrest
              exact ⟨failed, List.mem_cons_of_mem _ hmem⟩

theorem subset_of_collect {ε α : Type} {results : List (Except (List ε) α)}
    {defects failed : List ε} (hcollect : collect results = .error defects)
    (hfailed : .error failed ∈ results) : failed ⊆ defects := by
  have hdefects : defects = results.flatMap defectsLeft := by
    rw [← defectsLeft_collect, hcollect]
    rfl
  intro defect hdefect
  rw [hdefects]
  exact List.mem_flatMap.mpr ⟨_, hfailed, hdefect⟩

/-- Two ways to go on from a reading, one from what is read and one from what has been
read, agree on all of it if they agree on each part. -/
theorem flatMap_eq_of_map_eq_map_ok {ε α β γ : Type} {read : α → Except ε β}
    {sources : List α} {values : List β} {before : α → List γ} {after : β → List γ}
    (hread : sources.map read = values.map .ok)
    (hagree : ∀ source ∈ sources, ∀ value, read source = .ok value →
      after value = before source) :
    values.flatMap after = sources.flatMap before := by
  induction sources generalizing values with
  | nil =>
      cases values with
      | nil => rfl
      | cons value values => cases hread
  | cons source sources ih =>
      cases values with
      | nil => cases hread
      | cons value values =>
          rw [List.map_cons, List.map_cons, List.cons.injEq] at hread
          rw [List.flatMap_cons, List.flatMap_cons,
            hagree source (List.mem_cons_self ..) value hread.1,
            ih hread.2 fun other hother => hagree other (List.mem_cons_of_mem _ hother)]

/-! ## The rules of a leaf -/

theorem Regex.source_eq_of_ofSource {source : String} {regex : Regex}
    (hread : Regex.ofSource source = .ok regex) : regex.source = source := by
  simp only [Regex.ofSource, bind, Except.bind, pure, Except.pure] at hread
  split at hread
  · cases hread
  · split at hread
    · cases hread
    · cases hread
      rfl

namespace Rules

/-- Items are read one by one if each of them can be read, in their order. -/
theorem map_eq_of_mapM_elim {ε α β : Type} {read : α → Option β} {defect : ε}
    {items : List α} {values : List β}
    (hread : items.mapM (fun item => (read item).elim (Except.error defect) .ok) = .ok values) :
    items.map read = values.map some := by
  induction items generalizing values with
  | nil =>
      cases hread
      rfl
  | cons item items ih =>
      rw [List.mapM_cons] at hread
      cases hitem : read item with
      | none => simp [hitem, bind, Except.bind] at hread
      | some value =>
          cases hrest : items.mapM fun item => (read item).elim (Except.error defect) .ok with
          | error other => simp [hitem, hrest, bind, Except.bind] at hread
          | ok rest =>
              simp only [hitem, hrest, Option.elim_some, bind, Except.bind, pure, Except.pure,
                Except.ok.injEq] at hread
              rw [← hread, List.map_cons, List.map_cons, hitem, ih hrest]

/-- Items are refused only because of one that cannot be read. -/
theorem exists_none_of_mapM_elim {ε α β : Type} {read : α → Option β} {defect found : ε}
    {items : List α}
    (hread : items.mapM (fun item => (read item).elim (Except.error defect) .ok) =
      .error found) :
    found = defect ∧ ∃ item ∈ items, read item = none := by
  induction items with
  | nil => cases hread
  | cons item items ih =>
      rw [List.mapM_cons] at hread
      cases hitem : read item with
      | none =>
          simp only [hitem, Option.elim_none, bind, Except.bind, Except.error.injEq] at hread
          exact ⟨hread.symm, item, List.mem_cons_self .., hitem⟩
      | some value =>
          cases hrest : items.mapM fun item => (read item).elim (Except.error defect) .ok with
          | ok rest => simp [hitem, hrest, bind, Except.bind, pure, Except.pure] at hread
          | error other =>
              simp only [hitem, hrest, Option.elim_some, bind, Except.bind,
                Except.error.injEq] at hread
              obtain ⟨hdefect, other, hmem, hnone⟩ := ih (hread ▸ hrest)
              exact ⟨hdefect, other, List.mem_cons_of_mem _ hmem, hnone⟩

variable {schema : Node}

/-- The allowed values are the literal forms of the elements under `enums`, each of
which has one. -/
theorem map_literal?_eq_of_values {values : List String}
    (hread : Rules.values schema = .ok values) :
    (schema.get "enums").elements.map Node.literal? = values.map some := by
  rw [Rules.values] at hread
  split at hread
  · cases hread
  · rename_i items henums
    rw [henums]
    exact map_eq_of_mapM_elim hread
  · cases hread

/-- A leaf demands a truth value, one of some literal forms, or nothing special. -/
theorem readKind_cases {kind : LeafKind} (hread : readKind schema = .ok kind) :
    (schema.get "type").text? = some "bool" ∧ kind = .boolean ∨
      (∃ values, (schema.get "type").text? = some "enum" ∧
        Rules.values schema = .ok values ∧ kind = .oneOf values) ∨
      (schema.get "type").text? ≠ some "bool" ∧ (schema.get "type").text? ≠ some "enum" ∧
        kind = .any := by
  rw [readKind] at hread
  split at hread
  · rename_i htype
    cases hread
    exact Or.inl ⟨Node.asText_eq_ok_some_iff.mp htype, rfl⟩
  · rename_i htype
    cases hvalues : Rules.values schema with
    | error defect => simp [hvalues, Except.map] at hread
    | ok values =>
        simp only [hvalues, Except.map, Except.ok.injEq] at hread
        exact Or.inr (Or.inl ⟨values, Node.asText_eq_ok_some_iff.mp htype, rfl, hread.symm⟩)
  · rename_i hbool henum htype
    cases hread
    refine Or.inr (Or.inr ⟨fun htext => ?_, fun htext => ?_, rfl⟩)
    · exact hbool (Except.ok.inj (htype.symm.trans (Node.asText_eq_ok_some_iff.mpr htext)))
    · exact henum (Except.ok.inj (htype.symm.trans (Node.asText_eq_ok_some_iff.mpr htext)))
  · cases hread

/-- A leaf has no pattern, or one that can be read between its slashes. -/
theorem readPattern_cases {pattern : Option Regex} (hread : readPattern schema = .ok pattern) :
    (schema.get "pattern").text? = none ∧ pattern = none ∨
      ∃ text regex, (schema.get "pattern").text? = some text ∧
        Regex.ofSource (withoutSlashes text) = .ok regex ∧ pattern = some regex := by
  rw [readPattern] at hread
  split at hread
  · rename_i hnone
    cases hread
    refine Or.inl ⟨?_, rfl⟩
    cases htext : (schema.get "pattern").text? with
    | none => rfl
    | some text => simp [Node.asText_eq_ok_some_iff.mpr htext] at hnone
  · rename_i text htext
    simp only at hread
    split at hread
    · rename_i regex hregex
      cases hread
      exact Or.inr ⟨text, regex, Node.asText_eq_ok_some_iff.mp htext, hregex, rfl⟩
    · cases hread
  · cases hread

/-- A leaf says nothing about being required, or it says a truth value. -/
theorem readRequired_cases {required : Option Bool}
    (hread : readRequired schema = .ok required) :
    schema.get "required" = .missing ∧ required = none ∨
      ∃ value, schema.get "required" = .scalar (.truth value) ∧ required = some value := by
  rw [readRequired] at hread
  cases hnode : schema.get "required" with
  | missing =>
      rw [hnode] at hread
      cases hread
      exact Or.inl ⟨rfl, rfl⟩
  | scalar leaf =>
      rw [hnode] at hread
      cases leaf with
      | truth value =>
          cases hread
          exact Or.inr ⟨value, rfl, rfl⟩
      | number value => cases hread
      | text value => cases hread
  | map entries =>
      rw [hnode] at hread
      cases hread
  | sequence items =>
      rw [hnode] at hread
      cases hread

/-- A leaf is read by reading its three parts. -/
theorem ofNode_eq_ok {rules : Rules} (hread : Rules.ofNode schema = .ok rules) :
    readKind schema = .ok rules.kind ∧ readPattern schema = .ok rules.pattern ∧
      readRequired schema = .ok rules.required := by
  rw [Rules.ofNode] at hread
  split at hread
  · rename_i hkind hpattern hrequired
    cases hread
    exact ⟨hkind, hpattern, hrequired⟩
  · cases hread

end Rules

/-! ## One step of the reading -/

namespace Schema

variable {schema : Node}

/-- A map is read by reading its entries, all of them. -/
theorem ofNode_of_map (htype : (schema.get "type").text? = some "map") :
    ofNode schema =
      if (schema.get "mapping").isMap then
        (collect ((schema.get "mapping").entries.map fun entry =>
          (ofNode entry.2).map fun read => (entry.1, read))).map .map
      else .error [.mappingNotMap] := by
  rw [ofNode, Node.asText_eq_ok_some_iff.mpr htype]
  simp only [List.map_attach_eq_pmap, List.pmap_eq_map]

/-- A sequence is read by reading the only schema that it lists. -/
theorem ofNode_of_sequence (htype : (schema.get "type").text? = some "seq") :
    ofNode schema =
      if (schema.get "sequence").isSequence then
        match (schema.get "sequence").elements with
        | [] => .error [.sequenceEmpty]
        | [item] => (ofNode item).map .sequence
        | _ => .error [.sequenceLong]
      else .error [.sequenceNotArray] := by
  rw [ofNode, Node.asText_eq_ok_some_iff.mpr htype]
  simp only
  split
  · split
    · rename_i helements
      rw [helements]
    · rename_i helements
      rw [helements]
    · rename_i hnone hone helements
      split <;> simp_all
  · rfl

/-- Whatever is no map and no sequence is read as a leaf. -/
theorem ofNode_of_leaf (hmap : (schema.get "type").text? ≠ some "map")
    (hsequence : (schema.get "type").text? ≠ some "seq") :
    ofNode schema = (Rules.ofNode schema).map .leaf := by
  rw [ofNode]
  split
  · rename_i htype
    exact absurd (Node.asText_eq_ok_some_iff.mp htype) hmap
  · rename_i htype
    exact absurd (Node.asText_eq_ok_some_iff.mp htype) hsequence
  · rfl

/-- What a map has been read as, when it has been read. -/
theorem ofNode_map_eq_ok {read : Schema} (htype : (schema.get "type").text? = some "map")
    (hread : ofNode schema = .ok read) :
    ∃ entries, read = .map entries ∧
      ((schema.get "mapping").entries.map fun entry =>
        (ofNode entry.2).map fun sub => (entry.1, sub)) = entries.map .ok := by
  rw [ofNode_of_map htype] at hread
  split at hread
  · obtain ⟨entries, hentries, rfl⟩ := map_eq_ok hread
    exact ⟨entries, rfl, eq_map_ok_of_collect hentries⟩
  · cases hread

/-- What a sequence has been read as, when it has been read. -/
theorem ofNode_sequence_eq_ok {read : Schema} (htype : (schema.get "type").text? = some "seq")
    (hread : ofNode schema = .ok read) :
    ∃ source item, (schema.get "sequence").elements = [source] ∧
      ofNode source = .ok item ∧ read = .sequence item := by
  rw [ofNode_of_sequence htype] at hread
  split at hread
  · split at hread
    · cases hread
    · rename_i source helements
      obtain ⟨item, hitem, rfl⟩ := map_eq_ok hread
      exact ⟨source, item, helements, hitem, rfl⟩
    · cases hread
  · cases hread

/-- What a leaf has been read as, when it has been read. -/
theorem ofNode_leaf_eq_ok {read : Schema} (hmap : (schema.get "type").text? ≠ some "map")
    (hsequence : (schema.get "type").text? ≠ some "seq") (hread : ofNode schema = .ok read) :
    ∃ rules, Rules.ofNode schema = .ok rules ∧ read = .leaf rules := by
  rw [ofNode_of_leaf hmap hsequence] at hread
  obtain ⟨rules, hrules, rfl⟩ := map_eq_ok hread
  exact ⟨rules, hrules, rfl⟩

end Schema

/-! ## Induction along a schema -/

/-- What holds of a schema as soon as it holds of the schemas directly inside of it,
holds of every schema.  A leaf has none inside, whatever else stands in it. -/
theorem Node.schemaInduction {motive : Node → Prop}
    (map : ∀ schema : Node, (schema.get "type").text? = some "map" →
      (∀ entry ∈ (schema.get "mapping").entries, motive entry.2) → motive schema)
    (sequence : ∀ schema : Node, (schema.get "type").text? = some "seq" →
      (∀ item ∈ (schema.get "sequence").elements, motive item) → motive schema)
    (leaf : ∀ schema : Node, (schema.get "type").text? ≠ some "map" →
      (schema.get "type").text? ≠ some "seq" → motive schema)
    (schema : Node) : motive schema := by
  by_cases hmap : (schema.get "type").text? = some "map"
  · refine map schema hmap fun entry hentry => ?_
    exact schemaInduction map sequence leaf entry.2
  by_cases hsequence : (schema.get "type").text? = some "seq"
  · refine sequence schema hsequence fun item hitem => ?_
    exact schemaInduction map sequence leaf item
  exact leaf schema hmap hsequence
termination_by schema.weight
decreasing_by
  · have hless : entry.2.weight < (schema.get "mapping").weight :=
      weight_lt_of_mem_entries hentry
    have hmapping := schema.weight_get_le "mapping"
    omega
  · have hless := weight_lt_of_mem_elements hitem
    have hsequence := schema.weight_get_le "sequence"
    omega

/-! ## A schema that is not read has a defect -/

theorem Rules.ne_nil_of_error {schema : Node} {defects : List SchemaDefect}
    (hread : Rules.ofNode schema = .error defects) : defects ≠ [] := by
  rw [Rules.ofNode] at hread
  split at hread
  · cases hread
  · rename_i hsome
    cases hread
    -- were all three parts sound, the leaf would have been read
    intro hnil
    cases hkind : readKind schema with
    | error defect => simp [hkind, defectsOf] at hnil
    | ok kind =>
        cases hpattern : readPattern schema with
        | error defect => simp [hpattern, defectsOf] at hnil
        | ok pattern =>
            cases hrequired : readRequired schema with
            | error defect => simp [hrequired, defectsOf] at hnil
            | ok required => exact hsome kind pattern required hkind hpattern hrequired

namespace Schema

theorem ne_nil_of_error (schema : Node) :
    ∀ {defects : List SchemaDefect}, ofNode schema = .error defects → defects ≠ [] := by
  induction schema using Node.schemaInduction with
  | map schema htype ih =>
      intro defects hread
      rw [ofNode_of_map htype] at hread
      split at hread
      -- an entry that is not read leaves a defect, and no defect is lost when they are collected
      · have hcollect := map_eq_error hread
        obtain ⟨failed, hfailed⟩ := exists_error_of_collect hcollect
        obtain ⟨entry, hentry, herror⟩ := List.mem_map.mp hfailed
        obtain ⟨defect, hdefect⟩ := List.exists_mem_of_ne_nil _
          (ih entry hentry (map_eq_error herror))
        exact List.ne_nil_of_mem (subset_of_collect hcollect hfailed hdefect)
      · cases hread
        exact List.cons_ne_nil _ _
  | sequence schema htype ih =>
      intro defects hread
      rw [ofNode_of_sequence htype] at hread
      split at hread
      · split at hread
        · cases hread
          exact List.cons_ne_nil _ _
        · rename_i item helements
          exact ih item (by simp [helements]) (map_eq_error hread)
        · cases hread
          exact List.cons_ne_nil _ _
      · cases hread
        exact List.cons_ne_nil _ _
  | leaf schema hmap hsequence =>
      intro defects hread
      rw [ofNode_of_leaf hmap hsequence] at hread
      exact Rules.ne_nil_of_error (map_eq_error hread)

end Schema

namespace CompiledSchema

variable {schema : Node}

theorem defects_ofNode : (ofNode schema).defects = defectsLeft (Schema.ofNode schema) := by
  rw [ofNode]
  cases Schema.ofNode schema <;> rfl

theorem checks_ofNode {read : Schema} (hread : Schema.ofNode schema = .ok read) :
    (ofNode schema).checks = read.checks := by
  rw [ofNode, hread]
  rfl

/-- A schema is valid just when it has been read. -/
theorem isValid_ofNode_iff :
    (ofNode schema).isValid = true ↔ ∃ read, Schema.ofNode schema = .ok read := by
  rw [isValid, List.isEmpty_iff, defects_ofNode]
  cases hread : Schema.ofNode schema with
  | ok read => exact ⟨fun _ => ⟨read, rfl⟩, fun _ => rfl⟩
  | error defects =>
      constructor
      · intro hnil
        exact absurd hnil (Schema.ne_nil_of_error schema hread)
      · rintro ⟨read, hok⟩
        cases hok

end CompiledSchema

end MtaCheck
