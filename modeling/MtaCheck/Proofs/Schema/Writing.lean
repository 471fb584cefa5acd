import MtaCheck.Proofs.Schema.Reading

/-!
# Writing a schema

`Schema.written` writes a schema as a value, and `ofNode_written` says that this value is
read as the schema again.  That needs one thing of the schema, that its regular expressions
are what their texts are read as (`Readable`); a schema that has been read is of this kind.

So to know what a document is read as, it is enough to know that its value is what some
schema is written as.
-/

namespace MtaCheck

open Yaml (Value)

/-! ## Maps with texts for keys -/

/-- A map whose keys are texts. -/
def Yaml.Value.ofFields (fields : List (String × Value)) : Value :=
  .mapping (fields.map fun field => (.text field.1, field.2))

namespace Node

/-- The property of a map whose keys are texts is the first one under this name. -/
theorem get_ofFields (fields : List (String × Value)) (key : String) :
    (ofValue (.ofFields fields)).get key =
      ((fields.find? (·.1 == key)).map fun field => ofValue field.2).getD .missing := by
  have hsame : ∀ field : String × Value, (Value.text field.1).same (.text key) = (field.1 == key) :=
    fun field => by rw [Value.same]
  have hliteral : ∀ field : String × Value,
      (keyLiteral? (.text field.1) == some key) = (field.1 == key) := fun _ => rfl
  simp only [Value.ofFields, ofValue, get, entryOfText?, entryOfLiteral?, List.find?_map,
    Function.comp_def, hsame, hliteral]
  cases fields.find? (·.1 == key) <;> rfl

end Node

/-! ## Rules -/

namespace Rules

/-- How a demand on the kind of a value is written. -/
def kindFields : LeafKind → List (String × Value)
  | .any => []
  | .boolean => [("type", .text "bool")]
  | .oneOf values => [("type", .text "enum"), ("enums", .sequence (values.map .text))]

/-- The fields that the rules of a leaf are written with. -/
def fields (rules : Rules) : List (String × Value) :=
  (rules.required.map fun required => ("required", Value.truth required)).toList ++
    kindFields rules.kind ++
    (rules.pattern.map fun regex => ("pattern", Value.text ("/" ++ regex.source ++ "/"))).toList

/-- How the rules of a leaf are written.  Without rules nothing is. -/
def written (rules : Rules) : Value :=
  match rules.fields with
  | [] => .null
  | fields => .ofFields fields

/-- The regular expression of the rules is what its text is read as. -/
def Readable (rules : Rules) : Prop :=
  ∀ regex, rules.pattern = some regex → Regex.ofSource regex.source = .ok regex

theorem get_written (rules : Rules) (key : String) :
    (Node.ofValue rules.written).get key =
      ((rules.fields.find? (·.1 == key)).map fun field => Node.ofValue field.2).getD .missing := by
  rw [written]
  split
  · rename_i hnil
    rw [hnil]
    rfl
  · exact Node.get_ofFields _ key

theorem withoutSlashes_eq (source : String) : withoutSlashes ("/" ++ source ++ "/") = source := by
  simp [withoutSlashes]

theorem get_required (rules : Rules) : (Node.ofValue rules.written).get "required" =
    (rules.required.map fun required => Node.scalar (.truth required)).getD .missing := by
  rw [get_written, fields]
  cases rules.required with
  | none => cases rules.kind <;> cases rules.pattern <;> rfl
  | some required => rfl

theorem get_type (rules : Rules) : (Node.ofValue rules.written).get "type" =
    match rules.kind with
    | .any => .missing
    | .boolean => .scalar (.text "bool")
    | .oneOf _ => .scalar (.text "enum") := by
  rw [get_written, fields]
  cases rules.kind <;> cases rules.required <;> cases rules.pattern <;> rfl

theorem get_enums {rules : Rules} {values : List String} (hkind : rules.kind = .oneOf values) :
    (Node.ofValue rules.written).get "enums" = .sequence (values.map .text) := by
  rw [get_written, fields, hkind]
  cases rules.required <;> rfl

theorem get_pattern (rules : Rules) : (Node.ofValue rules.written).get "pattern" =
    (rules.pattern.map fun regex => Node.scalar (.text ("/" ++ regex.source ++ "/"))).getD
      .missing := by
  rw [get_written, fields]
  cases rules.required <;> cases rules.kind <;> cases rules.pattern <;> rfl

theorem values_written {rules : Rules} {values : List String}
    (hkind : rules.kind = .oneOf values) :
    Rules.values (.ofValue rules.written) = .ok values := by
  have hall : ∀ values : List String, ((values.map Value.text).map Node.ofValue).mapM
      (fun element => element.literal?.elim (Except.error SchemaDefect.enumsNotSimple) Except.ok) =
        Except.ok values := by
    intro values
    induction values with
    | nil => rfl
    | cons value values ih =>
        rw [List.map_cons, List.map_cons, List.mapM_cons, ih]
        rfl
  rw [Rules.values, get_enums hkind]
  exact hall values

theorem readKind_written (rules : Rules) :
    readKind (.ofValue rules.written) = .ok rules.kind := by
  rw [readKind, get_type]
  cases hkind : rules.kind with
  | any => rfl
  | boolean => rfl
  | oneOf values =>
      simp only [Node.asText]
      rw [values_written hkind]
      rfl

theorem readPattern_written {rules : Rules} (hreadable : rules.Readable) :
    readPattern (.ofValue rules.written) = .ok rules.pattern := by
  rw [readPattern, get_pattern]
  cases hpattern : rules.pattern with
  | none => rfl
  | some regex =>
      simp only [Option.map_some, Option.getD_some, Node.asText, withoutSlashes_eq,
        hreadable regex hpattern]

theorem readRequired_written (rules : Rules) :
    readRequired (.ofValue rules.written) = .ok rules.required := by
  rw [readRequired, get_required]
  cases rules.required <;> rfl

/-- **Rules are read as they are written.** -/
theorem ofNode_written {rules : Rules} (hreadable : rules.Readable) :
    ofNode (.ofValue rules.written) = .ok rules := by
  rw [ofNode, readKind_written, readPattern_written hreadable, readRequired_written]

end Rules

/-! ## Schemas -/

namespace Schema

mutual

/-- How a schema is written. -/
def written : Schema → Value
  | .map entries =>
      .ofFields [("type", .text "map"), ("mapping", .ofFields (writtenEntries entries))]
  | .sequence item =>
      .ofFields [("type", .text "seq"), ("sequence", .sequence [item.written])]
  | .leaf rules => rules.written

/-- How the properties of a map are written. -/
def writtenEntries : List (String × Schema) → List (String × Value)
  | [] => []
  | (key, schema) :: entries => (key, schema.written) :: writtenEntries entries

end

mutual

/-- The regular expressions of a schema are what their texts are read as. -/
def Readable : Schema → Prop
  | .map entries => EntriesReadable entries
  | .sequence item => item.Readable
  | .leaf rules => rules.Readable

/-- The regular expressions of properties are what their texts are read as. -/
def EntriesReadable : List (String × Schema) → Prop
  | [] => True
  | (_, schema) :: entries => schema.Readable ∧ EntriesReadable entries

end

theorem collect_cons {ε α : Type} {result : Except (List ε) α}
    {results : List (Except (List ε) α)} {value : α} {values : List α}
    (hfirst : result = .ok value) (hrest : collect results = .ok values) :
    collect (result :: results) = .ok (value :: values) := by
  simp only [collect, hfirst, hrest]

mutual

/-- **A schema is read as it is written.** -/
theorem ofNode_written : ∀ {schema : Schema}, schema.Readable →
    ofNode (.ofValue schema.written) = .ok schema
  | .map entries, hreadable => by
      rw [Readable] at hreadable
      have hmapping : (Node.ofValue (written (.map entries))).get "mapping" =
          .ofValue (.ofFields (writtenEntries entries)) := by
        rw [written, Node.get_ofFields]
        rfl
      have htype : ((Node.ofValue (written (.map entries))).get "type").text? = some "map" := by
        rw [written, Node.get_ofFields]
        rfl
      rw [ofNode_of_map htype, hmapping, collect_writtenEntries hreadable]
      rfl
  | .sequence item, hreadable => by
      rw [Readable] at hreadable
      have hsequence : (Node.ofValue (written (.sequence item))).get "sequence" =
          .sequence [item.written] := by
        rw [written, Node.get_ofFields]
        rfl
      have htype : ((Node.ofValue (written (.sequence item))).get "type").text? = some "seq" := by
        rw [written, Node.get_ofFields]
        rfl
      rw [ofNode_of_sequence htype, hsequence]
      simp only [Node.isSequence, Node.elements, List.map_cons, List.map_nil, if_true]
      rw [ofNode_written hreadable]
      rfl
  | .leaf rules, hreadable => by
      rw [Readable] at hreadable
      rw [written, ofNode_of_leaf, Rules.ofNode_written hreadable]
      · rfl
      -- the type of a leaf is none of the two other types
      · rw [Rules.get_type]
        cases rules.kind <;> simp [Node.text?]
      · rw [Rules.get_type]
        cases rules.kind <;> simp [Node.text?]

theorem collect_writtenEntries : ∀ {entries : List (String × Schema)}, EntriesReadable entries →
    collect ((Node.ofValue (.ofFields (writtenEntries entries))).entries.map fun entry =>
      (ofNode entry.2).map fun read => (entry.1, read)) = .ok entries
  | [], _ => rfl
  | (key, schema) :: entries, hreadable => by
      rw [EntriesReadable] at hreadable
      have hfirst : (ofNode (.ofValue schema.written)).map (fun read => (key, read)) =
          .ok (key, schema) := by
        rw [ofNode_written hreadable.1]
        rfl
      exact collect_cons hfirst (collect_writtenEntries hreadable.2)

end

end Schema

end MtaCheck
