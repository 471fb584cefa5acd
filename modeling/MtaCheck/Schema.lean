import MtaCheck.Check
import MtaCheck.Node.Weight

/-!
# Schemas

A schema is a document that describes documents.  Its `type` decides what it is: a
`map` has a schema for each of its properties under `mapping`, a `seq` has a schema
for its elements under `sequence`, and everything else is a leaf, whose rules look
at a node as a whole.

Reading a schema gives the schema or all its defects; a schema is never used in
part.  `Schema.checks` turns a schema into checks.
-/

namespace MtaCheck

/-- What a leaf demands of a value. -/
inductive LeafKind
  | any
  | boolean
  | oneOf (values : List String)

/-- The rules of a leaf. -/
structure Rules where
  kind : LeafKind
  pattern : Option Regex
  required : Option Bool

/-- A schema. -/
inductive Schema
  | map (entries : List (String × Schema))
  | sequence (item : Schema)
  | leaf (rules : Rules)

/-! ## Collecting defects -/

/-- The error of a result, if it is one. -/
def defectsOf {ε α : Type} : Except ε α → List ε
  | .ok _ => []
  | .error defect => [defect]

/-- All results, or the errors of all that failed. -/
def collect {ε α : Type} : List (Except (List ε) α) → Except (List ε) (List α)
  | [] => .ok []
  | result :: results =>
      match result, collect results with
      | .ok value, .ok values => .ok (value :: values)
      | .ok _, .error defects => .error defects
      | .error defects, .ok _ => .error defects
      | .error defects, .error more => .error (defects ++ more)

/-! ## Leaves -/

namespace Rules

/-- The allowed values under `enums`. -/
def values (schema : Node) : Except SchemaDefect (List String) :=
  match schema.get "enums" with
  | .missing => .error .enumsMissing
  | enums@(.sequence _) =>
      enums.elements.mapM fun element => element.literal?.elim (.error .enumsNotSimple) .ok
  | _ => .error .enumsNotArray

/-- What a leaf demands, from its `type`. -/
def readKind (schema : Node) : Except SchemaDefect LeafKind :=
  match (schema.get "type").asText with
  | .ok (some "bool") => .ok .boolean
  | .ok (some "enum") => (values schema).map .oneOf
  | .ok _ => .ok .any
  | .error _ => .error .typeNotText

/-- A pattern without the slashes around it. -/
def withoutSlashes (pattern : String) : String :=
  let characters := pattern.toList
  let characters := if characters.head? == some '/' then characters.tail else characters
  .ofList (if characters.getLast? == some '/' then characters.dropLast else characters)

/-- The pattern of a leaf. -/
def readPattern (schema : Node) : Except SchemaDefect (Option Regex) :=
  match (schema.get "pattern").asText with
  | .ok none => .ok none
  | .ok (some text) =>
      let pattern := withoutSlashes text
      match Regex.ofSource pattern with
      | .ok regex => .ok (some regex)
      | .error error => .error (.patternInvalid pattern error)
  | .error _ => .error .patternNotText

/-- Whether a leaf has to be there, or may be missing, or says nothing about
it. -/
def readRequired (schema : Node) : Except SchemaDefect (Option Bool) :=
  (schema.get "required").asTruth.mapError fun _ => .requiredNotBoolean

/-- The rules of a leaf. -/
def ofNode (schema : Node) : Except (List SchemaDefect) Rules :=
  match readKind schema, readPattern schema, readRequired schema with
  | .ok kind, .ok pattern, .ok required => .ok ⟨kind, pattern, required⟩
  | kind, pattern, required =>
      .error (defectsOf kind ++ defectsOf pattern ++ defectsOf required)

/-- The checks of what a leaf demands. -/
def kindChecks : LeafKind → List Check
  | .any => []
  | .boolean => [.kind .boolean]
  | .oneOf values => [.failFast [.kind .scalar, .oneOf values]]

/-- The checks of a pattern. -/
def patternChecks : Option Regex → List Check
  | none => []
  | some regex => [.failFast [.kind .scalar, .matching regex]]

/-- The checks of a leaf. -/
def checks (rules : Rules) : List Check :=
  let checks := kindChecks rules.kind ++ patternChecks rules.pattern
  match rules.required with
  | none => checks
  | some true => [.failFast (.required :: checks)]
  | some false => [.optional checks]

end Rules

/-! ## Schemas -/

namespace Schema

/-- Reads a schema. -/
def ofNode (schema : Node) : Except (List SchemaDefect) Schema :=
  match (schema.get "type").asText with
  | .ok (some "map") =>
      if (schema.get "mapping").isMap then
        (collect ((schema.get "mapping").entries.attach.map fun ⟨(key, value), _⟩ =>
          (ofNode value).map fun read => (key, read))).map .map
      else .error [.mappingNotMap]
  | .ok (some "seq") =>
      if (schema.get "sequence").isSequence then
        match _hitems : (schema.get "sequence").elements with
        | [] => .error [.sequenceEmpty]
        | [item] => (ofNode item).map .sequence
        | _ => .error [.sequenceLong]
      else .error [.sequenceNotArray]
  | _ => (Rules.ofNode schema).map .leaf
termination_by schema.weight
decreasing_by
  · rename_i hmem
    have hentry := Node.weight_lt_of_mem_entries hmem
    have hmapping := schema.weight_get_le "mapping"
    omega
  · have hmem : item ∈ (schema.get "sequence").elements := by simp [_hitems]
    have hitem := Node.weight_lt_of_mem_elements hmem
    have hsequence := schema.weight_get_le "sequence"
    omega

mutual

/-- The checks that a schema stands for. -/
def checks : Schema → List Check
  | .map entries => .kind .map :: entryChecks entries
  | .sequence item => [.failFast [.kind .array, .forEach item.checks]]
  | .leaf rules => rules.checks

/-- The checks of the properties of a map. -/
def entryChecks : List (String × Schema) → List Check
  | [] => []
  | (key, schema) :: entries => .property key schema.checks :: entryChecks entries

end

/-- Reads the text of a schema. -/
def ofText (text : String) : Except (List SchemaDefect) Schema :=
  match Yaml.parse text.toUTF8.toList with
  | .ok value => ofNode (.ofValue value)
  | .error error => .error [.unreadable error]

end Schema

/-! ## Compiled schemas -/

/-- What has become of a schema: its checks, or its defects. -/
structure CompiledSchema where
  checks : List Check
  defects : List SchemaDefect

namespace CompiledSchema

/-- What has become of a schema that was read or not. -/
def ofResult : Except (List SchemaDefect) Schema → CompiledSchema
  | .ok schema => ⟨schema.checks, []⟩
  | .error defects => ⟨[], defects⟩

/-- Compiles a schema. -/
def ofNode (schema : Node) : CompiledSchema := ofResult (Schema.ofNode schema)

/-- Compiles the text of a schema. -/
def ofText (text : String) : CompiledSchema := ofResult (Schema.ofText text)

/-- Whether a schema has no defects. -/
def isValid (compiled : CompiledSchema) : Bool := compiled.defects.isEmpty

/-- The issues of a document, if it can be read. -/
def validate (compiled : CompiledSchema) (content : List UInt8) :
    Except Yaml.ReadError (List Issue) :=
  Check.validate compiled.checks content

end CompiledSchema

end MtaCheck
