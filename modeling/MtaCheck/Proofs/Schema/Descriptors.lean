import MtaCheck.Proofs.Schema.BuiltIn

/-!
# What the schema of deployment descriptors accepts

`Node.IsDescriptor` describes the documents that are in order, with one predicate for the
elements of each sequence and in terms of `Node.get` alone.  By
`accepts_descriptor_iff` these are the documents that the built-in schema accepts.

A property whose name is looked up may be missing in two ways, by having no entry or a null
as its value, and the predicates do not tell them apart.
-/

namespace MtaCheck

open Schema (Accepts EntriesAccept)

/-! ## The documents -/

namespace Node

/-- Something that is required: it has a name of any kind. -/
structure IsRequirement (node : Node) : Prop where
  isMap : node.isMap = true
  name : (node.get "name").isFound = true

/-- Something that is provided. -/
structure IsProvided (node : Node) : Prop where
  isMap : node.isMap = true
  name : (node.get "name").HasLiteral IsName
  isPublic : (node.get "public").MissingOr IsTruth

/-- How a module is built.  Nothing may be missing among what is ignored, but among the
platforms it may. -/
structure IsBuild (node : Node) : Prop where
  isMap : node.isMap = true
  ignore : (node.get "ignore").MissingOr (IsSequenceOf (·.isFound = true))
  platforms : (node.get "supported-platforms").MissingOr
    (IsSequenceOf (MissingOr (HasLiteral (· ∈ ["CF", "NEO", "XSA"]))))
  requires : (node.get "requires").MissingOr (IsSequenceOf IsRequirement)

/-- A module. -/
structure IsModule (node : Node) : Prop where
  isMap : node.isMap = true
  name : (node.get "name").HasLiteral IsName
  type : (node.get "type").isFound = true
  requires : (node.get "requires").MissingOr (IsSequenceOf IsRequirement)
  provides : (node.get "provides").MissingOr (IsSequenceOf IsProvided)
  build : (node.get "build-parameters").MissingOr IsBuild

/-- A resource. -/
structure IsResource (node : Node) : Prop where
  isMap : node.isMap = true
  name : (node.get "name").HasLiteral IsName
  isOptional : (node.get "optional").MissingOr IsTruth
  isActive : (node.get "active").MissingOr IsTruth
  requires : (node.get "requires").MissingOr (IsSequenceOf IsRequirement)

/-- A deployment descriptor. -/
structure IsDescriptor (node : Node) : Prop where
  isMap : node.isMap = true
  schemaVersion : (node.get "_schema-version").HasLiteral IsSchemaVersion
  id : (node.get "ID").HasLiteral IsName
  version : (node.get "version").HasLiteral IsVersion
  modules : (node.get "modules").MissingOr (IsSequenceOf IsModule)
  resources : (node.get "resources").MissingOr (IsSequenceOf IsResource)

end Node

/-! ## The parts of the schema -/

namespace Schema

open Node (HasLiteral IsSequenceOf MissingOr)

variable {node : Node}

theorem accepts_free : free.Accepts node := by
  rw [free, Accepts]
  exact ⟨by simp, trivial, by simp⟩

theorem accepts_present_iff : present.Accepts node ↔ node.isFound = true := by
  rw [present, Accepts, Node.isFound_iff]
  exact ⟨fun haccepts => haccepts.found rfl, fun hfound => ⟨fun _ => hfound, trivial, by simp⟩⟩

theorem accepts_matching_iff {regex : Regex} :
    (matching regex).Accepts node ↔ node.HasLiteral (regex.isMatch · = true) := by
  rw [matching, Accepts, Node.hasLiteral_iff]
  constructor
  · intro haccepts
    exact ⟨haccepts.found rfl, haccepts.pattern regex rfl⟩
  · rintro ⟨hfound, hpattern⟩
    refine ⟨fun _ => hfound, trivial, fun regex' hregex => ?_⟩
    rw [← Option.some_inj.mp hregex]
    exact hpattern

theorem accepts_flag_iff {required : Option Bool} (hrequired : required ≠ some true) :
    (flag required).Accepts node ↔ node.MissingOr Node.IsTruth := by
  rw [flag, Accepts]
  constructor
  · intro haccepts
    exact haccepts.kind
  · intro htruth
    exact ⟨fun hpresent => absurd hpresent hrequired, htruth, by simp⟩

theorem accepts_sequence_iff {item : Schema} :
    (sequence item).Accepts node ↔ node.MissingOr (IsSequenceOf item.Accepts) := by
  rw [Accepts]

theorem accepts_map_iff {entries : List (String × Schema)} :
    (map entries).Accepts node ↔
      node.MissingOr (·.isMap = true) ∧ ∀ entry ∈ entries, entry.2.Accepts (node.get entry.1) := by
  have hentries : EntriesAccept entries node ↔
      ∀ entry ∈ entries, entry.2.Accepts (node.get entry.1) := by
    induction entries with
    | nil => simp [EntriesAccept]
    | cons entry entries ih => rw [EntriesAccept, ih, List.forall_mem_cons]
  rw [Accepts, hentries]

/-- A map with a property that has to be there is no missing node. -/
theorem accepts_map_iff_isMap {entries : List (String × Schema)} {key : String} {schema : Schema}
    (hentry : (key, schema) ∈ entries) (hmissing : ¬schema.Accepts .missing) :
    (map entries).Accepts node ↔
      node.isMap = true ∧ ∀ entry ∈ entries, entry.2.Accepts (node.get entry.1) := by
  rw [accepts_map_iff]
  constructor
  · rintro ⟨rfl | hmap, hall⟩
    · exact absurd (hall _ hentry) hmissing
    · exact ⟨hmap, hall⟩
  · rintro ⟨hmap, hall⟩
    exact ⟨.inr hmap, hall⟩

theorem not_accepts_missing_present : ¬present.Accepts .missing := by
  rw [accepts_present_iff]
  exact Bool.false_ne_true

theorem not_accepts_missing_matching {regex : Regex} : ¬(matching regex).Accepts .missing := by
  rw [accepts_matching_iff]
  exact Node.not_hasLiteral_missing _

theorem accepts_name_iff : (matching nameRegex).Accepts node ↔ node.HasLiteral IsName := by
  rw [accepts_matching_iff]
  exact Node.hasLiteral_congr (fun _ => isMatch_nameRegex_iff) node

theorem accepts_schemaVersion_iff :
    (matching schemaVersionRegex).Accepts node ↔ node.HasLiteral IsSchemaVersion := by
  rw [accepts_matching_iff]
  exact Node.hasLiteral_congr (fun _ => isMatch_schemaVersionRegex_iff) node

theorem accepts_version_iff : (matching versionRegex).Accepts node ↔ node.HasLiteral IsVersion := by
  rw [accepts_matching_iff]
  exact Node.hasLiteral_congr (fun _ => isMatch_versionRegex_iff) node

theorem accepts_sequence_iff_of {item : Schema} {isItem : Node → Prop}
    (hitem : ∀ {element : Node}, item.Accepts element ↔ isItem element) :
    (sequence item).Accepts node ↔ node.MissingOr (IsSequenceOf isItem) := by
  rw [accepts_sequence_iff]
  exact Node.missingOr_congr (Node.isSequenceOf_congr fun _ => hitem) node

/-- Maps that need a name and say nothing of their other properties. -/
theorem accepts_requirement_iff {others : List (String × Schema)}
    (hothers : ∀ entry ∈ others, entry.2 = free) :
    (map (("name", present) :: others)).Accepts node ↔ node.IsRequirement := by
  rw [accepts_map_iff_isMap List.mem_cons_self not_accepts_missing_present,
    List.forall_mem_cons, accepts_present_iff]
  constructor
  · rintro ⟨hmap, hname, -⟩
    exact ⟨hmap, hname⟩
  · rintro ⟨hmap, hname⟩
    refine ⟨hmap, hname, fun entry hentry => ?_⟩
    rw [hothers entry hentry]
    exact accepts_free

theorem accepts_providedThing_iff : providedThing.Accepts node ↔ node.IsProvided := by
  rw [providedThing, accepts_map_iff_isMap List.mem_cons_self not_accepts_missing_matching]
  simp only [List.forall_mem_cons, List.not_mem_nil, false_imp_iff, implies_true, and_true,
    accepts_name_iff, accepts_flag_iff (show some false ≠ some true by decide)]
  constructor
  · rintro ⟨isMap, name, isPublic⟩
    exact ⟨isMap, name, isPublic⟩
  · rintro ⟨isMap, name, isPublic⟩
    exact ⟨isMap, name, isPublic⟩

theorem accepts_platform_iff :
    (leaf ⟨.oneOf ["CF", "NEO", "XSA"], none, none⟩).Accepts node ↔
      node.MissingOr (HasLiteral (· ∈ ["CF", "NEO", "XSA"])) := by
  rw [Accepts]
  exact ⟨fun haccepts => haccepts.kind, fun hplatform => ⟨by simp, hplatform, by simp⟩⟩

theorem accepts_buildParameters_iff :
    buildParameters.Accepts node ↔ node.MissingOr Node.IsBuild := by
  have hrequires : ∀ {element : Node},
      (map [("name", present), ("target-path", free)]).Accepts element ↔ element.IsRequirement :=
    accepts_requirement_iff (by simp)
  rw [buildParameters, accepts_map_iff]
  simp only [List.forall_mem_cons, List.not_mem_nil, false_imp_iff, implies_true, and_true,
    accepts_free, true_and, accepts_sequence_iff_of accepts_present_iff,
    accepts_sequence_iff_of accepts_platform_iff, accepts_sequence_iff_of hrequires]
  constructor
  · rintro ⟨hmissing | hmap, hignore, hplatforms, hrequires⟩
    · exact .inl hmissing
    · exact .inr ⟨hmap, hignore, hplatforms, hrequires⟩
  · rintro (rfl | ⟨hmap, hignore, hplatforms, hrequires⟩)
    · exact ⟨.inl rfl, .inl rfl, .inl rfl, .inl rfl⟩
    · exact ⟨.inr hmap, hignore, hplatforms, hrequires⟩

theorem accepts_descriptorModule_iff : descriptorModule.Accepts node ↔ node.IsModule := by
  have hrequires : ∀ {element : Node},
      (map [("name", present), ("group", free), ("list", free)]).Accepts element ↔
        element.IsRequirement :=
    accepts_requirement_iff (by simp)
  rw [descriptorModule, accepts_map_iff_isMap List.mem_cons_self not_accepts_missing_matching]
  simp only [List.forall_mem_cons, List.not_mem_nil, false_imp_iff, implies_true, and_true,
    accepts_free, true_and, accepts_name_iff, accepts_present_iff,
    accepts_sequence_iff_of hrequires, accepts_sequence_iff_of accepts_providedThing_iff,
    accepts_buildParameters_iff]
  constructor
  · rintro ⟨isMap, name, type, requires, provides, build⟩
    exact ⟨isMap, name, type, requires, provides, build⟩
  · rintro ⟨isMap, name, type, requires, provides, build⟩
    exact ⟨isMap, name, type, requires, provides, build⟩

theorem accepts_descriptorResource_iff : descriptorResource.Accepts node ↔ node.IsResource := by
  have hrequires : ∀ {element : Node},
      (map [("name", present)]).Accepts element ↔ element.IsRequirement :=
    accepts_requirement_iff (by simp)
  rw [descriptorResource, accepts_map_iff_isMap List.mem_cons_self not_accepts_missing_matching]
  simp only [List.forall_mem_cons, List.not_mem_nil, false_imp_iff, implies_true, and_true,
    accepts_free, true_and, accepts_name_iff, accepts_flag_iff (show none ≠ some true by decide),
    accepts_sequence_iff_of hrequires]
  constructor
  · rintro ⟨isMap, name, isOptional, isActive, requires⟩
    exact ⟨isMap, name, isOptional, isActive, requires⟩
  · rintro ⟨isMap, name, isOptional, isActive, requires⟩
    exact ⟨isMap, name, isOptional, isActive, requires⟩

/-! ## The whole schema -/

theorem accepts_descriptor_iff : descriptor.Accepts node ↔ node.IsDescriptor := by
  rw [descriptor, accepts_map_iff_isMap List.mem_cons_self not_accepts_missing_matching]
  simp only [List.forall_mem_cons, List.not_mem_nil, false_imp_iff, implies_true, and_true,
    accepts_free, true_and, accepts_schemaVersion_iff, accepts_version_iff, accepts_name_iff,
    accepts_sequence_iff_of accepts_descriptorModule_iff,
    accepts_sequence_iff_of accepts_descriptorResource_iff]
  constructor
  · rintro ⟨isMap, schemaVersion, id, version, modules, resources⟩
    exact ⟨isMap, schemaVersion, id, version, modules, resources⟩
  · rintro ⟨isMap, schemaVersion, id, version, modules, resources⟩
    exact ⟨isMap, schemaVersion, id, version, modules, resources⟩

end Schema

theorem CompiledSchema.run_descriptor_eq_nil_iff {document : Node} :
    Check.run CompiledSchema.descriptor.checks document = [] ↔ document.IsDescriptor := by
  rw [CompiledSchema.descriptor_eq, ← Schema.accepts_descriptor_iff]
  exact Schema.issues_eq_nil_iff

theorem CompiledSchema.isValid_descriptor : CompiledSchema.descriptor.isValid = true := by
  rw [descriptor_eq]
  rfl

/-- **The built-in schema accepts exactly the descriptors.**  It is valid, and of a document
it reports nothing just if the document is a descriptor. -/
theorem CompiledSchema.descriptor_accepts_exactly_descriptors :
    CompiledSchema.descriptor.isValid = true ∧
      ∀ document : Node,
        Check.run CompiledSchema.descriptor.checks document = [] ↔ document.IsDescriptor := by
  exact ⟨isValid_descriptor, fun document => run_descriptor_eq_nil_iff⟩

end MtaCheck
