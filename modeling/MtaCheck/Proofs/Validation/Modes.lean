import MtaCheck.Proofs.Validation.Descriptors
import MtaCheck.Validator

/-!
# The three modes

A validation has two phases.  The first compares the document with the schema and
always ends in a list of issues; the second reads the document as a descriptor, which
can fail, and looks for the directories of its modules.  `SchemaReport` and
`ProjectReport` say what each phase answers on its own.

* `modeLaws_ofText`: the modes `schema` and `project` are the two phases, the mode
  `all` is one after the other, and a schema with defects takes the place of
  everything that would have needed it.
* `keepsSchemaIssues_iff`: the mode `all` reports what the mode `schema` reports, in
  the same order and in front, just if the document has the shape of a descriptor.
  Otherwise the issues of the first phase are lost, as `loses_schema_issues` shows.
-/

namespace MtaCheck

namespace CompiledSchema

/-! ## The two phases -/

/-- What comparing a content with a schema reports. -/
inductive SchemaReport (schema : CompiledSchema) (content : List UInt8) : List Issue → Prop
  /-- The defects of a schema are all there is to report. -/
  | broken (hbroken : schema.isValid = false) :
      SchemaReport schema content (schema.defects.map .schemaDefect)
  /-- A document that can be read has the issues that the checks find in it. -/
  | read {value : Yaml.Value} (hvalid : schema.isValid = true)
      (hparse : Yaml.parse content = .ok value) :
      SchemaReport schema content (Check.run schema.checks (.ofValue value))
  /-- That a document cannot be read is the only issue with it. -/
  | unreadable {error : Yaml.ReadError} {issue : Issue} (hvalid : schema.isValid = true)
      (hparse : Yaml.parse content = .error error)
      (hmessage : issue.message = "validation failed because: " ++ error.message) :
      SchemaReport schema content [issue]

/-- What comparing a content with a project answers. -/
inductive ProjectReport (disk : Disk) (root : Path) (content : List UInt8) :
    Except ValidateError (List Issue) → Prop
  /-- A descriptor has the issues of its modules. -/
  | read {descriptor : Descriptor} (hparse : Descriptor.parse content = .ok descriptor) :
      ProjectReport disk root content (.ok (moduleIssues disk root descriptor.modules))
  /-- What is no descriptor is refused. -/
  | refused {error : Yaml.ReadError} (hparse : Descriptor.parse content = .error error) :
      ProjectReport disk root content (.error (.noDescriptor error))

variable {schema : CompiledSchema} {disk : Disk} {root : Path} {content : List UInt8}

theorem validateContent_schema_of_broken (hbroken : schema.isValid = false) :
    schema.validateContent disk root .schema content =
      .ok (schema.defects.map .schemaDefect) := by
  simp [validateContent, Mode.runsSchema, hbroken]

theorem validateContent_schema_of_valid (hvalid : schema.isValid = true) :
    schema.validateContent disk root .schema content = .ok (schema.documentIssues content) := by
  simp [validateContent, Mode.runsSchema, Mode.runsProject, hvalid]

theorem validateContent_all_of_broken (hbroken : schema.isValid = false) :
    schema.validateContent disk root .all content =
      .ok (schema.defects.map .schemaDefect) := by
  simp [validateContent, Mode.runsSchema, hbroken]

theorem exists_schemaReport (schema : CompiledSchema) (content : List UInt8) :
    ∃ issues, SchemaReport schema content issues ∧
      ∀ disk root, schema.validateContent disk root .schema content = .ok issues := by
  cases hvalid : schema.isValid with
  | false => exact ⟨_, .broken hvalid, fun _ _ => validateContent_schema_of_broken hvalid⟩
  | true =>
      refine ⟨_, ?_, fun _ _ => validateContent_schema_of_valid hvalid⟩
      unfold documentIssues validate Check.validate
      cases hparse : Yaml.parse content with
      | ok value => exact .read hvalid hparse
      | error error => exact .unreadable hvalid hparse rfl

theorem exists_projectReport (disk : Disk) (root : Path) (content : List UInt8) :
    ∃ report, ProjectReport disk root content report ∧
      ∀ schema : CompiledSchema, schema.validateContent disk root .project content = report := by
  cases hparse : Descriptor.parse content with
  | ok descriptor =>
      refine ⟨_, .read hparse, fun schema => ?_⟩
      simp [validateContent, Mode.runsSchema, Mode.runsProject, hparse,
        Descriptor.projectIssues]
  | error error =>
      refine ⟨_, .refused hparse, fun schema => ?_⟩
      simp [validateContent, Mode.runsSchema, Mode.runsProject, hparse]

/-- With a schema that has no defects, the mode `all` is the two phases one after the
other, and a failure of the second is all that is left of the first. -/
theorem validateContent_all_of_valid (hvalid : schema.isValid = true) {issues : List Issue}
    {report : Except ValidateError (List Issue)}
    (hschema : schema.validateContent disk root .schema content = .ok issues)
    (hproject : schema.validateContent disk root .project content = report) :
    schema.validateContent disk root .all content =
      report.map fun semantic => issues ++ semantic := by
  rw [validateContent_schema_of_valid hvalid] at hschema
  cases hschema
  rw [← hproject]
  cases hparse : Descriptor.parse content <;>
    simp [validateContent, Mode.runsSchema, Mode.runsProject, hvalid, hparse, Except.map]

theorem documentIssues_of_ok {issues : List Issue}
    (hissues : schema.validate content = .ok issues) : schema.documentIssues content = issues := by
  unfold documentIssues
  rw [hissues]

/-- What is left to report of a document that the schema accepts is missing directories. -/
theorem validateContent_of_accepted (hvalid : schema.isValid = true)
    (haccepted : schema.validate content = .ok []) {descriptor : Descriptor}
    (hread : Descriptor.parse content = .ok descriptor) (disk : Disk) (root : Path) :
    schema.validateContent disk root .schema content = .ok [] ∧
      schema.validateContent disk root .all content =
        .ok (moduleIssues disk root descriptor.modules) := by
  simp [validateContent, Mode.runsSchema, Mode.runsProject, hvalid,
    documentIssues_of_ok haccepted, hread, Descriptor.projectIssues]

/-! ## What the modes have to do with each other -/

/-- The laws of the three modes for a schema, a project and a content, where `issues`
is what the first phase reports and `report` is the answer of the second. -/
structure ModeLaws (schema : CompiledSchema) (disk : Disk) (root : Path) (content : List UInt8)
    (issues : List Issue) (report : Except ValidateError (List Issue)) : Prop where
  /-- The mode `schema` is the first phase; it never fails, and the project is nothing to
  it. -/
  schema_mode : ∀ disk root, schema.validateContent disk root .schema content = .ok issues
  /-- The mode `project` is the second phase, and the schema is nothing to it. -/
  project_mode : ∀ schema : CompiledSchema,
    schema.validateContent disk root .project content = report
  /-- With a schema that has defects the mode `all` reports these, whatever the content
  and the project. -/
  all_of_broken : schema.isValid = false → ∀ disk root content,
    schema.validateContent disk root .all content = .ok issues
  /-- With a schema that has none the mode `all` fails as the second phase does, and
  otherwise has the issues of the first phase in front of those of the second. -/
  all_of_valid : schema.isValid = true →
    schema.validateContent disk root .all content = report.map fun semantic => issues ++ semantic
  /-- The mode `all` finds nothing just if the other modes find nothing. -/
  all_empty_iff : schema.validateContent disk root .all content = .ok [] ↔
    schema.validateContent disk root .schema content = .ok [] ∧
      schema.validateContent disk root .project content = .ok []
  /-- With a schema that has defects no content passes. -/
  ne_nil_of_broken : schema.isValid = false → issues ≠ []

/-- **The modes.**  For every text of a schema, every project and every content there are
a report of the first phase and an answer of the second, and they are what the modes
answer. -/
theorem modeLaws_ofText (text : String) (disk : Disk) (root : Path) (content : List UInt8) :
    ∃ issues report, SchemaReport (ofText text) content issues ∧
      ProjectReport disk root content report ∧
      ModeLaws (ofText text) disk root content issues report := by
  obtain ⟨issues, hissues, hschema⟩ := exists_schemaReport (ofText text) content
  obtain ⟨report, hreport, hproject⟩ := exists_projectReport disk root content
  refine ⟨issues, report, hissues, hreport, ?_⟩
  have hbroken : (ofText text).isValid = false →
      issues = (ofText text).defects.map .schemaDefect := by
    intro hinvalid
    have hreported := hschema disk root
    rw [validateContent_schema_of_broken hinvalid] at hreported
    exact (Except.ok.inj hreported).symm
  have hne : (ofText text).isValid = false → issues ≠ [] := by
    intro hinvalid hnil
    rw [hbroken hinvalid, List.map_eq_nil_iff] at hnil
    simp [isValid, hnil] at hinvalid
  have hall_broken : (ofText text).isValid = false → ∀ disk root content,
      (ofText text).validateContent disk root .all content = .ok issues := by
    intro hinvalid disk root content
    rw [hbroken hinvalid, validateContent_all_of_broken hinvalid]
  have hall_valid : (ofText text).isValid = true →
      (ofText text).validateContent disk root .all content =
        report.map fun semantic => issues ++ semantic := by
    intro hvalid
    exact validateContent_all_of_valid hvalid (hschema disk root) (hproject _)
  refine ⟨hschema, hproject, hall_broken, hall_valid, ?_, hne⟩
  rw [hschema, hproject]
  cases hvalid : (ofText text).isValid with
  | false => simp [hall_broken hvalid, hne hvalid]
  | true => cases report <;> simp [hall_valid hvalid, Except.map]

/-! ## What becomes of the issues of the first phase -/

/-- The mode `all` reports what the mode `schema` reports, in its order and in front of
everything else. -/
def KeepsSchemaIssues (schema : CompiledSchema) (disk : Disk) (root : Path)
    (content : List UInt8) : Prop :=
  ∃ issues semantic, schema.validateContent disk root .schema content = .ok issues ∧
    schema.validateContent disk root .all content = .ok (issues ++ semantic)

/-- **The issues of the first phase are kept just if the second phase can read the
document.**  With a schema that has no defects, the mode `all` reports what the mode
`schema` reports, in front of what the project adds, if and only if the content is read
as a descriptor.  If it is not, the answer is that failure, which carries no issues.

For a content that can be parsed this is a matter of its shape: it holds a tree, and the
issues are kept if and only if that tree is shaped like a descriptor. -/
theorem keepsSchemaIssues_iff (schema : CompiledSchema) (disk : Disk) (root : Path)
    (content : List UInt8) (hvalid : schema.isValid = true) :
    (KeepsSchemaIssues schema disk root content ↔
        ∃ descriptor, Descriptor.parse content = .ok descriptor) ∧
      (∀ error, Descriptor.parse content = .error error →
        schema.validateContent disk root .all content = .error (.noDescriptor error) ∧
          (ValidateError.noDescriptor error).issues = []) ∧
      ∀ value, Yaml.parse content = .ok value →
        (∃ tree, (Yaml.Document.ofOctets content).Holds tree ∧ tree.value? false = some value) ∧
          ∀ tree, (Yaml.Document.ofOctets content).Holds tree →
            (KeepsSchemaIssues schema disk root content ↔ IsDescriptor tree) := by
  obtain ⟨issues, -, hschema⟩ := exists_schemaReport schema content
  obtain ⟨report, hreport, hproject⟩ := exists_projectReport disk root content
  have hall := validateContent_all_of_valid hvalid (hschema disk root) (hproject schema)
  have hkeeps : KeepsSchemaIssues schema disk root content ↔
      ∃ descriptor, Descriptor.parse content = .ok descriptor := by
    cases hreport with
    | read hparse =>
        exact iff_of_true ⟨issues, _, hschema disk root, hall⟩ ⟨_, hparse⟩
    | refused hparse =>
        refine iff_of_false ?_ ?_
        · rintro ⟨_, _, -, hkept⟩
          rw [hall] at hkept
          cases hkept
        · rintro ⟨descriptor, hread⟩
          rw [hparse] at hread
          cases hread
  refine ⟨hkeeps, ?_, ?_⟩
  · intro error herror
    cases hreport with
    | read hparse =>
        rw [hparse] at herror
        cases herror
    | refused hparse =>
        rw [hparse] at herror
        cases herror
        exact ⟨hall, rfl⟩
  · intro value hparse
    refine ⟨Yaml.exists_tree_of_parse hparse, fun tree hholds => ?_⟩
    exact hkeeps.trans (exists_descriptor_iff hparse hholds)

/-! ## A document that loses its issues -/

/-- A schema that requires an `ID` and wants a sequence under `modules`. -/
def modulesSchemaText : String :=
  "type: map\nmapping:\n  ID:\n    required: true\n  modules:\n    type: seq\n    sequence: [~]\n"

/-- A document with a number for its modules. -/
def numberOfModules : List UInt8 := "modules: 5\n".toUTF8.toList

/-- A document with one module. -/
def oneModule : List UInt8 := "modules: [{name: ui}]\n".toUTF8.toList

/-- A disk on which every directory is found. -/
def fullDisk : Disk := ⟨fun _ => .ok [], fun _ => true⟩

theorem isValid_modulesSchema : (ofText modulesSchemaText).isValid = true := by
  decide +kernel

theorem exists_eq_ok_of_isOk {ε α : Type} {result : Except ε α} (hok : result.isOk = true) :
    ∃ value, result = .ok value := by
  cases result with
  | ok value => exact ⟨value, rfl⟩
  | error error => cases hok

/-- With this schema the mode `all` keeps what is wrong with a document of one module. -/
theorem keepsSchemaIssues_oneModule :
    (ofText modulesSchemaText).isValid = true ∧
      (∃ issues, (ofText modulesSchemaText).validateContent fullDisk ⟨"."⟩ .schema oneModule =
          .ok issues ∧
        issues.map Issue.message = ["Missing required property <ID> in <root>"]) ∧
      KeepsSchemaIssues (ofText modulesSchemaText) fullDisk ⟨"."⟩ oneModule := by
  refine ⟨isValid_modulesSchema, ⟨_, validateContent_schema_of_valid isValid_modulesSchema, ?_⟩, ?_⟩
  · decide +kernel
  · apply (keepsSchemaIssues_iff (ofText modulesSchemaText) fullDisk ⟨"."⟩ oneModule
      isValid_modulesSchema).1.2
    exact exists_eq_ok_of_isOk (by decide +kernel)

/-- **A document that loses its issues.**  A number under `modules` can be parsed, and the
mode `schema` says what is wrong with the document; the mode `all` does not. -/
theorem loses_schema_issues :
    (ofText modulesSchemaText).isValid = true ∧
      (∃ value, Yaml.parse numberOfModules = .ok value) ∧
      (∃ issues, (ofText modulesSchemaText).validateContent fullDisk ⟨"."⟩ .schema
          numberOfModules = .ok issues ∧
        issues.map Issue.message =
          ["Missing required property <ID> in <root>",
            "the root.modules property must be an array"]) ∧
      ¬ KeepsSchemaIssues (ofText modulesSchemaText) fullDisk ⟨"."⟩ numberOfModules := by
  refine ⟨isValid_modulesSchema, exists_eq_ok_of_isOk (by decide +kernel),
    ⟨_, validateContent_schema_of_valid isValid_modulesSchema, ?_⟩, ?_⟩
  · decide +kernel
  · rintro ⟨issues, semantic, -, hkept⟩
    have hfails : ((ofText modulesSchemaText).validateContent fullDisk ⟨"."⟩ .all
        numberOfModules).isOk = false := by decide +kernel
    rw [hkept] at hfails
    cases hfails

end CompiledSchema

end MtaCheck
