import MtaCheck.Descriptor
import MtaCheck.Files.Resolve
import MtaCheck.Mode
import MtaCheck.Schema.BuiltIn

/-!
# Validating a descriptor

A descriptor is validated against a schema and compared with the project it
describes: every module has to have its directory.  The mode decides which of the
two is done.
-/

namespace MtaCheck

/-! ## The project -/

/-- Where the directory of a module has to be. -/
def Module.location (root : Path) (module : Module) : Path := root.join ⟨module.relativePath⟩

/-- The issues of modules that have no directory, in the order of the modules. -/
def moduleIssues (disk : Disk) (root : Path) (modules : List Module) : List Issue :=
  modules.filterMap fun module =>
    if disk.isDirectory (module.location root) then none
    else some (.moduleNotFound module.name module.relativePath)

/-- The issues of a descriptor with its project. -/
def Descriptor.projectIssues (disk : Disk) (root : Path) (descriptor : Descriptor) : List Issue :=
  moduleIssues disk root descriptor.modules

/-! ## Failures -/

/-- Why a validation does not end well. -/
inductive ValidateError
  | wrongMode (mode : String)
  | unreadable (path : Path) (error : FileError)
  /-- The document is no descriptor. -/
  | noDescriptor (error : Yaml.ReadError)
  | invalid (path : Path) (issues : List Issue)

/-- The text of a failure to read a file. -/
def readFailure (path : Path) (error : FileError) : String :=
  s!"Failed to read file '{path.text}': {error.message}"

namespace ValidateError

/-- The text of a failed validation. -/
def message : ValidateError → String
  | .wrongMode _ =>
      "wrong argument of validation mode. Expected one of [all, schema, project]"
  | .unreadable path _ => s!"could not read the {path.text} file; the validation failed"
  | .noDescriptor error =>
      "validation failed when unmarshalling the descriptor: " ++ error.message
  | .invalid path issues =>
      s!"validation of the {path.text} file failed with the following issues: \n" ++ report issues

/-- The text of the cause of a failed validation, if it has one. -/
def cause? : ValidateError → Option String
  | .unreadable path error => some (readFailure path error)
  | .noDescriptor error => some error.message
  | _ => none

/-- The issues that a failed validation has found. -/
def issues : ValidateError → List Issue
  | .invalid _ issues => issues
  | _ => []

end ValidateError

/-- The mode with a name. -/
def Mode.parse (name : String) : Except ValidateError Mode :=
  match Mode.ofName? name with
  | some mode => .ok mode
  | none => .error (.wrongMode name)

/-! ## Validation -/

namespace CompiledSchema

/-- The issues of a document; that it cannot be read is one of them. -/
def documentIssues (schema : CompiledSchema) (content : List UInt8) : List Issue :=
  match schema.validate content with
  | .ok issues => issues
  | .error error => [.unreadable error]

/-- The issues of the content of a descriptor.  If the schema has defects, they are
all that is reported in a mode that needs the schema. -/
def validateContent (schema : CompiledSchema) (disk : Disk) (root : Path) (mode : Mode)
    (content : List UInt8) : Except ValidateError (List Issue) :=
  if mode.runsSchema && !schema.isValid then .ok (schema.defects.map Issue.schemaDefect)
  else
    let issues := if mode.runsSchema then schema.documentIssues content else []
    if mode.runsProject then
      match Descriptor.parse content with
      | .error error => .error (.noDescriptor error)
      | .ok descriptor => .ok (issues ++ descriptor.projectIssues disk root)
    else .ok issues

/-- Validates the descriptor in a file of a directory. -/
def validateFile (schema : CompiledSchema) (disk : Disk) (directory file : Path) (mode : Mode) :
    Except ValidateError Unit :=
  let path := directory.join file
  match disk.read path with
  | .error error => .error (.unreadable path error)
  | .ok content =>
      match schema.validateContent disk directory mode content with
      | .error error => .error error
      | .ok [] => .ok ()
      | .ok issues => .error (.invalid path issues)

end CompiledSchema

end MtaCheck
