import MtaCheck.Yaml.Record

/-!
# Descriptors

Of a descriptor only the modules count here, and of a module its name and its path.
Whatever is left out is empty, and unknown fields are passed over.
-/

namespace MtaCheck

open Yaml (Document Read ReadError Trail)

/-- A module of a project. -/
structure Module where
  name : String
  path : String
deriving DecidableEq

/-- Where a module is, relative to the project: at its path, or under its name if it
has no path. -/
def Module.relativePath (module : Module) : String :=
  if module.path.isEmpty then module.name else module.path

/-- A descriptor. -/
structure Descriptor where
  modules : List Module

/-! ## Reading -/

/-- The fields of a module that have been read so far. -/
structure Module.Fields where
  name : Option String
  path : Option String

/-- Reads a module. -/
def Module.read (document : Document) (trail : Trail) : Read Module := do
  let fields ← Read.record document "struct Module" trail ⟨none, none⟩
    fun complain field trail (fields : Fields) =>
      match field with
      | "name" => Read.once complain field fields.name (Read.text document "a string" trail)
          fun name => { fields with name := some name }
      | "path" => Read.once complain field fields.path (Read.text document "a string" trail)
          fun path => { fields with path := some path }
      | _ => do
          Read.skip document
          return fields
  return ⟨fields.name.getD "", fields.path.getD ""⟩

/-- Reads a descriptor. -/
def Descriptor.read (document : Document) : Read Descriptor := do
  let modules ← Read.record document "struct Descriptor" .root none
    fun complain field trail (modules : Option (List Module)) =>
      match field with
      | "modules" =>
          Read.once complain field modules (Read.sequence document trail (Module.read document))
            some
      | _ => do
          Read.skip document
          return modules
  return ⟨modules.getD []⟩

/-- The descriptor that a text spells. -/
def Descriptor.parse (octets : List UInt8) : Except ReadError Descriptor :=
  let document := Document.ofOctets octets
  Read.run document (Descriptor.read document)

end MtaCheck
