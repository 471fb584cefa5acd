import MtaCheck.Regex
import MtaCheck.Yaml.ReadError

/-!
# Defects of a schema

A defect is a fault of the schema itself.  It says nothing about any document, and
its text says so in front.
-/

namespace MtaCheck

/-- A fault of a schema. -/
inductive SchemaDefect
  /-- The text of the schema is no document. -/
  | unreadable (error : Yaml.ReadError)
  | mappingNotMap
  | sequenceNotArray
  | sequenceEmpty
  | sequenceLong
  | typeNotText
  | enumsMissing
  | enumsNotArray
  | enumsNotSimple
  | patternNotText
  | patternInvalid (pattern : String) (error : Regex.PatternError)
  | requiredNotBoolean
  /-- A fault in somebody else's words. -/
  | other (text : String)

namespace SchemaDefect

/-- What a defect consists in. -/
def description : SchemaDefect → String
  | .unreadable error => "the schema could not be parsed: " ++ error.message
  | .mappingNotMap => "the mapping node must be a map"
  | .sequenceNotArray => "the sequence node must be an array"
  | .sequenceEmpty => "the sequence node must contain one item"
  | .sequenceLong => "the sequence node can only have one item"
  | .typeNotText => "the type node must be a string"
  | .enumsMissing => "enums values must be listed"
  | .enumsNotArray => "enums values must be listed as an array"
  | .enumsNotSimple => "enum values must be simple"
  | .patternNotText => "the pattern node must be a string"
  | .patternInvalid pattern error =>
      "the pattern node is invalid because: " ++ error.message pattern
  | .requiredNotBoolean => "the required node must be a boolean"
  | .other text => text

/-- The text of a defect. -/
def message (defect : SchemaDefect) : String := "invalid YAML schema: " ++ defect.description

end SchemaDefect

end MtaCheck
