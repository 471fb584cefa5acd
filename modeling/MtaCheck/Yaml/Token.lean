import MtaCheck.Yaml.Mark

/-!
# Tokens

A token is a piece of a text that means something by itself: an indicator, a
name, or the contents of a scalar.  Some tokens have no characters of their own:
the beginnings and ends of block collections come from indentation, and the key
of a simple entry is only known once its colon is met.
-/

namespace MtaCheck.Yaml

/-- How a scalar is written. -/
inductive ScalarStyle
  | plain
  | singleQuoted
  | doubleQuoted
  | literal
  | folded
deriving DecidableEq

/-- The octets of a tag.  They are kept as they are written, since escapes can
spell octets that are no text. -/
abbrev TagOctets := List UInt8

/-- What a token is. -/
inductive TokenKind
  | streamStart
  | streamEnd
  | versionDirective (major minor : Nat)
  | tagDirective (handle : String) (expansion : TagOctets)
  | documentStart
  | documentEnd
  | blockSequenceStart
  | blockMappingStart
  | blockEnd
  | flowSequenceStart
  | flowSequenceEnd
  | flowMappingStart
  | flowMappingEnd
  | blockEntry
  | flowEntry
  | key
  | value
  | reference (name : String)
  | anchor (name : String)
  | tag (handle : String) (suffix : TagOctets)
  | scalar (text : String) (style : ScalarStyle)
deriving DecidableEq

/-- A token and the places where it begins and ends. -/
structure Token where
  kind : TokenKind
  start : Mark
  stop : Mark

end MtaCheck.Yaml
