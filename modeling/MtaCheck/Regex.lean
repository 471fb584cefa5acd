import MtaCheck.Regex.Parse
import MtaCheck.Regex.Meaning

/-!
# Regular expressions

A regular expression is a pattern that has been found sound, together with its
text.

Two limits of the engine that runs patterns are not modelled.  It refuses a sound
pattern whose compiled form takes too much memory, for example because of large
counts of repetitions, and `ofSource` knows no such size.  And it knows the
properties `age`, `gcb`, `sb` and `wb` by their values, of which there are no tables
here; a pattern that asks for one of them is refused.
-/

namespace MtaCheck

/-- A regular expression. -/
structure Regex where
  source : String
  pattern : Regex.Pattern

namespace Regex

/-- Reads a regular expression.  It fails if the pattern is not sound, and only then:
the size of a compiled pattern has no limit here. -/
def ofSource (source : String) : Except PatternError Regex := do
  let ast ← Ast.ofPattern source
  let pattern ← ast.meaning.run' .default
  return ⟨source, pattern⟩

/-- Whether a regular expression matches somewhere in a text. -/
def isMatch (regex : Regex) (text : String) : Bool := regex.pattern.isMatch text.toList

end Regex

end MtaCheck
