import MtaCheck.Yaml.Token.Tag

/-!
# Directives

A line that begins with a percent sign tells something about the document that
follows: the version of the language, or what a tag handle stands for.  No other
directive is known.
-/

namespace MtaCheck.Yaml.Scan

/-! ## Versions -/

/-- The number of decimal digits that a version number may have. -/
def versionDigits : Nat := 9

/-- The rest of a version number, whose digits so far have the given value. -/
def versionDigitsFrom (began : Mark) : Nat → Nat → Nat → Scan Nat
  | 0, _, value => return value
  | steps + 1, count, value => do
      require 1
      match (← peek).filter Char.isDigit with
      | none =>
          if count == 0 then fail .versionDirective began .missingVersionNumber
          else return value
      | some digit =>
          if count ≥ versionDigits then fail .versionDirective began .longVersionNumber
          else
            advance 1
            versionDigitsFrom began steps (count + 1) (value * 10 + (digit.toNat - '0'.toNat))

/-- One of the two numbers of a version. -/
def versionNumber (began : Mark) : Scan Nat :=
  versionDigitsFrom began (versionDigits + 2) 0 0

/-- The version in a directive. -/
def versionDirective (began : Mark) : Scan TokenKind := do
  skipBlanks
  let major ← versionNumber began
  unless ← startsWith '.' do
    fail .versionDirective began .missingVersionDot
  advance 1
  let minor ← versionNumber began
  return .versionDirective major minor

/-! ## Tag handles -/

/-- The handle in a directive and what it stands for. -/
def tagDirective (began : Mark) : Scan TokenKind := do
  skipBlanks
  let handle ← tagHandle true began
  require 1
  unless (← peek).any isBlank do
    fail .tagDirective began .missingWhitespace
  skipBlanks
  let expansion ← tagUri true true [] began
  require 1
  unless isBlankOrEnd (← peek) do
    fail .tagDirective began .missingWhitespaceOrBreak
  return .tagDirective (String.ofList handle) expansion

/-! ## The whole line -/

/-- A directive with everything to the end of its line. -/
def directiveToken : Scan Token := do
  let began ← mark
  advance 1
  let name ← runOf isWordChar
  if name.isEmpty then
    fail .directive began .missingDirectiveName
  unless isBlankOrEnd (← peek) do
    fail .directive began .badDirectiveName
  let kind ←
    if name == "YAML".toList then versionDirective began
    else if name == "TAG".toList then tagDirective began
    else fail .directive began .unknownDirective
  let ended ← mark
  skipBlanks
  skipComment
  unless isBreakOrEnd (← peek) do
    fail .directive began .missingLineEnd
  require 2
  let _ ← lineBreak
  return ⟨kind, began, ended⟩

end MtaCheck.Yaml.Scan
