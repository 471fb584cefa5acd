/-!
# Errors in patterns

An error in a pattern is shown below the pattern: carets mark the part that is
wrong, and a second part if one belongs to the error.  A pattern of several lines
is shown with line numbers between two rulers, and a part that spans several lines
is described instead of marked.
-/

namespace MtaCheck.Regex

/-! ## Parts of a pattern -/

/-- A place in a pattern: its offset in characters, its line and its column, the
latter two counted from one. -/
structure Position where
  offset : Nat
  line : Nat
  column : Nat
deriving DecidableEq, Inhabited

/-- The beginning of a pattern. -/
def Position.start : Position := ⟨0, 1, 1⟩

/-- The place behind a character. -/
def Position.after (position : Position) (char : Char) : Position :=
  if char == '\n' then ⟨position.offset + 1, position.line + 1, 1⟩
  else ⟨position.offset + 1, position.line, position.column + 1⟩

/-- A part of a pattern. -/
structure Span where
  start : Position
  stop : Position
deriving DecidableEq, Inhabited

/-! ## The causes -/

/-- What is wrong with a pattern. -/
inductive Problem
  -- classes
  | classEscape
  | classRange
  | classRangeBoundary
  | classUnclosed
  -- numbers and escapes
  | decimalInvalid
  | hexEmpty
  | hexInvalid
  | hexDigit
  | escapeIncomplete
  | escapeUnknown
  -- flags
  | flagDanglingNegation
  | flagDuplicate (earlier : Span)
  | flagRepeatedNegation (earlier : Span)
  | flagIncomplete
  | flagUnknown
  -- groups
  | groupNameDuplicate (earlier : Span)
  | groupNameEmpty
  | groupNameInvalid
  | groupNameUnclosed
  | groupUnclosed
  | groupUnopened
  | nesting (limit : Nat)
  -- repetitions
  | repetitionRange
  | repetitionDecimal
  | repetitionUnclosed
  | repetitionMissing
  -- assertions
  | boundaryUnclosed
  | boundaryUnknown
  | boundaryIncomplete
  -- what is not supported
  | propertySyntax
  | backreference
  | lookAround
  -- what characters a pattern may match
  | unicodeNotAllowed
  | invalidText
  | propertyUnknown
  | propertyValueUnknown
deriving DecidableEq

/-- The wording of a problem. -/
def Problem.message : Problem → String
  | .classEscape => "invalid escape sequence found in character class"
  | .classRange => "invalid character class range, the start must be <= the end"
  | .classRangeBoundary => "invalid range boundary, must be a literal"
  | .classUnclosed => "unclosed character class"
  | .decimalInvalid => "decimal literal invalid"
  | .hexEmpty => "hexadecimal literal empty"
  | .hexInvalid => "hexadecimal literal is not a Unicode scalar value"
  | .hexDigit => "invalid hexadecimal digit"
  | .escapeIncomplete => "incomplete escape sequence, reached end of pattern prematurely"
  | .escapeUnknown => "unrecognized escape sequence"
  | .flagDanglingNegation => "dangling flag negation operator"
  | .flagDuplicate _ => "duplicate flag"
  | .flagRepeatedNegation _ => "flag negation operator repeated"
  | .flagIncomplete => "expected flag but got end of regex"
  | .flagUnknown => "unrecognized flag"
  | .groupNameDuplicate _ => "duplicate capture group name"
  | .groupNameEmpty => "empty capture group name"
  | .groupNameInvalid => "invalid capture group character"
  | .groupNameUnclosed => "unclosed capture group name"
  | .groupUnclosed => "unclosed group"
  | .groupUnopened => "unopened group"
  | .nesting limit =>
      s!"exceed the maximum number of nested parentheses/brackets ({limit})"
  | .repetitionRange => "invalid repetition count range, the start must be <= the end"
  | .repetitionDecimal => "repetition quantifier expects a valid decimal"
  | .repetitionUnclosed => "unclosed counted repetition"
  | .repetitionMissing => "repetition operator missing expression"
  | .boundaryUnclosed =>
      "special word boundary assertion is either unclosed or contains an invalid character"
  | .boundaryUnknown =>
      "unrecognized special word boundary assertion, "
        ++ "valid choices are: start, end, start-half or end-half"
  | .boundaryIncomplete =>
      "found either the beginning of a special word boundary or a bounded repetition "
        ++ "on a \\b with an opening brace, but no closing brace"
  | .propertySyntax => "invalid Unicode character class"
  | .backreference => "backreferences are not supported"
  | .lookAround => "look-around, including look-ahead and look-behind, is not supported"
  | .unicodeNotAllowed => "Unicode not allowed here"
  | .invalidText => "pattern can match invalid UTF-8"
  | .propertyUnknown => "Unicode property not found"
  | .propertyValueUnknown => "Unicode property value not found"

/-- The part of the pattern that a problem refers back to. -/
def Problem.earlier? : Problem → Option Span
  | .flagDuplicate earlier => some earlier
  | .flagRepeatedNegation earlier => some earlier
  | .groupNameDuplicate earlier => some earlier
  | _ => none

/-- A problem and the part of the pattern that has it. -/
structure PatternError where
  problem : Problem
  span : Span
deriving DecidableEq

/-! ## Showing an error -/

/-- `count` times the same character. -/
def repeated (count : Nat) (char : Char) : String := String.ofList (List.replicate count char)

/-- Cuts a text at its line feeds. -/
def cutLines : List Char → List Char × List (List Char)
  | [] => ([], [])
  | char :: rest =>
      let (line, lines) := cutLines rest
      if char == '\n' then ([], line :: lines) else (char :: line, lines)

/-- A line without the carriage return at its end. -/
def withoutReturn (line : List Char) : List Char :=
  if line.getLast? == some '\r' then line.dropLast else line

/-- The lines of a pattern: those that a line feed ends, each without the carriage
return in front of it, and what stands behind the last line feed, unless that is
empty. -/
def patternLines (pattern : String) : List String :=
  let (first, more) := cutLines pattern.toList
  let lines := first :: more
  let last := lines.getLast?.getD []
  (lines.dropLast.map withoutReturn ++ if last.isEmpty then [] else [last]).map String.ofList

/-- Marks the given parts of one line, from left to right, behind `column`
characters. -/
def marks : List Span → Nat → String
  | [], _ => ""
  | span :: spans, column =>
      let start := span.start.column - 1
      let width := max 1 (span.stop.column - span.start.column)
      repeated (start - column) ' ' ++ repeated width '^' ++ marks spans (max column start + width)

/-- The parts in the order in which they begin. -/
def inOrder : List Span → List Span
  | [first, second] =>
      if second.start.offset < first.start.offset then [second, first] else [first, second]
  | spans => spans

/-- The parts that an error marks. -/
def PatternError.spans (error : PatternError) : List Span :=
  inOrder (error.span :: error.problem.earlier?.toList)

/-- A line of the pattern with the marks below it. -/
def markedLine (width : Nat) (spans : List Span) (number : Nat) (line : String) : String :=
  let label :=
    if width == 0 then repeated 4 ' '
    else
      let digits := toString number
      repeated (width - digits.length) ' ' ++ digits ++ ": "
  let here := spans.filter fun span => span.start.line == number && span.stop.line == number
  label ++ line ++ "\n" ++
    (if here.isEmpty then "" else repeated label.length ' ' ++ marks here 0 ++ "\n")

/-- The description of a part of several lines. -/
def Span.describe (span : Span) : String :=
  s!"on line {span.start.line} (column {span.start.column}) "
    ++ s!"through line {span.stop.line} (column {span.stop.column - 1})\n"

/-- The text of an error in a pattern. -/
def PatternError.message (error : PatternError) (pattern : String) : String :=
  let lines := patternLines pattern
  let severalLines := pattern.toList.contains '\n'
  let count := lines.length + (if pattern.toList.getLast? == some '\n' then 1 else 0)
  let width := if count ≤ 1 then 0 else (toString count).length
  let marked := String.join ((lines.zipIdx 1).map fun (line, number) =>
    markedLine width error.spans number line)
  let ruler := if severalLines then repeated 79 '~' ++ "\n" else ""
  let notes := if severalLines then
      String.join ((error.spans.filter fun span => span.start.line != span.stop.line).map
        Span.describe)
    else ""
  "regex parse error:\n" ++ ruler ++ marked ++ ruler ++ notes ++ "error: " ++ error.problem.message

end MtaCheck.Regex
