import MtaCheck.Regex.Pattern

/-!
# What a pattern means under its flags

The parts of a pattern are read in order, and flags change the meaning of what
follows them up to the end of the group around them, other branches included.

Without the flag for all scripts, classes are classes of octets.  A pattern has to
match whole characters, so an octet beyond ASCII is refused, in a class as well as
alone.
-/

namespace MtaCheck.Regex

/-- The flags in force at a place. -/
structure Flags where
  caseInsensitive : Bool
  multiLine : Bool
  dotMatchesNewLine : Bool
  unicode : Bool
  crlf : Bool

/-- The flags in force at the beginning of a pattern. -/
def Flags.default : Flags := ⟨false, false, false, true, false⟩

/-- The flags in force behind flags of the pattern. -/
def Flags.obeying (flags : Flags) (items : List FlagItem) : Flags where
  caseInsensitive := (flagState .caseInsensitive items true).getD flags.caseInsensitive
  multiLine := (flagState .multiLine items true).getD flags.multiLine
  dotMatchesNewLine := (flagState .dotMatchesNewLine items true).getD flags.dotMatchesNewLine
  unicode := (flagState .unicode items true).getD flags.unicode
  crlf := (flagState .crlf items true).getD flags.crlf

/-- Reading the meaning of a pattern, with the flags in force. -/
abbrev Meaning := StateT Flags (Except PatternError)

namespace Meaning

/-- Stops with a problem. -/
def fail {α : Type} (problem : Problem) (span : Span) : Meaning α := throw ⟨problem, span⟩

/-- A set with what is equal up to case, if case does not count. -/
def folded (set : CharSet) : Meaning CharSet := do
  let flags ← get
  if flags.caseInsensitive then
    return .caseless (if flags.unicode then .allScripts else .ascii) set
  else return set

/-- The complement of a set, if it is asked for.  The complement of a class of
octets has octets beyond ASCII. -/
def negatedIf (negated : Bool) (span : Span) (set : CharSet) : Meaning CharSet := do
  if negated && !(← get).unicode then fail .invalidText span
  return set.negatedIf negated

/-- A class of its own between others: case is folded before the complement is
taken. -/
def foldedAndNegated (negated : Bool) (span : Span) (set : CharSet) : Meaning CharSet := do
  negatedIf negated span (← folded set)

end Meaning

open Meaning

/-! ## Single characters and classes -/

/-- The character that a literal stands for. -/
def Literal.scalar (literal : Literal) : Meaning Char := do
  if literal.fromByte && literal.char.toNat > 0x7F && !(← get).unicode then
    fail .invalidText literal.span
  return literal.char

/-- The character that a literal stands for inside a class. -/
def Literal.member (literal : Literal) : Meaning Char := do
  let char ← literal.scalar
  if char.toNat > 0x7F && !(← get).unicode then fail .unicodeNotAllowed literal.span
  return char

/-- The characters of a class with a short name, in ASCII or in all scripts. -/
def ShorthandKind.charSet : ShorthandKind → Bool → CharSet
  | .digit, true => .codes Unicode.decimalDigits
  | .space, true => .codes Unicode.whiteSpace
  | .word, true => allWords
  | .digit, false => .ofRanges [(0x30, 0x39)]
  | .space, false => .ofRanges [(0x09, 0x0D), (0x20, 0x20)]
  | .word, false => asciiWords

/-- The characters of a class with a short name. -/
def ShorthandClass.charSet (cls : ShorthandClass) : Meaning CharSet := do
  negatedIf cls.negated cls.span (cls.kind.charSet (← get).unicode)

/-- The characters that a query asks for. -/
def PropertyQuery.charactersOf : PropertyQuery → Except Unicode.QueryError Unicode.CodeSet
  | .name text => Unicode.charactersOf text
  | .value property text => Unicode.charactersWith property text

/-- The characters of a property class. -/
def PropertyClass.charSet (cls : PropertyClass) : Meaning CharSet := do
  if !(← get).unicode then fail .unicodeNotAllowed cls.span
  match cls.query.charactersOf with
  | .error .unknownProperty => fail .propertyUnknown cls.span
  | .error .unknownValue => fail .propertyValueUnknown cls.span
  | .ok set => foldedAndNegated cls.negated cls.span (.codes set)

mutual

/-- The characters of an item of a class. -/
def ClassItem.charSet : ClassItem → Meaning CharSet
  | .empty _ => return .none
  | .literal char => return .singleton (← char.member)
  | .range _ first last => do
      let first ← first.member
      let last ← last.member
      return .ofRanges [(first.toNat, last.toNat)]
  | .named span ranges negated => foldedAndNegated negated span (.ofRanges ranges)
  | .property cls => cls.charSet
  | .shorthand cls => cls.charSet
  | .bracketed span negated item => do foldedAndNegated negated span (← item.charSet)
  | .union _ items => return .unions (← ClassItem.charSets items)
  | .combined _ operator left right => do
      let left ← left.charSet
      let right ← right.charSet
      return .combined operator (← folded left) (← folded right)

/-- The characters of several items. -/
def ClassItem.charSets : List ClassItem → Meaning (List CharSet)
  | [] => return []
  | item :: items => return (← item.charSet) :: (← ClassItem.charSets items)

end

/-! ## Assertions -/

/-- What an assertion means under flags. -/
def Assertion.look (flags : Flags) : Assertion → Look
  | .startLine =>
      if !flags.multiLine then .textStart else if flags.crlf then .anyLineStart else .lineStart
  | .endLine =>
      if !flags.multiLine then .textEnd else if flags.crlf then .anyLineEnd else .lineEnd
  | .startText => .textStart
  | .endText => .textEnd
  | .wordBoundary => .boundary .either words
  | .notWordBoundary => .boundary .neither words
  | .wordStart => .boundary .start words
  | .wordEnd => .boundary .stop words
  | .wordStartHalf => .boundary .startHalf words
  | .wordEndHalf => .boundary .stopHalf words
where
  words := if flags.unicode then allWords else asciiWords

/-! ## Whole patterns -/

/-- The characters that a dot matches. -/
def dotCharSet (flags : Flags) : CharSet :=
  .complement (.ofRanges
    (if flags.dotMatchesNewLine then []
      else if flags.crlf then [(0x0A, 0x0A), (0x0D, 0x0D)]
      else [(0x0A, 0x0A)]))

mutual

/-- What a part of a pattern means. -/
def Ast.meaning : Ast → Meaning Pattern
  | .empty _ => return .empty
  | .flags _ items => do
      modify (·.obeying items)
      return .empty
  | .literal char => return .chars (← folded (.singleton (← char.scalar)))
  | .dot span => do
      let flags ← get
      if !flags.unicode then fail .invalidText span
      return .chars (dotCharSet flags)
  | .assertion _ kind => return .look (kind.look (← get))
  | .property cls => return .chars (← cls.charSet)
  | .shorthand cls => return .chars (← cls.charSet)
  | .bracketed span negated item =>
      return .chars (← foldedAndNegated negated span (← item.charSet))
  | .repetition _ least most inner => return .repeated (← inner.meaning) least most
  | .group _ items inner => do
      let flags ← get
      set (flags.obeying items)
      let pattern ← inner.meaning
      set flags
      return pattern
  | .alternation _ branches => return .choice (← Ast.meanings branches)
  | .concatenation _ parts => return .concat (← Ast.meanings parts)

/-- What several parts mean, one behind the other. -/
def Ast.meanings : List Ast → Meaning (List Pattern)
  | [] => return []
  | part :: parts => return (← part.meaning) :: (← Ast.meanings parts)

end

end MtaCheck.Regex
