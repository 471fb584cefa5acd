import MtaCheck.Regex.Error

/-!
# The parts of a pattern

The parts of a pattern, each with its place.  What the flags make of a part is
left open here: a pattern means something only together with the flags in force
at each place.
-/

namespace MtaCheck.Regex

/-! ## Single characters and classes -/

/-- A character of a pattern.  `fromByte` marks those that are written as a byte,
by two hexadecimal digits. -/
structure Literal where
  span : Span
  char : Char
  fromByte : Bool

/-- The classes with a short name: digits, white space, word characters. -/
inductive ShorthandKind
  | digit
  | space
  | word
deriving DecidableEq

/-- A class with a short name. -/
structure ShorthandClass where
  span : Span
  kind : ShorthandKind
  negated : Bool

/-- What a property class asks for. -/
inductive PropertyQuery
  | name (name : String)
  | value (property value : String)

/-- A class of the characters with a property. -/
structure PropertyClass where
  span : Span
  query : PropertyQuery
  negated : Bool

/-- How two classes are combined. -/
inductive ClassOperator
  | intersection
  | difference
  | symmetricDifference
deriving DecidableEq

/-- What stands between brackets. -/
inductive ClassItem
  | empty (span : Span)
  | literal (literal : Literal)
  | range (span : Span) (first last : Literal)
  | named (span : Span) (ranges : List (Nat × Nat)) (negated : Bool)
  | property (property : PropertyClass)
  | shorthand (shorthand : ShorthandClass)
  | bracketed (span : Span) (negated : Bool) (item : ClassItem)
  | union (span : Span) (items : List ClassItem)
  | combined (span : Span) (operator : ClassOperator) (left right : ClassItem)

/-- The place of an item of a class. -/
def ClassItem.span : ClassItem → Span
  | .empty span => span
  | .literal char => char.span
  | .range span _ _ => span
  | .named span _ _ => span
  | .property cls => cls.span
  | .shorthand cls => cls.span
  | .bracketed span _ _ => span
  | .union span _ => span
  | .combined span _ _ _ => span

/-! ## Flags -/

/-- The flags of a pattern. -/
inductive Flag
  | caseInsensitive
  | multiLine
  | dotMatchesNewLine
  | swapGreed
  | unicode
  | crlf
  | ignoreWhitespace
deriving DecidableEq

/-- A flag among others, or the sign that what follows is switched off. -/
inductive FlagItem
  | flag (flag : Flag)
  | negation
deriving DecidableEq

/-- Whether the items switch a flag on or off. -/
def flagState (flag : Flag) : List FlagItem → Bool → Option Bool
  | [], _ => none
  | .negation :: items, _ => flagState flag items false
  | .flag other :: items, on => if other == flag then some on else flagState flag items on

/-! ## Whole patterns -/

/-- What holds at a place of the text without taking a character. -/
inductive Assertion
  | startLine
  | endLine
  | startText
  | endText
  | wordBoundary
  | notWordBoundary
  | wordStart
  | wordEnd
  | wordStartHalf
  | wordEndHalf
deriving DecidableEq

/-- A part of a pattern. -/
inductive Ast
  | empty (span : Span)
  | flags (span : Span) (items : List FlagItem)
  | literal (literal : Literal)
  | dot (span : Span)
  | assertion (span : Span) (kind : Assertion)
  | property (property : PropertyClass)
  | shorthand (shorthand : ShorthandClass)
  | bracketed (span : Span) (negated : Bool) (item : ClassItem)
  | repetition (span : Span) (least : Nat) (most : Option Nat) (inner : Ast)
  | group (span : Span) (flags : List FlagItem) (inner : Ast)
  | alternation (span : Span) (branches : List Ast)
  | concatenation (span : Span) (parts : List Ast)

/-- The place of a part of a pattern. -/
def Ast.span : Ast → Span
  | .empty span => span
  | .flags span _ => span
  | .literal char => char.span
  | .dot span => span
  | .assertion span _ => span
  | .property cls => cls.span
  | .shorthand cls => cls.span
  | .bracketed span _ _ => span
  | .repetition span _ _ _ => span
  | .group span _ _ => span
  | .alternation span _ => span
  | .concatenation span _ => span

/-! ## Nesting -/

/-- How deep the parts of a pattern may be nested. -/
def nestLimit : Nat := 250

mutual

/-- The first part of a class that is nested deeper than `depth` allows. -/
def ClassItem.tooDeep? : Nat → ClassItem → Option Span
  | depth, .bracketed span _ item => if depth == 0 then some span else item.tooDeep? (depth - 1)
  | depth, .union span items =>
      if depth == 0 then some span else ClassItem.anyTooDeep? (depth - 1) items
  | depth, .combined span _ left right =>
      if depth == 0 then some span
      else (left.tooDeep? (depth - 1)).or (right.tooDeep? (depth - 1))
  | _, _ => none

/-- The first of several parts of a class that is nested too deep. -/
def ClassItem.anyTooDeep? : Nat → List ClassItem → Option Span
  | _, [] => none
  | depth, item :: items => (item.tooDeep? depth).or (ClassItem.anyTooDeep? depth items)

end

mutual

/-- The first part of a pattern that is nested deeper than `depth` allows. -/
def Ast.tooDeep? : Nat → Ast → Option Span
  | depth, .bracketed span _ item => if depth == 0 then some span else item.tooDeep? (depth - 1)
  | depth, .repetition span _ _ inner =>
      if depth == 0 then some span else inner.tooDeep? (depth - 1)
  | depth, .group span _ inner => if depth == 0 then some span else inner.tooDeep? (depth - 1)
  | depth, .alternation span branches =>
      if depth == 0 then some span else Ast.anyTooDeep? (depth - 1) branches
  | depth, .concatenation span parts =>
      if depth == 0 then some span else Ast.anyTooDeep? (depth - 1) parts
  | _, _ => none

/-- The first of several parts of a pattern that is nested too deep. -/
def Ast.anyTooDeep? : Nat → List Ast → Option Span
  | _, [] => none
  | depth, part :: parts => (part.tooDeep? depth).or (Ast.anyTooDeep? depth parts)

end

end MtaCheck.Regex
