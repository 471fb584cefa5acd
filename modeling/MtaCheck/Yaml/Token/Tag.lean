import MtaCheck.Yaml.Cursor
import MtaCheck.Yaml.Token

/-!
# Names and tags

The tokens that stand in front of a value: anchors, references to anchors, and
tags.  A tag is a handle and a suffix, and its suffix may spell octets by
hexadecimal escapes, which must come in groups of the shape of UTF-8 sequences.
-/

namespace MtaCheck.Yaml.Scan

/-! ## Anchors and references -/

/-- Whether an anchor's name may be followed by `ahead`. -/
def endsAnchor (ahead : Option Char) : Bool :=
  isBlankOrEnd ahead || ahead.any (['?', ':', ',', ']', '\x7d', '%', '@', '\x60'].contains ·)

/-- The name behind `&` or `*`. -/
def anchorName (activity : Activity) : Scan String := do
  let began ← mark
  advance 1
  let name ← runOf isWordChar
  if name.isEmpty || !endsAnchor (← peek) then
    fail activity began .badAnchorName
  return String.ofList name

/-! ## The parts of a tag -/

/-- The octets of a character. -/
def octetsOf (char : Char) : TagOctets := (String.singleton char).toUTF8.data.toList

/-- Whether a handle stands alone between two exclamation marks, or is the pair
of them. -/
def isNamedHandle (handle : List Char) : Bool :=
  handle.length > 1 && handle.getLast? == some '!'

/-- A handle: an exclamation mark, and possibly a name and another one. -/
def tagHandle (inDirective : Bool) (began : Mark) : Scan (List Char) := do
  require 1
  unless ← startsWith '!' do
    fail (if inDirective then .tagDirectiveHandle else .tag) began .missingTagBang
  advance 1
  let name ← runOf isWordChar
  if ← startsWith '!' then
    advance 1
    return '!' :: name ++ ['!']
  else if inDirective && !name.isEmpty then
    fail .tagDirectiveName began .missingTagBang
  else
    return '!' :: name

/-- The octets of one escaped character: the first of them says how many there
are.  `missing` counts those still to come, none before the first. -/
def uriEscapes (activity : Activity) (began : Mark) :
    Nat → Option Nat → TagOctets → Scan TagOctets
  | 0, _, octets => return octets
  | steps + 1, missing, octets => do
      require 3
      let high := (← peekAt 1).bind hexValue?
      let low := (← peekAt 2).bind hexValue?
      match ← startsWith '%', high, low with
      | true, some high, some low =>
          let octet := high * 16 + low
          let missing ← match missing with
            | none =>
                if announcedWidth octet == 0 then fail activity began .badUriLeadingOctet
                else pure (announcedWidth octet - 1)
            | some count =>
                if octet / 0x40 == 2 then pure (count - 1)
                else fail activity began .badUriTrailingOctet
          advance 3
          let octets := octets ++ [octet.toUInt8]
          if missing == 0 then return octets
          else uriEscapes activity began steps (some missing) octets
      | _, _, _ => fail activity began .badUriEscape

/-- Characters that may stand in a tag; the flow indicators only inside a
verbatim tag or the expansion of a handle. -/
def isUriChar (withFlowIndicators : Bool) (char : Char) : Bool :=
  isWordChar char
    || ";/?:@&=+$.%!~*'()".toList.contains char
    || (withFlowIndicators && ",[]".toList.contains char)

/-- The longest run of tag characters, behind the octets read before it. -/
def uriRun (activity : Activity) (began : Mark) (withFlowIndicators : Bool) :
    Nat → TagOctets → Scan TagOctets
  | 0, octets => return octets
  | steps + 1, octets => do
      require 1
      match ← peek with
      | none => return octets
      | some char =>
          if char == '%' then
            let escaped ← uriEscapes activity began 4 none []
            uriRun activity began withFlowIndicators steps (octets ++ escaped)
          else if isUriChar withFlowIndicators char then
            advance 1
            uriRun activity began withFlowIndicators steps (octets ++ octetsOf char)
          else return octets

/-- The rest of a tag behind `head`, whose exclamation mark is no part of it.
Without a head there must be something.  An octet zero ends a tag. -/
def tagUri (withFlowIndicators inDirective : Bool) (head : List Char) (began : Mark) :
    Scan TagOctets := do
  let activity := if inDirective then .tagDirectiveUri else .tagUri
  let start ← mark
  let octets ← uriRun activity began withFlowIndicators (← bound) (head.tail.flatMap octetsOf)
  if head.isEmpty && (← mark) == start then
    fail activity began .missingTagUri
  return octets.takeWhile (· != 0)

/-! ## The whole tag -/

/-- A tag: verbatim between angle brackets, behind a named handle, or behind a
single exclamation mark.  An exclamation mark alone is a tag of its own, without
a handle.  In a flow collection a comma may follow directly. -/
def tagToken (inFlow : Bool) : Scan TokenKind := do
  let began ← mark
  require 2
  let kind ←
    if (← peekAt 1) == some '<' then do
      advance 2
      let suffix ← tagUri true false [] began
      unless ← startsWith '>' do
        fail .tag began .unclosedVerbatimTag
      advance 1
      pure (TokenKind.tag "" suffix)
    else do
      let handle ← tagHandle false began
      if isNamedHandle handle then
        pure (TokenKind.tag (String.ofList handle) (← tagUri false false [] began))
      else
        let suffix ← tagUri false false handle began
        pure (if suffix.isEmpty then TokenKind.tag "" (octetsOf '!') else .tag "!" suffix)
  require 1
  let ahead ← peek
  unless isBlankOrEnd ahead || (ahead == some ',' && inFlow) do
    fail .tag began .missingWhitespaceOrBreak
  return kind

end MtaCheck.Yaml.Scan
