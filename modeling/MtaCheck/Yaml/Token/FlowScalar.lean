import MtaCheck.Yaml.Token.BlockScalar

/-!
# Quoted and plain scalars

Both kinds may run over several lines.  Blanks around a line break are dropped
and the break is folded: it becomes a space, or the breaks of the empty lines
that follow it.  A double-quoted scalar also knows escapes, one of which hides a
line break altogether.
-/

namespace MtaCheck.Yaml.Scan

/-! ## Between words -/

/-- What stands between two words: blanks on one line, or line breaks, of which
the first is told apart from the others. -/
inductive Gap
  | blanks (text : List Char)
  | breaks (first more : List Char)

/-- Whether a line break belongs to the gap. -/
def Gap.isBroken : Gap → Bool
  | .blanks _ => false
  | .breaks _ _ => true

/-- The text that a gap stands for. -/
def Gap.text : Gap → List Char
  | .blanks text => text
  | .breaks first more => foldedBreak first more

/-- Passes blanks and line breaks.  `refuse` is asked before each blank behind a
line break and may stop the scan. -/
def gapFrom (refuse : Char → Scan Unit) : Nat → Gap → Scan Gap
  | 0, gap => return gap
  | steps + 1, gap => do
      require 1
      match ← peek with
      | none => return gap
      | some char =>
          if isBlank char then
            match gap with
            | .blanks text =>
                advance 1
                gapFrom refuse steps (.blanks (text ++ [char]))
            | .breaks first more =>
                refuse char
                advance 1
                gapFrom refuse steps (.breaks first more)
          else if isBreak char then
            require 2
            let text ← lineBreak
            match gap with
            | .blanks _ => gapFrom refuse steps (.breaks text [])
            | .breaks first more => gapFrom refuse steps (.breaks first (more ++ text))
          else return gap

/-- Whether a document indicator comes next: three hyphens or three dots at the
beginning of a line, with nothing directly behind them. -/
def atDocumentIndicator : Scan Bool := do
  let cursor ← get
  let indicator := cursor.rest.take 3
  return cursor.mark.column == 0
    && (indicator == ['-', '-', '-'] || indicator == ['.', '.', '.'])
    && isBlankOrEnd cursor.rest[3]?

/-! ## Quoted scalars -/

/-- What the character behind a backslash means. -/
inductive EscapeKind
  | character (char : Char)
  | code (digits : Nat)

/-- The escapes of double-quoted scalars. -/
def escapeKind? : Char → Option EscapeKind
  | '0' => some (.character '\x00')
  | 'a' => some (.character '\x07')
  | 'b' => some (.character '\x08')
  | 't' => some (.character '\t')
  | '\t' => some (.character '\t')
  | 'n' => some (.character '\n')
  | 'v' => some (.character '\x0b')
  | 'f' => some (.character '\x0c')
  | 'r' => some (.character '\r')
  | 'e' => some (.character '\x1b')
  | ' ' => some (.character ' ')
  | '"' => some (.character '"')
  | '/' => some (.character '/')
  | '\\' => some (.character '\\')
  | 'N' => some (.character '\u0085')
  | '_' => some (.character '\u00a0')
  | 'L' => some (.character '\u2028')
  | 'P' => some (.character '\u2029')
  | 'x' => some (.code 2)
  | 'u' => some (.code 4)
  | 'U' => some (.code 8)
  | _ => none

/-- The value of the next `count` hexadecimal digits. -/
def hexDigits (began : Mark) (count : Nat) : Scan Nat := do
  require count
  let digits := (← get).rest.take count
  let values := digits.filterMap hexValue?
  if values.length < count then
    fail .quotedEscape began .badHexadecimal
  return values.foldl (fun value digit => value * 16 + digit) 0

/-- The character that an escape stands for. -/
def escapedCharacter (began : Mark) : Scan Char := do
  match (← peekAt 1).bind escapeKind? with
  | none => fail .quotedEscape began .unknownEscape
  | some (.character char) =>
      advance 2
      return char
  | some (.code count) =>
      advance 2
      let code ← hexDigits began count
      if (0xD800 ≤ code && code ≤ 0xDFFF) || code > 0x10FFFF then
        fail .quotedEscape began .badEscapedCharacter
      advance count
      return Char.ofNat code

/-- A stretch of a quoted scalar without blanks, and whether it ends in an
escaped line break. -/
def quotedWord (single : Bool) (began : Mark) : Nat → List Char → Scan (List Char × Bool)
  | 0, reversed => return (reversed, false)
  | steps + 1, reversed => do
      require 2
      let ahead ← peek
      let next ← peekAt 1
      let quote := if single then '\'' else '"'
      match ahead with
      | none => return (reversed, false)
      | some char =>
          if isBlank char || isBreak char then return (reversed, false)
          else if single && char == quote && next == some quote then
            advance 2
            quotedWord single began steps (quote :: reversed)
          else if char == quote then return (reversed, false)
          else if !single && char == '\\' then
            if next.any isBreak then
              require 3
              advance 1
              let _ ← lineBreak
              return (reversed, true)
            else
              let char ← escapedCharacter began
              quotedWord single began steps (char :: reversed)
          else
            advance 1
            quotedWord single began steps (char :: reversed)

/-- The words of a quoted scalar and the gaps between them, newest first. -/
def quotedText (single : Bool) (began : Mark) : Nat → List Char → Scan (List Char)
  | 0, reversed => return reversed
  | steps + 1, reversed => do
      require 4
      if ← atDocumentIndicator then
        fail .quotedScalar began .documentIndicatorInScalar
      if (← peek).isNone then
        fail .quotedScalar began .unclosedScalar
      let (reversed, hidesBreak) ← quotedWord single began (← bound) reversed
      require 1
      if ← startsWith (if single then '\'' else '"') then return reversed
      let gap ← gapFrom (fun _ => pure ()) (← bound)
        (if hidesBreak then .breaks [] [] else .blanks [])
      quotedText single began steps (gap.text.reverse ++ reversed)

/-- A quoted scalar with its quotes. -/
def quotedScalarToken (single : Bool) : Scan Token := do
  let began ← mark
  advance 1
  let reversed ← quotedText single began (← bound) []
  advance 1
  let style := if single then .singleQuoted else .doubleQuoted
  return ⟨.scalar (String.ofList reversed.reverse) style, began, ← mark⟩

/-! ## Plain scalars -/

/-- A stretch of a plain scalar without blanks.  In a flow collection it also
ends at a flow indicator, and a colon must not stand before one. -/
def plainWord (inFlow : Bool) (began : Mark) : Nat → List Char → Scan (List Char)
  | 0, reversed => return reversed
  | steps + 1, reversed => do
      require 2
      let next ← peekAt 1
      match ← peek with
      | none => return reversed
      | some char =>
          if isBlank char || isBreak char then return reversed
          else
            if inFlow && char == ':' && next.any (",?[]\x7b\x7d".toList.contains ·) then
              fail .plainScalar began .unexpectedColon
            if (char == ':' && isBlankOrEnd next)
                || (inFlow && ",[]\x7b\x7d".toList.contains char) then
              return reversed
            else
              advance 1
              plainWord inFlow began steps (char :: reversed)

/-- A plain scalar being read: its text, newest character first, where the text
ends, and the gap behind it. -/
structure PlainText where
  reversed : List Char
  stop : Mark
  gap : Gap

/-- The words of a plain scalar and the gaps between them.  A scalar that is not
in a flow collection ends where a line is not indented to `depth`. -/
def plainText (inFlow : Bool) (depth : Nat) (began : Mark) : Nat → PlainText → Scan PlainText
  | 0, plain => return plain
  | steps + 1, plain => do
      require 4
      if (← atDocumentIndicator) || (← startsWith '#') then return plain
      let before ← mark
      let word ← plainWord inFlow began (← bound) []
      let after ← mark
      let plain :=
        if before == after then plain
        else ⟨word ++ plain.gap.text.reverse ++ plain.reversed, after, .blanks []⟩
      require 1
      if !(← peek).any (fun char => isBlank char || isBreak char) then return plain
      let gap ← gapFrom
        (fun char => do
          if char == '\t' && (← mark).column < depth then
            fail .plainScalar began .tabInIndentation)
        (← bound) plain.gap
      let plain := { plain with gap := gap }
      if !inFlow && (← mark).column < depth then return plain
      plainText inFlow depth began steps plain

/-- A plain scalar, and whether a line break comes behind it. -/
def plainScalarToken (inFlow : Bool) (indent : Option Nat) : Scan (Token × Bool) := do
  let began ← mark
  let plain ← plainText inFlow (indent.elim 0 (· + 1)) began (← bound) ⟨[], began, .blanks []⟩
  return (⟨.scalar (String.ofList plain.reversed.reverse) .plain, began, plain.stop⟩,
    plain.gap.isBroken)

end MtaCheck.Yaml.Scan
