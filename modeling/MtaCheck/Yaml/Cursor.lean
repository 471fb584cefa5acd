import MtaCheck.Yaml.Source

/-!
# Reading characters in order

A `Cursor` stands between two characters of a text and knows the place where it
stands.  `Scan` is reading with a cursor: an action looks at the characters
ahead, moves on, and may stop with a syntax error.

An action that needs `n` characters ahead says so by `require n`.  Where the text
is sound this changes nothing; where a failure stands behind the readable
characters, it is met as soon as somebody needs a character beyond them.
-/

namespace MtaCheck.Yaml

/-- A place inside a text, with the characters ahead. -/
structure Cursor where
  rest : List Char
  mark : Mark
  /-- The error that stands behind the last character. -/
  failure : Option SyntaxError
  /-- A bound on the number of steps of any loop over the characters ahead. -/
  bound : Nat

/-- Reading with a cursor. -/
abbrev Scan := StateT Cursor (Except SyntaxError)

/-- The cursor at the beginning of a text. -/
def Cursor.ofSource (source : Source) : Cursor :=
  ⟨source.characters, .start, source.failure, source.characters.length + 1⟩

/-! ## Classes of characters -/

/-- Characters of names: letters and digits of ASCII, `_` and `-`. -/
def isWordChar (char : Char) : Bool := char.isAlphanum || char == '_' || char == '-'

/-- Spaces and tabs. -/
def isBlank (char : Char) : Bool := char == ' ' || char == '\t'

/-- Characters that end a line: carriage return, line feed, next line, line
separator and paragraph separator. -/
def isBreak (char : Char) : Bool :=
  char == '\n' || char == '\r' || char == '\u0085' || char == '\u2028' || char == '\u2029'

/-- Whether there is no character or a line break. -/
def isBreakOrEnd (ahead : Option Char) : Bool := ahead.all isBreak

/-- Whether there is no character, a line break, a space or a tab. -/
def isBlankOrEnd (ahead : Option Char) : Bool :=
  ahead.all fun char => isBlank char || isBreak char

/-- The value of a hexadecimal digit. -/
def hexValue? (char : Char) : Option Nat :=
  if '0' ≤ char && char ≤ '9' then some (char.toNat - '0'.toNat)
  else if 'a' ≤ char && char ≤ 'f' then some (char.toNat - 'a'.toNat + 10)
  else if 'A' ≤ char && char ≤ 'F' then some (char.toNat - 'A'.toNat + 10)
  else none

namespace Scan

/-! ## Looking ahead -/

/-- Where the cursor stands. -/
def mark : Scan Mark := do return (← get).mark

/-- The bound for loops over the characters ahead. -/
def bound : Scan Nat := do return (← get).bound

/-- Insists on `count` characters, or a sound end of the text before that. -/
def require (count : Nat) : Scan Unit := do
  let cursor ← get
  match cursor.failure with
  | none => pure ()
  | some error => if (cursor.rest.drop (count - 1)).isEmpty then throw error else pure ()

/-- The character `offset` places ahead, none at the end. -/
def peekAt (offset : Nat) : Scan (Option Char) := do return (← get).rest[offset]?

/-- The next character, none at the end. -/
def peek : Scan (Option Char) := do return (← get).rest.head?

/-- Whether the next character is `char`. -/
def startsWith (char : Char) : Scan Bool := do return (← peek) == some char

/-! ## Moving on -/

/-- Passes `count` characters of the same line. -/
def advance (count : Nat) : Scan Unit :=
  modify fun cursor =>
    { cursor with
      rest := cursor.rest.drop count
      mark := cursor.mark.behind (cursor.rest.take count) }

/-- Passes a line break, if there is one, and gives its text: the two kinds of
separators stand for themselves, every other break for a line feed. -/
def lineBreak : Scan (List Char) := do
  let cursor ← get
  match cursor.rest with
  | '\r' :: '\n' :: rest =>
      set { cursor with rest := rest, mark := cursor.mark.nextLine 2 }
      return ['\n']
  | char :: rest =>
      if isBreak char then
        set { cursor with rest := rest, mark := cursor.mark.nextLine char.utf8Size }
        return [if char == '\u2028' || char == '\u2029' then char else '\n']
      else return []
  | [] => return []

/-- Passes the longest run of characters in a class that contains no line
break, and gives the run. -/
def runOf (accept : Char → Bool) : Scan (List Char) := do
  require 1
  let run := (← get).rest.takeWhile accept
  advance run.length
  require 1
  return run

/-- Passes spaces and tabs. -/
def skipBlanks : Scan Unit := do
  let _ ← runOf isBlank

/-- Passes everything up to the end of the line, if it is a comment. -/
def skipComment : Scan Unit := do
  if ← startsWith '#' then
    let _ ← runOf (!isBreak ·)

/-! ## Stopping -/

/-- Stops with a problem here, inside a construct that began at `began`. -/
def fail {α : Type} (activity : Activity) (began : Mark) (problem : GrammarProblem) : Scan α := do
  throw (.within activity began problem (← mark))

end Scan

end MtaCheck.Yaml
