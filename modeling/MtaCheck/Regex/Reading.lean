import MtaCheck.Regex.Ast
import MtaCheck.Unicode.Property

/-!
# Reading the characters of a pattern

Reading a pattern moves from left to right and knows the place where it stands.
While white space is ignored, so are comments, which run from a number sign to the
end of the line.
-/

namespace MtaCheck.Regex

/-- How far a pattern has been read. -/
structure Reader where
  rest : List Char
  position : Position
  /-- Whether white space and comments are ignored. -/
  ignoresBlanks : Bool
  /-- The names of groups so far, with their places. -/
  names : List (String × Span)

/-- Reading a pattern, which stops at the first problem. -/
abbrev Reading := StateT Reader (Except PatternError)

/-- The reader in front of a pattern. -/
def Reader.ofPattern (pattern : String) : Reader := ⟨pattern.toList, .start, false, []⟩

/-- Whether a character is white space. -/
def isWhiteSpace (char : Char) : Bool := Unicode.whiteSpace.contains char.toNat

namespace Reading

/-! ## Looking ahead -/

/-- The place of the reader. -/
def position : Reading Position := do return (← get).position

/-- The next character. -/
def peek : Reading (Option Char) := do return (← get).rest.head?

/-- Whether the next character is `char`. -/
def startsWith (char : Char) : Reading Bool := do return (← peek) == some char

/-- Whether the pattern is over. -/
def atEnd : Reading Bool := do return (← get).rest.isEmpty

/-- A bound on the steps of a loop in which every step passes a character. -/
def bound : Reading Nat := do return (← get).rest.length + 1

/-- The part between a place and the reader. -/
def since (start : Position) : Reading Span := do return ⟨start, ← position⟩

/-- The empty part in front of the next character. -/
def here : Reading Span := do since (← position)

/-- The part that the next character takes. -/
def ofNext : Reading Span := do
  let reader ← get
  return ⟨reader.position, reader.rest.head?.elim reader.position reader.position.after⟩

/-- Stops with a problem. -/
def fail {α : Type} (problem : Problem) (span : Span) : Reading α := throw ⟨problem, span⟩

/-! ## Moving on -/

/-- Passes a character and says whether another one follows. -/
def advance : Reading Bool :=
  modifyGet fun reader =>
    match reader.rest with
    | [] => (false, reader)
    | char :: rest =>
        (!rest.isEmpty, { reader with rest, position := reader.position.after char })

/-- Passes white space and comments.  The last argument tells whether a comment
has begun. -/
def passBlanks : List Char → Position → Bool → List Char × Position
  | [], position, _ => ([], position)
  | char :: rest, position, inComment =>
      if inComment then passBlanks rest (position.after char) (char != '\n')
      else if isWhiteSpace char then passBlanks rest (position.after char) false
      else if char == '#' then passBlanks rest (position.after char) true
      else (char :: rest, position)

/-- Passes white space and comments, if they are ignored. -/
def skipBlanks : Reading Unit :=
  modify fun reader =>
    if reader.ignoresBlanks then
      let (rest, position) := passBlanks reader.rest reader.position false
      { reader with rest, position }
    else reader

/-- Passes a character and what is ignored behind it, and says whether another
character follows. -/
def advanceOver : Reading Bool := do
  if ← advance then
    skipBlanks
    return !(← atEnd)
  else return false

/-- Passes a text, if it comes next, and says whether it did. -/
def pass (text : String) : Reading Bool := do
  let reader ← get
  if text.toList.isPrefixOf reader.rest then
    set { reader with
      rest := reader.rest.drop text.length
      position := text.toList.foldl Position.after reader.position }
    return true
  else return false

/-- The first character of the rest that is not ignored.  A number sign is passed
once, and only the white space behind it. -/
def firstKept? : List Char → Bool → Option Char
  | [], _ => none
  | char :: rest, inComment =>
      if isWhiteSpace char then firstKept? rest inComment
      else if !inComment && char == '#' then firstKept? rest true
      else some char

/-- The character behind the next one, where blanks between them do not count.  If
nothing but blanks follows, the first of them is taken. -/
def peekBehind : Reading (Option Char) := do
  let reader ← get
  if reader.ignoresBlanks then
    return (firstKept? (reader.rest.drop 1) false).or reader.rest[1]?
  else return reader.rest[1]?

/-- The longest run of characters in a class, together with what is ignored among
and behind them. -/
def runOf (accept : Char → Bool) : Nat → Reading (List Char)
  | 0 => return []
  | steps + 1 => do
      match ← peek with
      | some char =>
          if accept char then
            let _ ← advanceOver
            return char :: (← runOf accept steps)
          else return []
      | none => return []

/-- Passes white space, whether it is ignored or not. -/
def skipWhiteSpace : Nat → Reading Unit
  | 0 => return ()
  | steps + 1 => do
      if (← peek).any isWhiteSpace then
        let _ ← advance
        skipWhiteSpace steps

/-! ## Numbers -/

/-- The largest number of repetitions. -/
def largestCount : Nat := 4294967295

/-- A decimal number with white space around it; or the problem with it, which
the caller may put off. -/
def decimal : Reading (Except PatternError Nat) := do
  skipWhiteSpace (← bound)
  let start ← position
  let digits ← runOf Char.isDigit (← bound)
  let span ← since start
  let _ ← runOf isWhiteSpace (← bound)
  let value := digits.foldl (fun value digit => value * 10 + (digit.toNat - '0'.toNat)) 0
  if digits.isEmpty then return .error ⟨.repetitionDecimal, span⟩
  else if value > largestCount then return .error ⟨.decimalInvalid, span⟩
  else return .ok value

/-- The value of a hexadecimal digit. -/
def hexDigit? (char : Char) : Option Nat :=
  if char.isDigit then some (char.toNat - '0'.toNat)
  else if 'a' ≤ char && char ≤ 'f' then some (char.toNat - 'a'.toNat + 10)
  else if 'A' ≤ char && char ≤ 'F' then some (char.toNat - 'A'.toNat + 10)
  else none

/-- The character with a code, written by hexadecimal digits. -/
def ofHexDigits? (digits : List Nat) : Option Char :=
  let code := digits.foldl (fun value digit => value * 16 + digit) 0
  if h : code.isValidChar then some (Char.ofNatAux code h) else none

end Reading

end MtaCheck.Regex
