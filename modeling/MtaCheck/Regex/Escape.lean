import MtaCheck.Regex.Reading

/-!
# Escapes

A backslash takes the special meaning from a sign and gives one to a letter: a
character by its code, a class, or an assertion.
-/

namespace MtaCheck.Regex.Reading

/-! ## Characters by code -/

/-- The number of digits behind a letter that announces a code. -/
def digitCount (letter : Char) : Nat :=
  if letter == 'x' then 2 else if letter == 'u' then 4 else 8

/-- Exactly `count` hexadecimal digits; the reader stands on the first of them,
and in the end on the last of them. -/
def fixedDigits : Nat → Bool → Reading (List Nat)
  | 0, _ => return []
  | count + 1, behindOther => do
      if behindOther then
        if !(← advanceOver) then fail .escapeIncomplete (← here)
      match (← peek).bind hexDigit? with
      | none => fail .hexDigit (← ofNext)
      | some digit => return digit :: (← fixedDigits count true)

/-- The hexadecimal digits in front of a closing brace; the reader stands in
front of the character before the first of them. -/
def bracedDigits : Nat → Reading (List Nat)
  | 0 => return []
  | steps + 1 => do
      if !(← advanceOver) then return []
      match ← peek with
      | none => return []
      | some char =>
          if char == '\x7d' then return []
          else match hexDigit? char with
            | none => fail .hexDigit (← ofNext)
            | some digit => return digit :: (← bracedDigits steps)

/-- A character by its code, without the backslash. -/
def codeLiteral (letter : Char) : Reading Literal := do
  if !(← advanceOver) then fail .escapeIncomplete (← here)
  if ← startsWith '\x7b' then
    let brace ← position
    let start := (← ofNext).stop
    let digits ← bracedDigits (← bound)
    if ← atEnd then fail .escapeIncomplete (← since brace)
    let inner ← since start
    let _ ← advanceOver
    if digits.isEmpty then fail .hexEmpty (← since brace)
    match ofHexDigits? digits with
    | none => fail .hexInvalid inner
    | some char => return ⟨← since start, char, false⟩
  else
    let start ← position
    let digits ← fixedDigits (digitCount letter) false
    let _ ← advanceOver
    let span ← since start
    match ofHexDigits? digits with
    | none => fail .hexInvalid span
    | some char => return ⟨span, char, letter == 'x'⟩

/-! ## Classes -/

/-- What stands before and behind the first occurrence of a text. -/
def cutAt? (separator : List Char) : List Char → Option (List Char × List Char)
  | [] => none
  | char :: rest =>
      if separator.isPrefixOf (char :: rest) then some ([], (char :: rest).drop separator.length)
      else (cutAt? separator rest).map fun (before, behind) => (char :: before, behind)

/-- What the text between the braces of a property class asks for, and whether it
asks for the opposite. -/
def queryOf (text : List Char) : PropertyQuery × Bool :=
  match cutAt? ['!', '='] text with
  | some (name, value) => (.value (.ofList name) (.ofList value), true)
  | none =>
      match (cutAt? [':'] text).or (cutAt? ['='] text) with
      | some (name, value) => (.value (.ofList name) (.ofList value), false)
      | none => (.name (.ofList text), false)

/-- The text in front of a closing brace; the reader stands in front of the
character before the first of it. -/
def bracedText : Nat → Reading (List Char)
  | 0 => return []
  | steps + 1 => do
      if !(← advanceOver) then return []
      match ← peek with
      | none => return []
      | some char => if char == '\x7d' then return [] else return char :: (← bracedText steps)

/-- A class by a property, which begins at `start`; a capital letter negates
it.  Any property may be asked for: which of them are known is found out with the
meaning of the class, where `age`, `gcb`, `sb` and `wb` have no values. -/
def propertyClass (start : Position) (negated : Bool) : Reading PropertyClass := do
  if !(← advanceOver) then fail .escapeIncomplete (← here)
  match ← peek with
  | none => fail .escapeIncomplete (← here)
  | some '\x7b' =>
      let text ← bracedText (← bound)
      if ← atEnd then fail .escapeIncomplete (← here)
      let _ ← advance
      let (query, opposite) := queryOf text
      return ⟨← since start, query, negated != opposite⟩
  | some char =>
      if char == '\\' then fail .propertySyntax (← ofNext)
      let _ ← advanceOver
      return ⟨← since start, .name (.ofList [char]), negated⟩

/-- The class that a letter stands for behind a backslash. -/
def shorthandKind? : Char → Option (ShorthandKind × Bool)
  | 'd' => some (.digit, false)
  | 's' => some (.space, false)
  | 'w' => some (.word, false)
  | 'D' => some (.digit, true)
  | 'S' => some (.space, true)
  | 'W' => some (.word, true)
  | _ => none

/-! ## Assertions -/

/-- The special boundaries of words by name. -/
def boundary? (name : List Char) : Option Assertion :=
  [("start", .wordStart), ("end", .wordEnd), ("start-half", .wordStartHalf),
    ("end-half", .wordEndHalf)].lookup (String.ofList name)

/-- Characters in the names of special boundaries. -/
def isBoundaryChar (char : Char) : Bool := char.isAlpha || char == '-'

/-- A boundary of words, whose letter has been passed.  A brace behind it holds
the name of a special boundary, unless what it begins with cannot be a name: then
it is left for a repetition. -/
def wordBoundary (start : Position) : Reading Ast := do
  let span ← since start
  if !(← startsWith '\x7b') then return .assertion span .wordBoundary
  let atBrace ← get
  if !(← advanceOver) then fail .boundaryIncomplete (← since start)
  if !(← peek).any isBoundaryChar then
    set atBrace
    return .assertion span .wordBoundary
  let nameStart ← position
  let name ← runOf isBoundaryChar (← bound)
  if !(← startsWith '\x7d') then fail .boundaryUnclosed (← since atBrace.position)
  let nameSpan ← since nameStart
  let _ ← advance
  match boundary? name with
  | none => fail .boundaryUnknown nameSpan
  | some kind => return .assertion (← since start) kind

/-! ## All escapes -/

/-- Signs that stand for themselves behind a backslash: all of ASCII but letters,
digits and the two angles. -/
def isEscapable (char : Char) : Bool :=
  char.toNat < 0x80 && !char.isAlphanum && char != '<' && char != '>'

/-- Letters that stand for a single character behind a backslash. -/
def namedChar? : Char → Option Char
  | 'a' => some '\x07'
  | 'f' => some '\x0c'
  | 't' => some '\t'
  | 'n' => some '\n'
  | 'r' => some '\r'
  | 'v' => some '\x0b'
  | _ => none

/-- Characters that stand for an assertion behind a backslash. -/
def assertion? : Char → Option Assertion
  | 'A' => some .startText
  | 'z' => some .endText
  | 'B' => some .notWordBoundary
  | '<' => some .wordStart
  | '>' => some .wordEnd
  | _ => none

/-- An escape; the reader stands on the backslash. -/
def escape : Reading Ast := do
  let start ← position
  let _ ← advance
  match ← peek with
  | none => fail .escapeIncomplete (← since start)
  | some char =>
      if char.isDigit then fail .backreference ⟨start, (← ofNext).stop⟩
      else if char == 'x' || char == 'u' || char == 'U' then
        let literal ← codeLiteral char
        return .literal { literal with span := ⟨start, literal.span.stop⟩ }
      else if char == 'p' || char == 'P' then
        return .property (← propertyClass start (char == 'P'))
      else
        let _ ← advance
        let span ← since start
        if let some (kind, negated) := shorthandKind? char then return .shorthand ⟨span, kind, negated⟩
        else if isEscapable char then return .literal ⟨span, char, false⟩
        else if let some named := namedChar? char then return .literal ⟨span, named, false⟩
        else if let some kind := assertion? char then return .assertion span kind
        else if char == 'b' then wordBoundary start
        else fail .escapeUnknown span

end MtaCheck.Regex.Reading
