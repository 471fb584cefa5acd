import MtaCheck.Regex.Brackets

/-!
# Groups, branches and repetitions

A pattern is a choice of branches, a branch is a row of parts, and a part may be a
group, which holds a choice of its own.  Groups may carry a name or flags, and
flags may also stand for themselves: then they hold to the end of the group around
them.
-/

namespace MtaCheck.Regex

/-! ## Branches in work -/

/-- The branches in work on one level of a pattern. -/
structure Branches where
  start : Position
  /-- The branches that are complete, the last one first. -/
  complete : List Ast
  branchStart : Position
  /-- The parts of the branch in work, the last one first. -/
  parts : List Ast

namespace Branches

/-- No branch, from a place on. -/
def startingAt (position : Position) : Branches := ⟨position, [], position, []⟩

/-- Adds a part to the branch in work. -/
def add (branches : Branches) (part : Ast) : Branches :=
  { branches with parts := part :: branches.parts }

/-- The branch in work, up to a place. -/
def branch (branches : Branches) (stop : Position) : Ast :=
  match branches.parts with
  | [] => .empty ⟨branches.branchStart, stop⟩
  | [part] => part
  | parts => .concatenation ⟨branches.branchStart, stop⟩ parts.reverse

/-- Completes the branch in work before a bar, and begins another one behind
it. -/
def split (branches : Branches) (stop next : Position) : Branches :=
  { branches with
    complete := branches.branch stop :: branches.complete
    branchStart := next
    parts := [] }

/-- The choice of all branches, up to a place. -/
def toAst (branches : Branches) (stop : Position) : Ast :=
  match branches.complete with
  | [] => branches.branch stop
  | complete => .alternation ⟨branches.start, stop⟩ (branches.branch stop :: complete).reverse

end Branches

/-- A group whose closing parenthesis has not been met, with the branches around
it. -/
structure OpenGroup where
  opening : Span
  flags : List FlagItem
  /-- Whether white space is ignored behind the group. -/
  ignoresBlanks : Bool
  around : Branches

/-- What an opening parenthesis begins. -/
inductive Opening
  | group (flags : List FlagItem)
  | flags (span : Span) (items : List FlagItem)

/-- The flags by their letters. -/
def flag? : Char → Option Flag
  | 'i' => some .caseInsensitive
  | 'm' => some .multiLine
  | 's' => some .dotMatchesNewLine
  | 'U' => some .swapGreed
  | 'u' => some .unicode
  | 'R' => some .crlf
  | 'x' => some .ignoreWhitespace
  | _ => none

/-- Whether a character may stand in the name of a group, as its first one or
elsewhere. -/
def isNameChar (isFirst : Bool) (char : Char) : Bool :=
  let isAlphabetic := (Unicode.binaryProperty "Alphabetic").contains char.toNat
  let isNumeric := (Unicode.categoryOrGroup "Number").contains char.toNat
  char == '_' || isAlphabetic
    || !isFirst && (isNumeric || char == '.' || char == '[' || char == ']')

namespace Reading

/-! ## Names and flags of groups -/

/-- The characters of a name in front of a closing angle.  The reader stands
behind the opening one. -/
def nameChars : Nat → Bool → Reading (List Char)
  | 0, _ => return []
  | steps + 1, isFirst => do
      match ← peek with
      | none => return []
      | some char =>
          if char == '>' then return []
          else if isNameChar isFirst char then
            let _ ← advance
            return char :: (← nameChars steps false)
          else fail .groupNameInvalid (← ofNext)

/-- The name of a group up to the closing angle. -/
def groupName : Reading Unit := do
  let start ← position
  let name := String.ofList (← nameChars (← bound) true)
  if ← atEnd then fail .groupNameUnclosed (← here)
  let span ← since start
  let _ ← advance
  if name.isEmpty then fail .groupNameEmpty span
  match (← get).names.lookup name with
  | some earlier => fail (.groupNameDuplicate earlier) span
  | none => modify fun reader => { reader with names := (name, span) :: reader.names }

/-- Flags up to a colon or a closing parenthesis.  The flags so far come with
their places, the last one first. -/
def flagItems : Nat → List (FlagItem × Span) → Reading (List FlagItem)
  | 0, _ => do fail .flagIncomplete (← here)
  | steps + 1, items => do
      match ← peek with
      | none => fail .flagIncomplete (← here)
      | some char =>
          if char == ':' || char == ')' then
            match items with
            | (.negation, span) :: _ => fail .flagDanglingNegation span
            | _ => return (items.map (·.1)).reverse
          else
            let span ← ofNext
            let item ←
              if char == '-' then pure FlagItem.negation
              else match flag? char with
                | some flag => pure (.flag flag)
                | none => fail .flagUnknown span
            match items.lookup item with
            | some earlier =>
                fail (if item == .negation then .flagRepeatedNegation earlier
                  else .flagDuplicate earlier) span
            | none =>
                let _ ← advance
                flagItems steps ((item, span) :: items)

/-- What a parenthesis begins; the reader stands on it. -/
def opening : Reading Opening := do
  let span ← ofNext
  let _ ← advance
  skipBlanks
  let inner ← here
  for sign in ["?=", "?!", "?<=", "?<!"] do
    if ← pass sign then fail .lookAround (← since span.start)
  let isNamed ← if ← pass "?P<" then pure true else pass "?<"
  if isNamed then
    if ← atEnd then fail .groupNameUnclosed (← here)
    groupName
    return .group []
  else if ← pass "?" then
    if ← atEnd then fail .groupUnclosed span
    let flags ← flagItems (← bound) []
    let isGroup ← startsWith ':'
    let _ ← advance
    if isGroup then return .group flags
    else if flags.isEmpty then fail .repetitionMissing inner
    else return .flags (← since span.start) flags
  else return .group []

/-! ## Repetitions -/

/-- The last part of the branch in work, which is to be repeated, and the others.
Neither nothing nor flags can be repeated. -/
def repeatable (branches : Branches) : Reading (Ast × Branches) := do
  match branches.parts with
  | [] => fail .repetitionMissing (← here)
  | .empty _ :: _ => fail .repetitionMissing (← here)
  | .flags _ _ :: _ => fail .repetitionMissing (← here)
  | part :: parts => return (part, { branches with parts })

/-- A repetition by a single sign; the reader stands on the sign. -/
def shortRepetition (least : Nat) (most : Option Nat) (branches : Branches) :
    Reading Branches := do
  let (part, branches) ← repeatable branches
  let _ ← advance
  let _ ← pass "?"
  return branches.add (.repetition (← since part.span.start) least most part)

/-- The numbers of a counted repetition: the least and the greatest.  The reader
stands behind the opening brace, which is at `start`. -/
def counts (start : Position) : Reading (Nat × Option Nat) := do
  let first ← decimal
  if ← atEnd then fail .repetitionUnclosed (← since start)
  if ← startsWith ',' then
    if !(← advanceOver) then fail .repetitionUnclosed (← since start)
    if ← startsWith '\x7d' then return (← ofExcept first, none)
    else
      let least ← ofExcept first
      let most ← ofExcept (← decimal)
      return (least, some most)
  else
    let count ← ofExcept first
    return (count, some count)

/-- A repetition with numbers between braces; the reader stands on the opening
one. -/
def countedRepetition (branches : Branches) : Reading Branches := do
  let start ← position
  let (part, branches) ← repeatable branches
  if !(← advanceOver) then fail .repetitionUnclosed (← since start)
  let (least, most) ← counts start
  if !(← startsWith '\x7d') then fail .repetitionUnclosed (← since start)
  if ← advanceOver then
    let _ ← pass "?"
  if most.any (· < least) then fail .repetitionRange (← since start)
  return branches.add (.repetition (← since part.span.start) least most part)

/-! ## Whole patterns -/

/-- A part that is no group and no repetition. -/
def primitive (char : Char) : Reading Ast := do
  if char == '[' then bracketedClass
  else if char == '\\' then escape
  else
    let span ← ofNext
    let _ ← advance
    return match char with
      | '.' => .dot span
      | '^' => .assertion span .startLine
      | '$' => .assertion span .endLine
      | _ => .literal ⟨span, char, false⟩

/-- Switches the ignoring of white space as flags say. -/
def obey (flags : List FlagItem) : Reading Unit :=
  modify fun reader =>
    { reader with
      ignoresBlanks := (flagState .ignoreWhitespace flags true).getD reader.ignoresBlanks }

/-- The rest of a pattern, given the branches in work and the groups around
them. -/
def patternFrom : Nat → Branches → List OpenGroup → Reading Ast
  | 0, branches, _ => return branches.toAst (← position)
  | steps + 1, branches, groups => do
      skipBlanks
      match ← peek with
      | none =>
          match groups with
          | [] => return branches.toAst (← position)
          | group :: _ => fail .groupUnclosed group.opening
      | some '(' =>
          let parenthesis ← ofNext
          match ← opening with
          | .flags span items =>
              obey items
              patternFrom steps (branches.add (.flags span items)) groups
          | .group flags =>
              let group : OpenGroup :=
                ⟨parenthesis, flags, (← get).ignoresBlanks, branches⟩
              obey flags
              patternFrom steps (.startingAt (← position)) (group :: groups)
      | some ')' =>
          match groups with
          | [] => fail .groupUnopened (← ofNext)
          | group :: groups =>
              let inner := branches.toAst (← position)
              modify fun reader => { reader with ignoresBlanks := group.ignoresBlanks }
              let _ ← advance
              let span ← since group.opening.start
              patternFrom steps (group.around.add (.group span group.flags inner)) groups
      | some '|' =>
          let stop ← position
          let _ ← advance
          patternFrom steps (branches.split stop (← position)) groups
      | some '?' => patternFrom steps (← shortRepetition 0 (some 1) branches) groups
      | some '*' => patternFrom steps (← shortRepetition 0 none branches) groups
      | some '+' => patternFrom steps (← shortRepetition 1 none branches) groups
      | some '\x7b' => patternFrom steps (← countedRepetition branches) groups
      | some char => patternFrom steps (branches.add (← primitive char)) groups

end Reading

/-- Reads a pattern. -/
def Ast.ofPattern (pattern : String) : Except PatternError Ast := do
  let reading := do Reading.patternFrom (← Reading.bound) (.startingAt .start) []
  let ast ← reading.run' (.ofPattern pattern)
  match ast.tooDeep? nestLimit with
  | some span => throw ⟨.nesting nestLimit, span⟩
  | none => return ast

end MtaCheck.Regex
