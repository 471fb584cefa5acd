import MtaCheck.Regex.Escape

/-!
# Classes between brackets

A class between brackets lists characters, ranges and other classes, and may
combine what it has listed so far with what follows.  Classes between brackets may
stand inside each other, and inside them a few more classes have names.
-/

namespace MtaCheck.Regex

/-! ## Classes with names -/

/-- The classes of ASCII with names, by their code points. -/
def namedClass? (name : List Char) : Option (List (Nat × Nat)) :=
  [("alnum", [(0x30, 0x39), (0x41, 0x5A), (0x61, 0x7A)]),
    ("alpha", [(0x41, 0x5A), (0x61, 0x7A)]),
    ("ascii", [(0x00, 0x7F)]),
    ("blank", [(0x09, 0x09), (0x20, 0x20)]),
    ("cntrl", [(0x00, 0x1F), (0x7F, 0x7F)]),
    ("digit", [(0x30, 0x39)]),
    ("graph", [(0x21, 0x7E)]),
    ("lower", [(0x61, 0x7A)]),
    ("print", [(0x20, 0x7E)]),
    ("punct", [(0x21, 0x2F), (0x3A, 0x40), (0x5B, 0x60), (0x7B, 0x7E)]),
    ("space", [(0x09, 0x0D), (0x20, 0x20)]),
    ("upper", [(0x41, 0x5A)]),
    ("word", [(0x30, 0x39), (0x41, 0x5A), (0x5F, 0x5F), (0x61, 0x7A)]),
    ("xdigit", [(0x30, 0x39), (0x41, 0x46), (0x61, 0x66)])].lookup (String.ofList name)

/-! ## Classes in work -/

/-- Items in work, the last one first. -/
structure ItemList where
  span : Span
  items : List ClassItem

namespace ItemList

/-- Adds an item. -/
def add (list : ItemList) (item : ClassItem) : ItemList :=
  { span := ⟨if list.items.isEmpty then item.span.start else list.span.start, item.span.stop⟩
    items := item :: list.items }

/-- All items as one. -/
def toItem (list : ItemList) : ClassItem :=
  match list.items with
  | [] => .empty list.span
  | [item] => item
  | items => .union list.span items.reverse

end ItemList

/-- A class whose closing bracket has not been met. -/
structure OpenClass where
  /-- The opening bracket with what stands directly behind it. -/
  span : Span
  negated : Bool
  /-- The left side of an operator that waits for its right side. -/
  left : Option (ClassItem × ClassOperator)
  items : ItemList

namespace OpenClass

/-- Adds an item. -/
def add (cls : OpenClass) (item : ClassItem) : OpenClass :=
  { cls with items := cls.items.add item }

/-- What has been listed so far, behind the operator that waits for it. -/
def toItem (cls : OpenClass) : ClassItem :=
  let right := cls.items.toItem
  match cls.left with
  | none => right
  | some (left, operator) =>
      .combined ⟨left.span.start, right.span.stop⟩ operator left right

/-- Takes what has been listed so far for the left side of an operator. -/
def combine (cls : OpenClass) (operator : ClassOperator) (here : Span) : OpenClass :=
  { cls with left := some (cls.toItem, operator), items := ⟨here, []⟩ }

end OpenClass

/-- The item that an escape stands for inside a class. -/
def Ast.asClassItem? : Ast → Option ClassItem
  | .literal char => some (.literal char)
  | .shorthand cls => some (.shorthand cls)
  | .property cls => some (.property cls)
  | _ => none

namespace Reading

/-! ## Opening a class -/

/-- Hyphens at the beginning of a class, which stand for themselves. -/
def leadingHyphens (start : Position) : Nat → ItemList → Reading ItemList
  | 0, list => return list
  | steps + 1, list => do
      if ← startsWith '-' then
        let list := list.add (.literal ⟨← ofNext, '-', false⟩)
        if !(← advanceOver) then fail .classUnclosed ⟨start, start⟩
        leadingHyphens start steps list
      else return list

/-- The beginning of a class; the reader stands on the opening bracket. -/
def openClass : Reading OpenClass := do
  let start ← position
  if !(← advanceOver) then fail .classUnclosed (← since start)
  let negated ← startsWith '^'
  if negated then
    if !(← advanceOver) then fail .classUnclosed (← since start)
  let mut list ← leadingHyphens start (← bound) ⟨← here, []⟩
  if list.items.isEmpty && (← startsWith ']') then
    list := list.add (.literal ⟨← ofNext, ']', false⟩)
    if !(← advanceOver) then fail .classUnclosed (← since start)
  return ⟨← since start, negated, none, list⟩

/-! ## Items -/

/-- A class with a name, such as digits.  If it is none after all, nothing is
passed. -/
def namedClass : Reading (Option ClassItem) := do
  let before ← get
  let start := before.position
  if ← pass "[:" then
    let negated ← pass "^"
    let name := (← get).rest.takeWhile (· != ':')
    let _ ← pass (.ofList name)
    if ← pass ":]" then
      if let some ranges := namedClass? name then
        return some (.named (← since start) ranges negated)
  set before
  return none

/-- A character or an escape inside a class. -/
def classPrimitive : Reading Ast := do
  match ← peek with
  | none => fail .classUnclosed (← here)
  | some char =>
      if char == '\\' then escape
      else
        let span ← ofNext
        let _ ← advance
        return .literal ⟨span, char, false⟩

/-- The end of a range, which has to be a single character. -/
def rangeEnd : Ast → Reading Literal
  | .literal char => return char
  | other => fail .classRangeBoundary other.span

/-- A character, a range or an escape.  `unclosed` is the error if the pattern
ends here. -/
def classRange (unclosed : Span) : Reading ClassItem := do
  let first ← classPrimitive
  skipBlanks
  if ← atEnd then fail .classUnclosed unclosed
  let behind ← peekBehind
  if !(← startsWith '-') || behind == some ']' || behind == some '-' then
    match first.asClassItem? with
    | some item => return item
    | none => fail .classEscape first.span
  else
    if !(← advanceOver) then fail .classUnclosed unclosed
    let last ← classPrimitive
    let span : Span := ⟨first.span.start, last.span.stop⟩
    let first ← rangeEnd first
    let last ← rangeEnd last
    if last.char < first.char then fail .classRange span
    return .range span first last

/-! ## Whole classes -/

/-- The operator that comes next. -/
def classOperator? : Reading (Option ClassOperator) := do
  if ← pass "&&" then return some .intersection
  else if ← pass "--" then return some .difference
  else if ← pass "~~" then return some .symmetricDifference
  else return none

/-- The rest of a class, given the innermost class that is open and those around
it. -/
def classFrom : Nat → OpenClass → List OpenClass → Reading Ast
  | 0, cls, _ => fail .classUnclosed cls.span
  | steps + 1, cls, outer => do
      skipBlanks
      match ← peek with
      | none => fail .classUnclosed cls.span
      | some '[' =>
          match ← namedClass with
          | some item => classFrom steps (cls.add item) outer
          | none => classFrom steps (← openClass) (cls :: outer)
      | some ']' =>
          let _ ← advance
          let span ← since cls.span.start
          match outer with
          | [] => return .bracketed span cls.negated cls.toItem
          | around :: outer =>
              classFrom steps (around.add (.bracketed span cls.negated cls.toItem)) outer
      | some _ =>
          match ← classOperator? with
          | some operator => classFrom steps (cls.combine operator (← here)) outer
          | none => classFrom steps (cls.add (← classRange cls.span)) outer

/-- A class between brackets; the reader stands on the opening one. -/
def bracketedClass : Reading Ast := do
  let steps ← bound
  classFrom steps (← openClass) []

end Reading

end MtaCheck.Regex
