/-!
# JSON

Values with texts, arrays and objects, and their two written forms: on one line
without any space, or spread over lines with two spaces for each level.  Texts are
written with as few escapes as possible.
-/

namespace MtaCheck.Text

/-- A value of a report. -/
inductive Json
  | text (value : String)
  | array (items : List Json)
  | object (fields : List (String × Json))

namespace Json

/-! ## Texts -/

/-- A hexadecimal digit. -/
def hexDigit (value : Nat) : Char :=
  if value < 10 then Char.ofNat ('0'.toNat + value) else Char.ofNat ('a'.toNat + value - 10)

/-- The written form of a character of a text. -/
def escaped (char : Char) : List Char :=
  match char with
  | '"' => ['\\', '"']
  | '\\' => ['\\', '\\']
  | '\n' => ['\\', 'n']
  | '\r' => ['\\', 'r']
  | '\t' => ['\\', 't']
  | '\x08' => ['\\', 'b']
  | '\x0c' => ['\\', 'f']
  | _ =>
      if char.toNat < 0x20 then
        ['\\', 'u', '0', '0', hexDigit (char.toNat / 16), hexDigit (char.toNat % 16)]
      else [char]

/-- The written form of a text. -/
def quoted (text : String) : List Char := '"' :: text.toList.flatMap escaped ++ ['"']

/-! ## Values -/

/-- How a value is laid out. -/
inductive Layout
  | compact
  | pretty
deriving DecidableEq

/-- What stands in front of an item on some level. -/
def Layout.lineBreak : Layout → Nat → List Char
  | .compact, _ => []
  | .pretty, level => '\n' :: List.replicate (2 * level) ' '

/-- What stands between a name and its value. -/
def Layout.colon : Layout → List Char
  | .compact => [':']
  | .pretty => [':', ' ']

mutual

/-- The written form of a value on some level. -/
def write (layout : Layout) (level : Nat) : Json → List Char
  | .text value => quoted value
  | .array [] => ['[', ']']
  | .array (item :: items) =>
      '[' :: layout.lineBreak (level + 1) ++ write layout (level + 1) item
        ++ writeItems layout (level + 1) items ++ layout.lineBreak level ++ [']']
  | .object [] => ['\x7b', '\x7d']
  | .object ((name, value) :: fields) =>
      '\x7b' :: layout.lineBreak (level + 1) ++ quoted name ++ layout.colon
        ++ write layout (level + 1) value ++ writeFields layout (level + 1) fields
        ++ layout.lineBreak level ++ ['\x7d']

/-- The written form of further items of an array. -/
def writeItems (layout : Layout) (level : Nat) : List Json → List Char
  | [] => []
  | item :: items =>
      ',' :: layout.lineBreak level ++ write layout level item ++ writeItems layout level items

/-- The written form of further fields of an object. -/
def writeFields (layout : Layout) (level : Nat) : List (String × Json) → List Char
  | [] => []
  | (name, value) :: fields =>
      ',' :: layout.lineBreak level ++ quoted name ++ layout.colon ++ write layout level value
        ++ writeFields layout level fields

end

/-- A value as a text. -/
def render (layout : Layout) (value : Json) : String := .ofList (write layout 0 value)

end Json

end MtaCheck.Text
