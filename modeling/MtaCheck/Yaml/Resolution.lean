import MtaCheck.Yaml.Number

/-!
# What a plain scalar means

A scalar without quotes is null, a truth value, a number or a text, by its
spelling alone.

* Whole numbers are decimal, or hexadecimal, octal or binary behind `0x`, `0o`
  and `0b`.  Zeros in front of a decimal number make it a text.
* Numbers with a point or an exponent are floating-point numbers, and so are whole
  numbers that take more than 128 bits; a number beyond the floating-point
  range is a text.
* A whole number of more than 64 and at most 128 bits is neither: it is recognised,
  but no value of a document can hold it.
-/

namespace MtaCheck.Yaml

open MtaCheck.Decimal

/-- The meaning of a scalar. -/
inductive Meaning
  | null
  | truth (value : Bool)
  | number (value : Number)
  /-- A whole number that takes more than 64 bits. -/
  | wide (value : Int)
  | text

namespace Resolution

/-! ## Words -/

/-- Whether a text spells null. -/
def isNull (text : String) : Bool := ["null", "Null", "NULL", "~"].contains text

/-- The truth value that a text spells. -/
def truth? (text : String) : Option Bool :=
  if ["true", "True", "TRUE"].contains text then some true
  else if ["false", "False", "FALSE"].contains text then some false
  else none

/-! ## Whole numbers -/

/-- The value of a digit in a base. -/
def digit? (base : Nat) (char : Char) : Option Nat :=
  let value :=
    if char.isDigit then char.toNat - '0'.toNat
    else if 'a' ≤ char && char ≤ 'z' then char.toNat - 'a'.toNat + 10
    else if 'A' ≤ char && char ≤ 'Z' then char.toNat - 'A'.toNat + 10
    else base
  if value < base then some value else none

/-- The number that the digits spell in a base; there must be at least one. -/
def digits? (base : Nat) (digits : List Char) : Option Nat :=
  if digits.isEmpty then none
  else digits.foldlM (fun value char => (digit? base char).map (value * base + ·)) 0

/-- A sign in front of a number: whether it is a minus sign, and what is behind
it. -/
def splitSign : List Char → Bool × List Char
  | '-' :: rest => (true, rest)
  | '+' :: rest => (false, rest)
  | text => (false, text)

/-- Whether digits are no number because of zeros in front of them. -/
def hasLeadingZero (digits : List Char) : Bool :=
  digits.length > 1 && digits.head? == some '0' && digits.all Char.isDigit

/-- The number that a text without a sign spells. -/
def magnitude? : List Char → Option Nat
  | '0' :: 'x' :: digits => digits? 16 digits
  | '0' :: 'o' :: digits => digits? 8 digits
  | '0' :: 'b' :: digits => digits? 2 digits
  | digits => if hasLeadingZero digits then none else digits? 10 digits

/-- The whole number that a text spells, if it takes at most 128 bits. -/
def whole? (text : List Char) : Option Int := do
  let (negative, rest) := splitSign text
  let magnitude ← magnitude? rest
  if negative then
    if magnitude ≤ Nat.pow 2 127 then some (-magnitude) else none
  else
    if magnitude < Nat.pow 2 128 then some magnitude else none

/-- Whether a whole number takes at most 64 bits. -/
def fitsWord (value : Int) : Bool := -Int.pow 2 63 ≤ value && value < Int.pow 2 64

/-! ## Floating-point numbers -/

/-- The exponent behind `e`, with an optional sign. -/
def exponent? (text : List Char) : Option Int := do
  let (negative, digits) := splitSign text
  let value ← digits? 10 digits
  return if negative then -value else value

/-- The digits of a number with an optional point and an optional exponent, as
`digits * 10 ^ exponent`. -/
def scientific? (text : List Char) : Option Scaled := do
  let front := text.takeWhile Char.isDigit
  let rest := text.dropWhile Char.isDigit
  let (fraction, rest) := match rest with
    | '.' :: rest => (rest.takeWhile Char.isDigit, rest.dropWhile Char.isDigit)
    | _ => ([], rest)
  let digits ← digits? 10 (front ++ fraction)
  let exponent ← match rest with
    | [] => some 0
    | char :: rest => if char == 'e' || char == 'E' then exponent? rest else none
  return ⟨digits, exponent - fraction.length⟩

/-- The infinite value or the value that is no number that a text spells. -/
def special? (text : String) : Option Binary64 :=
  if [".inf", ".Inf", ".INF", "+.inf", "+.Inf", "+.INF"].contains text then
    some (.infinite false)
  else if ["-.inf", "-.Inf", "-.INF"].contains text then some (.infinite true)
  else if [".nan", ".NaN", ".NAN"].contains text then some .notANumber
  else none

/-- The floating-point number that a text spells.  A number too large to be
finite spells none. -/
def floating? (text : String) : Option Binary64 :=
  match special? text with
  | some value => some value
  | none => do
      let (negative, rest) := splitSign text.toList
      let decimal ← scientific? rest
      let value := Binary64.ofDecimal negative decimal.digits decimal.exponent
      if value.isFinite then some value else none

end Resolution

open Resolution

/-- The meaning of a whole number. -/
def Meaning.ofWhole (value : Int) : Meaning :=
  if fitsWord value then .number (.whole value) else .wide value

/-- The meaning of a plain scalar. -/
def Meaning.ofPlain (text : String) : Meaning :=
  if text.isEmpty || isNull text then .null
  else match truth? text with
    | some value => .truth value
    | none =>
        match whole? text.toList with
        | some value => .ofWhole value
        | none =>
            if hasLeadingZero (splitSign text.toList).2 then .text
            else match floating? text with
              | some value => .number (.floating value)
              | none => .text

/-! ## Tagged scalars -/

/-- The kinds of values that the standard tags ask for. -/
inductive StandardTag
  | bool
  | int
  | float
  | null
deriving DecidableEq

/-- What a standard tag asks for, in words. -/
def StandardTag.description : StandardTag → String
  | .bool => "a boolean"
  | .int => "an integer"
  | .float => "a float"
  | .null => "null"

/-- The standard tags by their full names; the tag of texts asks for nothing. -/
def standardTags : List (String × StandardTag) :=
  [ ("tag:yaml.org,2002:bool", .bool),
    ("tag:yaml.org,2002:int", .int),
    ("tag:yaml.org,2002:float", .float),
    ("tag:yaml.org,2002:null", .null) ]

/-- The meaning of a scalar with a standard tag, if it spells such a value. -/
def Meaning.ofTagged (tag : StandardTag) (text : String) : Option Meaning :=
  match tag with
  | .bool => (truth? text).map .truth
  | .int => (whole? text.toList).map .ofWhole
  | .float => (floating? text).map fun value => .number (.floating value)
  | .null => if isNull text then some .null else none

end MtaCheck.Yaml
