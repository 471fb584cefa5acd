import MtaCheck.Decimal.Notation

/-!
# Numbers in YAML

A number is a whole number of at most 64 bits or a floating-point number.  The
two kinds never are equal to each other.
-/

namespace MtaCheck.Yaml

open MtaCheck.Decimal

/-- A number of a document. -/
inductive Number
  | whole (value : Int)
  | floating (value : Binary64)
deriving DecidableEq, Inhabited

namespace Number

/-- Whether two numbers are equal. -/
def same : Number → Number → Bool
  | .whole value, .whole value' => value == value'
  | .floating value, .floating value' => value.same value'
  | _, _ => false

/-- How a floating-point number of a document is written: positionally while it
has at most sixteen digits in front of its point and at most four zeros behind
it. -/
def layout : Layout := ⟨some (-4), some 16, .toEven, ".inf", ".nan"⟩

/-- The literal form of a number. -/
def literal : Number → String
  | .whole value => toString value
  | .floating value => layout.text value

end Number

end MtaCheck.Yaml
