/-!
# Places in a text

A `Mark` counts the octets, the line breaks and the characters of the line before
a place.  Lines and columns are counted from zero here and shown from one, and
the very beginning of a text is not shown at all: messages about it stand without
a position.
-/

namespace MtaCheck.Yaml

/-- A place in a text: how many octets come before it, how many line breaks, and
how many characters since the last of those. -/
structure Mark where
  index : Nat
  line : Nat
  column : Nat
deriving DecidableEq, Inhabited

namespace Mark

/-- The beginning of a text. -/
def start : Mark := ⟨0, 0, 0⟩

/-- The place after some characters of the same line. -/
def behind (mark : Mark) (characters : List Char) : Mark :=
  ⟨characters.foldl (fun index char => index + char.utf8Size) mark.index, mark.line,
    mark.column + characters.length⟩

/-- The place after a line break that takes `width` octets. -/
def nextLine (mark : Mark) (width : Nat) : Mark :=
  ⟨mark.index + width, mark.line + 1, 0⟩

/-- Whether the place is the first of the first line, which is not shown. -/
def isOrigin (mark : Mark) : Bool := mark.line == 0 && mark.column == 0

/-- The words for a place inside a message, empty for the origin. -/
def suffix (mark : Mark) : String :=
  if mark.isOrigin then "" else s!" at line {mark.line + 1} column {mark.column + 1}"

end Mark

end MtaCheck.Yaml
