/-!
# Sets of code points

A set of code points is a list of ranges.  The tables of this folder spell their
ranges in hexadecimal; `CodeSet.ofTable` reads them.
-/

namespace MtaCheck.Unicode

/-- A set of code points: the ranges of its members, with both ends. -/
structure CodeSet where
  ranges : List (Nat × Nat)
deriving DecidableEq, Inhabited

namespace CodeSet

/-- Whether a code point belongs to a set. -/
def contains (set : CodeSet) (code : Nat) : Bool :=
  set.ranges.any fun (first, last) => first ≤ code && code ≤ last

/-- The members of either set. -/
def union (left right : CodeSet) : CodeSet := ⟨left.ranges ++ right.ranges⟩

/-- The members of any of the sets. -/
def unions (sets : List CodeSet) : CodeSet := ⟨sets.flatMap (·.ranges)⟩

/-! ## Reading tables -/

/-- The value of a hexadecimal digit of a table. -/
def hexDigit (char : Char) : Nat :=
  if char.isDigit then char.toNat - '0'.toNat else char.toNat - 'a'.toNat + 10

/-- Reads the ranges of a line.  The second argument is the first end of the
range in work, if its hyphen has been passed, and the third the number so far. -/
def readLine : List Char → Option Nat → Nat → List (Nat × Nat)
  | [], first, number => [(first.getD number, number)]
  | ' ' :: rest, first, number => (first.getD number, number) :: readLine rest none 0
  | '-' :: rest, _, number => readLine rest (some number) 0
  | char :: rest, first, number => readLine rest first (number * 16 + hexDigit char)

/-- The set that the lines of a table spell. -/
def ofTable (lines : List String) : CodeSet :=
  ⟨lines.flatMap fun line => readLine line.toList none 0⟩

end CodeSet

end MtaCheck.Unicode
