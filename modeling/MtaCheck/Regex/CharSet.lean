import MtaCheck.Regex.Ast
import MtaCheck.Unicode.Property

/-!
# Sets of characters as a pattern describes them

A class of a pattern is kept as it is composed, from ranges of code points by the
operators of classes, and asked one code point at a time.
-/

namespace MtaCheck.Regex

open MtaCheck.Unicode (CodeSet)

/-! ## Case -/

/-- Which characters count as equal up to case: letters of ASCII, or those of all
scripts. -/
inductive CaseFold
  | ascii
  | allScripts
deriving DecidableEq

/-- The code points that are equal to a code point up to case, itself among
them. -/
def CaseFold.variants : CaseFold → Nat → List Nat
  | .allScripts, code => Unicode.caseVariants code
  | .ascii, code =>
      if 0x41 ≤ code && code ≤ 0x5A then [code, code + 0x20]
      else if 0x61 ≤ code && code ≤ 0x7A then [code - 0x20, code]
      else [code]

/-! ## Sets -/

/-- Whether a combination of two sets has a member, which each of them has or
not. -/
def ClassOperator.apply : ClassOperator → Bool → Bool → Bool
  | .intersection, left, right => left && right
  | .difference, left, right => left && !right
  | .symmetricDifference, left, right => left != right

/-- A set of characters. -/
inductive CharSet
  | codes (set : CodeSet)
  | complement (set : CharSet)
  | union (left right : CharSet)
  | combined (operator : ClassOperator) (left right : CharSet)
  | caseless (fold : CaseFold) (set : CharSet)

namespace CharSet

/-- Whether a code point belongs to a set. -/
def contains : CharSet → Nat → Bool
  | .codes set, code => set.contains code
  | .complement set, code => !set.contains code
  | .union left right, code => left.contains code || right.contains code
  | .combined operator left right, code =>
      operator.apply (left.contains code) (right.contains code)
  | .caseless fold set, code => (fold.variants code).any fun variant => set.contains variant

/-- No character. -/
def none : CharSet := .codes ⟨[]⟩

/-- The characters of the given ranges. -/
def ofRanges (ranges : List (Nat × Nat)) : CharSet := .codes ⟨ranges⟩

/-- One character. -/
def singleton (char : Char) : CharSet := .ofRanges [(char.toNat, char.toNat)]

/-- The characters of any of the sets. -/
def unions : List CharSet → CharSet
  | [] => .none
  | [set] => set
  | set :: sets => .union set (unions sets)

/-- The complement, if it is asked for. -/
def negatedIf (negated : Bool) (set : CharSet) : CharSet :=
  if negated then .complement set else set

end CharSet

/-! ## Words -/

/-- Word characters of ASCII. -/
def asciiWords : CharSet := .ofRanges [(0x30, 0x39), (0x41, 0x5A), (0x5F, 0x5F), (0x61, 0x7A)]

/-- Word characters of all scripts. -/
def allWords : CharSet := .codes Unicode.wordCharacters

end MtaCheck.Regex
