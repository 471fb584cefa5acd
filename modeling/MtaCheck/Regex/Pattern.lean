import MtaCheck.Regex.CharSet

/-!
# What a pattern matches

A `Pattern` is what is left of a pattern once all flags have been obeyed.  In a
text of `n` characters it leads from some of the `n + 1` places between characters
to others.

Matching follows all places at once.  A set of places is a number whose binary
digit `i` tells whether place `i` belongs to it, and `Pattern.action` is the map
from the set of places where a match may begin to the set of places where it may
end.  No step back is ever taken, so the time is bounded by the length of the text
and the size of the pattern.
-/

namespace MtaCheck.Regex

/-! ## Assertions -/

/-- The kinds of boundaries of words. -/
inductive Boundary
  | either
  | neither
  | start
  | stop
  | startHalf
  | stopHalf
deriving DecidableEq

/-- What holds between two characters without taking any. -/
inductive Look
  | textStart
  | textEnd
  | lineStart
  | lineEnd
  /-- Lines end with a carriage return, a line feed or both in this order. -/
  | anyLineStart
  | anyLineEnd
  | boundary (kind : Boundary) (words : CharSet)

/-- Whether a boundary of words lies between what comes before and behind, each a
word character or not. -/
def Boundary.holds : Boundary → Bool → Bool → Bool
  | .either, before, behind => before != behind
  | .neither, before, behind => before == behind
  | .start, before, behind => !before && behind
  | .stop, before, behind => before && !behind
  | .startHalf, before, _ => !before
  | .stopHalf, _, behind => !behind

/-- Whether an assertion holds between the given characters; none stands for an
end of the text. -/
def Look.holds : Look → Option Char → Option Char → Bool
  | .textStart, before, _ => before.isNone
  | .textEnd, _, behind => behind.isNone
  | .lineStart, before, _ => before.all (· == '\n')
  | .lineEnd, _, behind => behind.all (· == '\n')
  | .anyLineStart, before, behind =>
      before.all fun char => char == '\n' || char == '\r' && behind != some '\n'
  | .anyLineEnd, before, behind =>
      behind.all fun char => char == '\r' || char == '\n' && before != some '\r'
  | .boundary kind words, before, behind =>
      let isWord (char : Option Char) := char.any fun char => words.contains char.toNat
      kind.holds (isWord before) (isWord behind)

/-! ## Patterns -/

/-- A pattern without flags. -/
inductive Pattern
  | empty
  | chars (set : CharSet)
  | look (look : Look)
  | both (first second : Pattern)
  | either (first second : Pattern)
  | repeated (inner : Pattern) (least : Nat) (most : Option Nat)

namespace Pattern

/-- One pattern behind the other. -/
def concat : List Pattern → Pattern
  | [] => .empty
  | [pattern] => pattern
  | pattern :: patterns => .both pattern (concat patterns)

/-- A choice of patterns. -/
def choice : List Pattern → Pattern
  | [] => .empty
  | [pattern] => pattern
  | pattern :: patterns => .either pattern (choice patterns)

end Pattern

/-! ## Sets of places -/

/-- The neighbours of every place of a text: the character before it and the
character behind it. -/
def neighbours : Option Char → List Char → List (Option Char × Option Char)
  | before, [] => [(before, none)]
  | before, char :: rest => (before, some char) :: neighbours (some char) rest

/-- The set of the places with the given neighbours that satisfy a condition. -/
def placesWhere (condition : Option Char → Option Char → Bool) :
    List (Option Char × Option Char) → Nat
  | [] => 0
  | (before, behind) :: rest =>
      (if condition before behind then 1 else 0) + 2 * placesWhere condition rest

/-- Where matches end, by where they begin. -/
structure Action where
  apply : Nat → Nat

namespace Action

/-- Applies an action `count` times. -/
def iterate (action : Action) : Nat → Nat → Nat
  | 0, places => places
  | count + 1, places => iterate action count (action.apply places)

/-- Adds what up to `count` applications of an action reach. -/
def reach (action : Action) : Nat → Nat → Nat
  | 0, places => places
  | count + 1, places =>
      let next := places ||| action.apply places
      if next == places then places else reach action count next

end Action

/-! ## Matching -/

/-- The action of a pattern on a text with the given neighbours.  Places never move
back, so repetitions beyond the number of places reach nothing new. -/
def Pattern.action (text : List (Option Char × Option Char)) : Pattern → Action
  | .empty => ⟨id⟩
  | .chars set =>
      let accepted := placesWhere (fun _ behind => behind.any fun char =>
        set.contains char.toNat) text
      ⟨fun places => (places &&& accepted) <<< 1⟩
  | .look assertion =>
      let accepted := placesWhere assertion.holds text
      ⟨fun places => places &&& accepted⟩
  | .both first second =>
      let first := first.action text
      let second := second.action text
      ⟨fun places => second.apply (first.apply places)⟩
  | .either first second =>
      let first := first.action text
      let second := second.action text
      ⟨fun places => first.apply places ||| second.apply places⟩
  | .repeated inner least most =>
      let inner := inner.action text
      let more := most.elim text.length fun most => min (most - least) text.length
      ⟨fun places => inner.reach more (inner.iterate (min least text.length) places)⟩

/-- Whether a pattern matches somewhere in a text. -/
def Pattern.isMatch (pattern : Pattern) (text : List Char) : Bool :=
  let neighbours := neighbours none text
  (pattern.action neighbours).apply (Nat.pow 2 neighbours.length - 1) != 0

end MtaCheck.Regex
