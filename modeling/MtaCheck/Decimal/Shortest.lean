import MtaCheck.Decimal.Binary64

/-!
# The shortest decimal that reads back

The reals that round to a binary value form an interval, with its ends exactly
when the significand is even.  `shortest` gives a decimal of that interval with as
few digits as possible, and of those the one nearest to the value.

For one digit, two digits and so on it tests the two neighbours of the value on
the grid of decimals with that many digits: if a grid has a point in the
interval, then one of these two lies in it.
-/

namespace MtaCheck.Decimal

/-- The number `digits * 10 ^ exponent`. -/
structure Scaled where
  digits : Nat
  exponent : Int
deriving DecidableEq, Inhabited

/-- Which of two equally near decimals is taken. -/
inductive Tie
  | toEven
  | up

/-- Compares `left * 10 ^ power` with `right * 2 ^ exponent`. -/
def compareScaled (left : Nat) (power : Int) (right : Nat) (exponent : Int) : Ordering :=
  compare (left * Nat.pow 10 power.toNat * Nat.pow 2 (-exponent).toNat)
    (right * Nat.pow 2 exponent.toNat * Nat.pow 10 (-power).toNat)

/-- Whether the decimal rounds to the binary value.  Below a power of two the gap
is half as wide as above. -/
def readsBack (significand : Nat) (exponent : Int) (decimal : Scaled) : Bool :=
  let narrow :=
    significand == Nat.pow 2 (Binary64.precision - 1) && exponent > Binary64.leastExponent
  let low := if narrow then 4 * significand - 1 else 4 * significand - 2
  let inclusive := significand % 2 == 0
  let belowEnd := compareScaled decimal.digits decimal.exponent low (exponent - 2)
  let aboveEnd := compareScaled decimal.digits decimal.exponent (4 * significand + 2) (exponent - 2)
  (belowEnd == .gt || (inclusive && belowEnd == .eq))
    && (aboveEnd == .lt || (inclusive && aboveEnd == .eq))

/-- `significand * 2 ^ exponent / 10 ^ power`, rounded down. -/
def gridFloor (significand : Nat) (exponent power : Int) : Nat :=
  significand * Nat.pow 2 exponent.toNat * Nat.pow 10 (-power).toNat
    / (Nat.pow 10 power.toNat * Nat.pow 2 (-exponent).toNat)

/-- Raises an estimate until the value is below its power of ten. -/
def raiseScale (significand : Nat) (exponent : Int) : Nat → Int → Int
  | 0, scale => scale
  | steps + 1, scale =>
      if compareScaled 1 scale significand exponent == .gt then scale
      else raiseScale significand exponent steps (scale + 1)

/-- The least power of ten above the value, from an estimate below it. -/
def scaleOf (significand : Nat) (exponent : Int) : Int :=
  let bits : Int := exponent + significand.log2
  raiseScale significand exponent 4 (bits * 30103 / 100000 - 1)

/-- The nearer of the two neighbours on a grid that read back, if one does. -/
def neighbour? (tie : Tie) (significand : Nat) (exponent power : Int) : Option Scaled :=
  let low := gridFloor significand exponent power
  let lower : Scaled := ⟨low, power⟩
  let upper : Scaled := ⟨low + 1, power⟩
  match readsBack significand exponent lower && low != 0,
      readsBack significand exponent upper with
  | true, true =>
      match compareScaled (2 * low + 1) power (2 * significand) exponent with
      | .gt => some lower
      | .lt => some upper
      | .eq => match tie with
        | .toEven => some (if low % 2 == 0 then lower else upper)
        | .up => some upper
  | true, false => some lower
  | false, true => some upper
  | false, false => none

/-- Tries grids of more and more digits. -/
def searchGrids (tie : Tie) (significand : Nat) (exponent : Int) : Nat → Int → Option Scaled
  | 0, _ => none
  | steps + 1, power =>
      match neighbour? tie significand exponent power with
      | some decimal => some decimal
      | none => searchGrids tie significand exponent steps (power - 1)

/-- Moves zeros at the end of the digits into the exponent. -/
def stripZeros : Nat → Scaled → Scaled
  | 0, decimal => decimal
  | steps + 1, decimal =>
      if decimal.digits != 0 && decimal.digits % 10 == 0 then
        stripZeros steps ⟨decimal.digits / 10, decimal.exponent + 1⟩
      else decimal

/-- The shortest decimal for a positive value.  Seventeen digits always suffice;
beyond them the exact value would be given. -/
def shortest (tie : Tie) (significand : Nat) (exponent : Int) : Scaled :=
  let found := searchGrids tie significand exponent 17 (scaleOf significand exponent - 1)
  let exact : Scaled :=
    ⟨significand * Nat.pow 2 exponent.toNat * Nat.pow 5 (-exponent).toNat, min exponent 0⟩
  stripZeros 20 (found.getD exact)

end MtaCheck.Decimal
