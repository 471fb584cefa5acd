/-!
# Binary floating-point numbers of 64 bits

A finite value is `significand * 2 ^ exponent` with a significand below `2 ^ 53`.
The exponent is the least possible one of at least `-1074`, so every value has
one form.  `Binary64.ofDecimal` gives the value nearest to a decimal number, and
among two equally near ones that with the even significand; it works with exact
natural numbers.
-/

namespace MtaCheck.Decimal

/-- A binary floating-point number of 64 bits; what distinguishes one value that
is no number from another is left out. -/
inductive Binary64
  | finite (negative : Bool) (significand : Nat) (exponent : Int)
  | infinite (negative : Bool)
  | notANumber
deriving DecidableEq, Inhabited

namespace Binary64

/-! ## Comparison -/

/-- Whether two values are equal as numbers.  The two zeros are, and so are two
values that are no numbers. -/
def same : Binary64 → Binary64 → Bool
  | .finite negative significand exponent, .finite negative' significand' exponent' =>
      (significand == 0 && significand' == 0)
        || (negative == negative' && significand == significand' && exponent == exponent')
  | .infinite negative, .infinite negative' => negative == negative'
  | .notANumber, .notANumber => true
  | _, _ => false

/-- Whether the value is finite. -/
def isFinite : Binary64 → Bool
  | .finite _ _ _ => true
  | _ => false

/-! ## Rounding -/

/-- The bits of a significand. -/
def precision : Nat := 53

/-- The least exponent. -/
def leastExponent : Int := -1074

/-- The greatest exponent. -/
def greatestExponent : Int := 971

/-- The quotient rounded to the nearest natural number, to the even one of two. -/
def roundedQuotient (numerator denominator : Nat) : Nat :=
  let quotient := numerator / denominator
  let twice := 2 * (numerator % denominator)
  if twice > denominator || (twice == denominator && quotient % 2 == 1) then quotient + 1
  else quotient

/-- `numerator / denominator / 2 ^ exponent`, rounded. -/
def scaledQuotient (numerator denominator : Nat) (exponent : Int) : Nat :=
  roundedQuotient (numerator * Nat.pow 2 (-exponent).toNat) (denominator * Nat.pow 2 exponent.toNat)

/-- The exponent for a quotient: the least one with which the integral part of
the significand has at most `precision` bits. -/
def exponentFor (numerator denominator : Nat) : Int :=
  let guess : Int := (numerator.log2 : Int) - denominator.log2 - precision
  let fits := numerator * Nat.pow 2 (-guess).toNat <
    Nat.pow 2 precision * denominator * Nat.pow 2 guess.toNat
  max leastExponent (if fits then guess else guess + 1)

/-- The value nearest to a positive quotient. -/
def ofQuotient (negative : Bool) (numerator denominator : Nat) : Binary64 :=
  let exponent := exponentFor numerator denominator
  let significand := scaledQuotient numerator denominator exponent
  let (significand, exponent) :=
    if significand == Nat.pow 2 precision then (Nat.pow 2 (precision - 1), exponent + 1)
    else (significand, exponent)
  if exponent > greatestExponent then .infinite negative
  else if significand == 0 then .finite negative 0 leastExponent
  else .finite negative significand exponent

/-- The number of decimal digits. -/
def decimalLength (number : Nat) : Nat := (Nat.toDigits 10 number).length

/-- The value nearest to `digits * 10 ^ exponent`.  A number of more than 310
digits is infinite, and one with more than 330 zeros behind its point is zero. -/
def ofDecimal (negative : Bool) (digits : Nat) (exponent : Int) : Binary64 :=
  let size := exponent + decimalLength digits
  if digits == 0 || size < -330 then .finite negative 0 leastExponent
  else if size > 310 then .infinite negative
  else ofQuotient negative (digits * Nat.pow 10 exponent.toNat) (Nat.pow 10 (-exponent).toNat)

end Binary64

end MtaCheck.Decimal
