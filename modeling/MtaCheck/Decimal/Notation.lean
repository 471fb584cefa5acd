import MtaCheck.Decimal.Shortest

/-!
# Writing a decimal down

A decimal is written positionally or with an exponent.  Where the point stands
and which of the two forms is taken is fixed by a `Layout`; a number
without a fraction keeps a zero behind its point.
-/

namespace MtaCheck.Decimal

/-- How floating-point numbers are written. -/
structure Layout where
  /-- The least number of digits in front of the point that is written
  positionally; a number `0.00…` has as many digits less. -/
  leastScale : Option Int
  /-- The greatest number of digits in front of the point that is written
  positionally. -/
  greatestScale : Option Int
  /-- Which of two equally near decimals is taken. -/
  tie : Tie
  /-- The texts of the values that are no finite numbers. -/
  infinity : String
  notANumber : String

/-- `count` zeros. -/
def zeros (count : Nat) : String := String.ofList (List.replicate count '0')

/-- A decimal with its point in place. -/
def positional (digits : String) (exponent : Int) : String :=
  let length : Int := digits.length
  let scale := length + exponent
  if 0 ≤ exponent then digits ++ zeros exponent.toNat ++ ".0"
  else if 0 < scale then
    String.ofList (digits.toList.take scale.toNat) ++ "." ++
      String.ofList (digits.toList.drop scale.toNat)
  else "0." ++ zeros (-scale).toNat ++ digits

/-- A decimal with one digit in front of its point. -/
def scientific (digits : String) (exponent : Int) : String :=
  let power := exponent + digits.length - 1
  match digits.toList with
  | [] => ""
  | [digit] => String.ofList [digit] ++ "e" ++ toString power
  | digit :: fraction => String.ofList (digit :: '.' :: fraction) ++ "e" ++ toString power

/-- A decimal as the layout demands. -/
def Layout.decimal (layout : Layout) (decimal : Scaled) : String :=
  let digits := toString decimal.digits
  let scale := decimal.exponent + digits.length
  if layout.leastScale.all (· ≤ scale) && layout.greatestScale.all (scale ≤ ·) then
    positional digits decimal.exponent
  else scientific digits decimal.exponent

/-- A floating-point number as the layout demands. -/
def Layout.text (layout : Layout) : Binary64 → String
  | .notANumber => layout.notANumber
  | .infinite negative => (if negative then "-" else "") ++ layout.infinity
  | .finite negative significand exponent =>
      let magnitude :=
        if significand == 0 then "0.0"
        else layout.decimal (shortest layout.tie significand exponent)
      (if negative then "-" else "") ++ magnitude

end MtaCheck.Decimal
