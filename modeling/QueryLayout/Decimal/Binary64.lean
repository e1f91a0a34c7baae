namespace QueryLayout

/-- A binary number of double precision. The magnitude of a finite one is
`mantissa * 2 ^ exponent`, where the mantissa has at most 53 bits and the
exponent is at least -1074. -/
inductive Binary64 where
  | finite (negative : Bool) (mantissa : Nat) (exponent : Int)
  | infinite (negative : Bool)
  | nan
deriving DecidableEq, Repr

/-- The quotient to the nearest whole number. A half goes to the even one. -/
def roundQuotient (dividend divisor : Nat) : Nat :=
  let quotient := dividend / divisor
  let rest := dividend % divisor
  if divisor < 2 * rest ∨ (divisor = 2 * rest ∧ quotient % 2 = 1) then quotient + 1 else quotient

/-- The two terms of `base ^ exponent` times a fraction. -/
def scaleRatio (base : Nat) (exponent : Int) (ratio : Nat × Nat) : Nat × Nat :=
  if exponent < 0 then (ratio.1, ratio.2 * Nat.pow base exponent.natAbs)
  else (ratio.1 * Nat.pow base exponent.natAbs, ratio.2)

/-- The nearest binary number to a positive fraction. -/
def Binary64.ofRatio (negative : Bool) (ratio : Nat × Nat) : Binary64 :=
  let magnitude : Int := (Nat.log2 ratio.1 : Int) - (Nat.log2 ratio.2 : Int)
  let least : Int := max (magnitude - 53) (-1074)
  let scaled := scaleRatio 2 (-least) ratio
  let exponent := if scaled.1 / scaled.2 < Nat.pow 2 53 then least else least + 1
  let final := scaleRatio 2 (-exponent) ratio
  let mantissa := roundQuotient final.1 final.2
  let (mantissa, exponent) :=
    if mantissa = Nat.pow 2 53 then (Nat.pow 2 52, exponent + 1) else (mantissa, exponent)
  if 971 < exponent then .infinite negative else .finite negative mantissa exponent

def decimalLength (n : Nat) : Nat :=
  (Nat.toDigits 10 n).length

/-- The nearest binary number to `digits * 10 ^ exponent`. Far outside the
range of double precision the answer is known without computing the power. -/
def Binary64.ofDecimal (negative : Bool) (digits : Nat) (exponent : Int) : Binary64 :=
  let magnitude := exponent + decimalLength digits
  if digits = 0 ∨ magnitude < -400 then .finite negative 0 (-1074)
  else if 400 < magnitude then .infinite negative
  else .ofRatio negative (scaleRatio 10 exponent (digits, 1))

end QueryLayout
