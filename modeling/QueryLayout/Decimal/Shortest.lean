import QueryLayout.Decimal.Binary64

namespace QueryLayout

/-- A decimal number `digits * 10 ^ exponent`. -/
structure Decimal where
  digits : Nat
  exponent : Int
deriving DecidableEq, Repr

def dropZeros : Nat → Decimal → Decimal
  | 0, decimal => decimal
  | steps + 1, decimal =>
    if decimal.digits ≠ 0 ∧ decimal.digits % 10 = 0 then
      dropZeros steps ⟨decimal.digits / 10, decimal.exponent + 1⟩
    else decimal

/-- The power of ten of the leading digit of a positive fraction that is not
below the least positive binary number. -/
def leadingPower (ratio : Nat × Nat) : Int :=
  (decimalLength (ratio.1 * Nat.pow 10 400 / ratio.2) : Int) - 401

/-- Of the two neighbours of a fraction on the grid of `10 ^ exponent`, the
nearer one that reads back as the given number. -/
def neighbour? (value : Binary64) (ratio : Nat × Nat) (exponent : Int) : Option Decimal :=
  let scaled := scaleRatio 10 (-exponent) ratio
  let below := scaled.1 / scaled.2
  let nearest := roundQuotient scaled.1 scaled.2
  let other := if nearest = below then below + 1 else below
  [nearest, other].findSome? fun digits =>
    if Binary64.ofDecimal false digits exponent = value then some ⟨digits, exponent⟩ else none

/-- The decimal number with the fewest digits that reads back as the binary
number `mantissa * 2 ^ exponent`. Seventeen digits always suffice. -/
def shortestDecimal (mantissa : Nat) (exponent : Int) : Decimal :=
  let ratio := scaleRatio 2 exponent (mantissa, 1)
  let power := leadingPower ratio
  let found := (List.range 17).findSome? fun (more : Nat) =>
    neighbour? (.finite false mantissa exponent) ratio (power - more)
  dropZeros 20 (found.getD ⟨0, 0⟩)

/-- Where numbers are written without an exponent, by the power of ten of the
leading digit. -/
def isPositional (power : Int) : Bool :=
  -4 ≤ power && power < 16

def Decimal.positional (decimal : Decimal) : List Char :=
  let digits := Nat.toDigits 10 decimal.digits
  let point : Int := digits.length + decimal.exponent
  if 0 ≤ decimal.exponent then
    digits ++ List.replicate decimal.exponent.toNat '0' ++ ['.', '0']
  else if 0 < point then digits.take point.toNat ++ ['.'] ++ digits.drop point.toNat
  else ['0', '.'] ++ List.replicate (-point).toNat '0' ++ digits

def Decimal.scientific (decimal : Decimal) (power : Int) : List Char :=
  let digits := Nat.toDigits 10 decimal.digits
  let fraction := if digits.length = 1 then [] else '.' :: digits.drop 1
  let size := Nat.toDigits 10 power.natAbs
  digits.take 1 ++ fraction ++ ['e', if power < 0 then '-' else '+'] ++
    List.replicate (2 - size.length) '0' ++ size

def Decimal.text (decimal : Decimal) : List Char :=
  let power := (decimalLength decimal.digits : Int) - 1 + decimal.exponent
  if isPositional power then decimal.positional else decimal.scientific power

/-- The text of a binary number: the fewest digits that read back, with a
period or an exponent in every finite number. -/
def Binary64.text : Binary64 → List Char
  | .nan => ['n', 'a', 'n']
  | .infinite negative => (if negative then ['-'] else []) ++ ['i', 'n', 'f']
  | .finite negative mantissa exponent =>
    (if negative then ['-'] else []) ++
      (if mantissa = 0 then ['0', '.', '0'] else (shortestDecimal mantissa exponent).text)

end QueryLayout
