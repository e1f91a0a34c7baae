import QueryLayout.Text.Blank
import QueryLayout.Text.Digit

namespace QueryLayout

/-- Blanks that may stand around a number: all but the four separators of the
control range. -/
def isOuterBlank (c : Char) : Bool :=
  isBlank c && !(0x1c ≤ c.toNat && c.toNat ≤ 0x1f)

/-- Decimal digits of any script, with single underscores between them. -/
def digitValues? : List Char → Option (List Nat)
  | [] => none
  | [c] => (decimalValue? c).map ([·])
  | c :: '_' :: rest => do
    let digit ← decimalValue? c
    let digits ← digitValues? rest
    some (digit :: digits)
  | c :: rest => do
    let digit ← decimalValue? c
    let digits ← digitValues? rest
    some (digit :: digits)

/-- A number with more digits is neither read nor shown. -/
def mostDigits : Nat := 4300

def natural? (text : List Char) : Option Nat := do
  let digits ← digitValues? text
  if digits.length ≤ mostDigits then
    some (digits.foldl (fun value digit => value * 10 + digit) 0)
  else none

/-- An integer in decimal, with an optional sign and blanks around it. -/
def integer? (text : List Char) : Option Int :=
  let inner := ((text.dropWhile isOuterBlank).reverse.dropWhile isOuterBlank).reverse
  match inner with
  | '-' :: rest => (natural? rest).map fun n => -(n : Int)
  | '+' :: rest => (natural? rest).map fun n => (n : Int)
  | _ => (natural? inner).map fun n => (n : Int)

end QueryLayout
