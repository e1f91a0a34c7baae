import QueryLayout.Text.Blank
import QueryLayout.Text.Digit
import QueryLayout.Text.WordChar

namespace QueryLayout

def isHexDigit (c : Char) : Bool :=
  isAsciiDigit c || ('a' ≤ c && c ≤ 'f') || ('A' ≤ c && c ≤ 'F')

def isBit (c : Char) : Bool :=
  c == '0' || c == '1'

def runLength (p : Char → Bool) (text : List Char) : Nat :=
  (text.takeWhile p).length

/-- Whether `length` characters into a text no word character follows. -/
def endsWord (text : List Char) (length : Nat) : Bool :=
  !(text[length]?).any isWordChar

/-- Digits with an optional fraction. When a word character follows the
fraction, the number ends before the period. -/
def decimalExtent? (text : List Char) : Option Nat :=
  let digits := runLength isAsciiDigit text
  if digits = 0 then none
  else
    let fraction :=
      match text.drop digits with
      | '.' :: rest => runLength isAsciiDigit rest
      | _ => 0
    if fraction ≠ 0 ∧ endsWord text (digits + 1 + fraction) then some (digits + 1 + fraction)
    else if endsWord text digits then some digits
    else none

/-- A number written with a two character lead such as `0x`. -/
def basedExtent? (base : Char) (isDigit : Char → Bool) (text : List Char) : Option Nat :=
  match text with
  | '0' :: mark :: rest =>
    let digits := runLength isDigit rest
    if mark = base ∧ digits ≠ 0 ∧ endsWord text (2 + digits) then some (2 + digits) else none
  | _ => none

/-- A decimal number, with a minus sign and blanks before it if there are
any, or else a hexadecimal or a binary one. A number ends where a word ends. -/
def numberExtent? (text : List Char) : Option Nat :=
  match text with
  | '-' :: rest =>
    let gap := blankRun rest
    (decimalExtent? (rest.drop gap)).map (1 + gap + ·)
  | _ =>
    ((decimalExtent? text).or (basedExtent? 'x' isHexDigit text)).or (basedExtent? 'b' isBit text)

end QueryLayout
