import QueryLayout.Toml.Text

namespace QueryLayout.Toml

def isDecimalDigit (c : Char) : Bool :=
  '0' ≤ c && c ≤ '9'

/-- Digits that single underscores may divide. The underscores are dropped. -/
def groupedDigits (isDigit : Char → Bool) : List Char → List Char × List Char
  | '_' :: c :: rest =>
    if isDigit c then
      let (digits, after) := groupedDigits isDigit rest
      (c :: digits, after)
    else ([], '_' :: c :: rest)
  | c :: rest =>
    if isDigit c then
      let (digits, after) := groupedDigits isDigit rest
      (c :: digits, after)
    else ([], c :: rest)
  | [] => ([], [])

/-- At least one digit, and then more in groups. -/
def digits? (isDigit : Char → Bool) (text : List Char) : Option (List Char × List Char) :=
  match text with
  | c :: _ => if isDigit c then some (groupedDigits isDigit text) else none
  | [] => none

def digitsValue (base : Nat) (digits : List Char) : Nat :=
  digits.foldl (fun value c => value * base + (hexDigitValue? c).getD 0) 0

/-- The base that a letter after a leading zero stands for. -/
def baseOf? : Char → Option Nat
  | 'x' => some 16
  | 'b' => some 2
  | 'o' => some 8
  | _ => none

def basedInteger? (text : List Char) : Option (Value × List Char) :=
  match text with
  | '0' :: mark :: rest =>
    (baseOf? mark).bind fun base =>
      (digits? (fun c => (hexDigitValue? c).any (· < base)) rest).map fun (digits, after) =>
        (.integer (digitsValue base digits), after)
  | _ => none

def splitSign (text : List Char) : Bool × List Char :=
  match text with
  | '-' :: rest => (true, rest)
  | '+' :: rest => (false, rest)
  | _ => (false, text)

def fraction? (text : List Char) : Option (List Char × List Char) :=
  match text with
  | '.' :: rest => digits? isDecimalDigit rest
  | _ => none

def exponent? (text : List Char) : Option (Int × List Char) :=
  match text with
  | c :: rest =>
    if c = 'e' ∨ c = 'E' then
      let (negative, unsigned) := splitSign rest
      (digits? isDecimalDigit unsigned).map fun (digits, after) =>
        let size : Int := digitsValue 10 digits
        (if negative then -size else size, after)
    else none
  | [] => none

/-- The whole part of a decimal number has no zeros in front. -/
def wholePart? (text : List Char) : Option (List Char × List Char) :=
  match text with
  | '0' :: rest => some (['0'], rest)
  | _ => digits? isDecimalDigit text

/-- A decimal number is a float as soon as it has a fraction or an exponent. Only
an integer can have too many digits. -/
def decimalNumber? (text : List Char) : Option (Except Problem (Value × List Char)) :=
  let (negative, unsigned) := splitSign text
  (wholePart? unsigned).map fun (whole, afterWhole) =>
    let fraction := fraction? afterWhole
    let afterFraction := (fraction.map Prod.snd).getD afterWhole
    let exponent := exponent? afterFraction
    if fraction.isNone && exponent.isNone then
      let size : Int := digitsValue 10 whole
      if mostDigits < whole.length then .error (.longInteger whole.length)
      else .ok (.integer (if negative then -size else size), afterWhole)
    else
      let decimals := (fraction.map Prod.fst).getD []
      let power := (exponent.map Prod.fst).getD 0
      let size := digitsValue 10 (whole ++ decimals)
      .ok (.float (.ofDecimal negative size (power - decimals.length)),
        (exponent.map Prod.snd).getD afterFraction)

/-- Two digits whose value lies between the bounds. -/
def twoDigits? (low high : Nat) (text : List Char) : Option (Nat × List Char) :=
  match text with
  | a :: b :: rest =>
    let value := digitsValue 10 [a, b]
    if isDecimalDigit a && isDecimalDigit b && low ≤ value && value ≤ high then some (value, rest)
    else none
  | _ => none

def expect? (c : Char) (text : List Char) : Option (List Char) :=
  match text with
  | d :: rest => if d = c then some rest else none
  | [] => none

def date? (text : List Char) : Option (Date × List Char) := do
  let year := text.take 4
  if year.length = 4 ∧ year.all isDecimalDigit then
    let rest ← expect? '-' (text.drop 4)
    let (month, rest) ← twoDigits? 1 12 rest
    let rest ← expect? '-' rest
    let (day, rest) ← twoDigits? 1 31 rest
    some (⟨digitsValue 10 year, month, day⟩, rest)
  else none

/-- The digits after the seconds, of which six count. -/
def micros (text : List Char) : Nat × List Char :=
  match text with
  | '.' :: rest =>
    let digits := rest.takeWhile isDecimalDigit
    if digits.isEmpty then (0, text)
    else
      let kept := digits.take 6
      (digitsValue 10 kept * Nat.pow 10 (6 - kept.length), rest.drop digits.length)
  | _ => (0, text)

def time? (text : List Char) : Option (Time × List Char) := do
  let (hour, rest) ← twoDigits? 0 23 text
  let rest ← expect? ':' rest
  let (minute, rest) ← twoDigits? 0 59 rest
  let rest ← expect? ':' rest
  let (second, rest) ← twoDigits? 0 59 rest
  let (fraction, rest) := micros rest
  some (⟨hour, minute, second, fraction⟩, rest)

def offset? (text : List Char) : Option (Int × List Char) :=
  match text with
  | [] => none
  | c :: rest =>
    if c = 'Z' ∨ c = 'z' then some (0, rest)
    else if c = '+' ∨ c = '-' then do
      let (hour, rest) ← twoDigits? 0 23 rest
      let rest ← expect? ':' rest
      let (minute, rest) ← twoDigits? 0 59 rest
      let size : Int := hour * 60 + minute
      some (if c = '-' then -size else size, rest)
    else none

/-- The time of day that a separator and a time after a date make up. -/
def timeAfterDate? (text : List Char) : Option (Time × List Char) :=
  match text with
  | c :: rest => if c = 'T' ∨ c = 't' ∨ c = ' ' then time? rest else none
  | [] => none

def moment (date : Date) (text : List Char) : Value × List Char :=
  match timeAfterDate? text with
  | none => (.date date, text)
  | some (time, afterTime) =>
    match offset? afterTime with
    | none => (.dateTime ⟨date, time, none⟩, afterTime)
    | some (minutes, rest) => (.dateTime ⟨date, time, some minutes⟩, rest)

/-- Words that stand for a value. -/
def keywords : List (String × Value) := [
  ("true", .boolean true), ("false", .boolean false),
  ("inf", .float (.infinite false)), ("nan", .float .nan),
  ("-inf", .float (.infinite true)), ("+inf", .float (.infinite false)),
  ("-nan", .float .nan), ("+nan", .float .nan)]

def keyword? (text : List Char) : Option (Value × List Char) :=
  keywords.findSome? fun (word, value) =>
    if word.toList.isPrefixOf text then some (value, text.drop word.length) else none

def number? (text : List Char) : Option (Except Problem (Value × List Char)) :=
  ((basedInteger? text).map .ok).or (decimalNumber? text)

/-- A value that holds no other value. -/
def readScalar (text : List Char) : Except Problem (Value × List Char) :=
  if text.head?.any fun c => c == '\x22' || c == '\x27' then
    (readText text).map fun (value, rest) => (.text value, rest)
  else
    match date? text with
    | some (date, rest) => if date.isValid then .ok (moment date rest) else .error .badDate
    | none =>
      match time? text with
      | some (time, rest) => .ok (.time time, rest)
      | none =>
        match (number? text).or ((keyword? text).map .ok) with
        | some result => result
        | none => .error .unexpected

end QueryLayout.Toml
