import QueryLayout.Toml.Value

namespace QueryLayout.Toml

/-- Why a text is not read as a TOML document. An integer with too many digits
is well-formed, but its value is not found. -/
inductive Problem where
  | unexpected
  | unterminated
  | badEscape
  | badDate
  | redefined
  | longInteger (digits : Nat)
deriving DecidableEq, Repr

def Problem.message : Problem → String
  | .unexpected => "unexpected text"
  | .unterminated => "a string, an array or a table does not end"
  | .badEscape => "a backslash stands before no escape"
  | .badDate => "a date does not exist"
  | .redefined => "a name is defined twice"
  | .longInteger digits => "an integer has " ++ toString digits ++ " digits"

/-- Control characters must not stand in a document, apart from tabs and from
line feeds where a text may have several lines. -/
def isForbidden (multiline : Bool) (c : Char) : Bool :=
  (c.toNat < 0x20 || c.toNat == 0x7f) && c != '\t' && !(multiline && c == '\n')

def prepend (c : Char) (result : Except Problem (List Char × List Char)) :
    Except Problem (List Char × List Char) :=
  result.map fun (text, rest) => (c :: text, rest)

/-- A string in single quotes, after the opening one. Nothing is escaped. -/
def readLiteral : List Char → Except Problem (List Char × List Char)
  | [] => .error .unterminated
  | c :: rest =>
    if c = '\x27' then .ok ([], rest)
    else if isForbidden false c then .error .unexpected
    else prepend c (readLiteral rest)

def readLongLiteral : List Char → Except Problem (List Char × List Char)
  | '\x27' :: '\x27' :: '\x27' :: rest => .ok ([], rest)
  | c :: rest => if isForbidden true c then .error .unexpected else prepend c (readLongLiteral rest)
  | [] => .error .unterminated

def hexDigitValue? (c : Char) : Option Nat :=
  if '0' ≤ c ∧ c ≤ '9' then some (c.toNat - '0'.toNat)
  else if 'a' ≤ c ∧ c ≤ 'f' then some (c.toNat - 'a'.toNat + 10)
  else if 'A' ≤ c ∧ c ≤ 'F' then some (c.toNat - 'A'.toNat + 10)
  else none

/-- The character whose code point is written in base sixteen. -/
def hexChar? (digits : List Char) : Option Char :=
  match digits.mapM hexDigitValue? with
  | none => none
  | some values =>
    let code := values.foldl (fun code digit => code * 16 + digit) 0
    if code < 0xd800 ∨ (0xdfff < code ∧ code ≤ 0x10ffff) then some (Char.ofNat code) else none

def simpleEscape? : Char → Option Char
  | 'b' => some '\x08'
  | 't' => some '\t'
  | 'n' => some '\n'
  | 'f' => some '\x0c'
  | 'r' => some '\r'
  | '\x22' => some '\x22'
  | '\\' => some '\\'
  | _ => none

/-- Where a string with several lines stands after a backslash at the end of
a line: nowhere, before the break, or among the blanks after it. -/
inductive LineGap where
  | none
  | beforeBreak
  | afterBreak
deriving DecidableEq, Repr

/-- A string in double quotes, after the opening ones. -/
def readBasic (multiline : Bool) :
    LineGap → List Char → Except Problem (List Char × List Char)
  | _, [] => .error .unterminated
  | gap, c :: rest =>
    if gap ≠ .none ∧ (c = ' ' ∨ c = '\t') then readBasic multiline gap rest
    else if gap ≠ .none ∧ c = '\n' then readBasic multiline .afterBreak rest
    else if gap = .beforeBreak then .error .badEscape
    else if c = '\x22' then
      if multiline then
        match rest with
        | '\x22' :: '\x22' :: after => .ok ([], after)
        | _ => prepend c (readBasic multiline .none rest)
      else .ok ([], rest)
    else if c = '\\' then
      match rest with
      | 'u' :: a :: b :: c :: d :: after =>
        match hexChar? [a, b, c, d] with
        | some found => prepend found (readBasic multiline .none after)
        | none => .error .badEscape
      | 'U' :: a :: b :: c :: d :: e :: f :: g :: h :: after =>
        match hexChar? [a, b, c, d, e, f, g, h] with
        | some found => prepend found (readBasic multiline .none after)
        | none => .error .badEscape
      | e :: after =>
        if multiline && e == '\n' then readBasic multiline .afterBreak after
        else if multiline && (e == ' ' || e == '\t') then readBasic multiline .beforeBreak after
        else
          match simpleEscape? e with
          | some found => prepend found (readBasic multiline .none after)
          | none => .error .badEscape
      | [] => .error .unterminated
    else if isForbidden multiline c then .error .unexpected
    else prepend c (readBasic multiline .none rest)

/-- One or two more quotes right before the end belong to the string. -/
def addQuotes (quote : Char) (result : List Char × List Char) : List Char × List Char :=
  let extra := ((result.2.take 2).takeWhile (· == quote)).length
  (result.1 ++ List.replicate extra quote, result.2.drop extra)

def dropBreak : List Char → List Char
  | '\n' :: rest => rest
  | text => text

/-- A string in any of the four ways to write one. -/
def readText (text : List Char) : Except Problem (List Char × List Char) :=
  match text with
  | '\x22' :: '\x22' :: '\x22' :: rest =>
    (readBasic true .none (dropBreak rest)).map (addQuotes '\x22')
  | '\x22' :: rest => readBasic false .none rest
  | '\x27' :: '\x27' :: '\x27' :: rest =>
    (readLongLiteral (dropBreak rest)).map (addQuotes '\x27')
  | '\x27' :: rest => readLiteral rest
  | _ => .error .unexpected

end QueryLayout.Toml
