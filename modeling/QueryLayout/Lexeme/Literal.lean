namespace QueryLayout

/-- The ways of quoting a string or a name. Each one takes a doubled closing
quote for a quote inside. -/
inductive QuoteStyle where
  | backtick
  | bracket
  | double
  | single
  | national
deriving DecidableEq, Repr

def QuoteStyle.name : QuoteStyle → String
  | .backtick => "\x60\x60"
  | .bracket => "[]"
  | .double => "\x22\x22"
  | .single => "\x27\x27"
  | .national => "N\x27\x27"

def QuoteStyle.all : List QuoteStyle :=
  [.backtick, .bracket, .double, .single, .national]

def QuoteStyle.ofName? (name : String) : Option QuoteStyle :=
  QuoteStyle.all.find? fun style => style.name == name

def QuoteStyle.opening : QuoteStyle → List Char
  | .backtick => ['\x60']
  | .bracket => ['[']
  | .double => ['\x22']
  | .single => ['\x27']
  | .national => ['N', '\x27']

def QuoteStyle.closing : QuoteStyle → Char
  | .backtick => '\x60'
  | .bracket => ']'
  | .double => '\x22'
  | .single => '\x27'
  | .national => '\x27'

/-- Whether a backslash takes the character after it along. -/
def QuoteStyle.escapes : QuoteStyle → Bool
  | .backtick | .bracket => false
  | .double | .single | .national => true

/-- How far a literal reaches after its opening quote: through the first
closing quote that is neither doubled nor escaped, or to the end of the text. -/
def literalBody (closing : Char) (escapes : Bool) : List Char → Nat
  | [] => 0
  | [_] => 1
  | c :: next :: rest =>
    if c = closing then
      if next = closing then 2 + literalBody closing escapes rest else 1
    else if escapes && c == '\\' then 2 + literalBody closing escapes rest
    else 1 + literalBody closing escapes (next :: rest)

/-- The length of the literal of this style that a text begins with. -/
def QuoteStyle.extent? (style : QuoteStyle) (text : List Char) : Option Nat :=
  if style.opening.isPrefixOf text then
    some (style.opening.length +
      literalBody style.closing style.escapes (text.drop style.opening.length))
  else none

/-- The length of the literal a text begins with, in the first style that has
one there. -/
def literalExtent? (styles : List QuoteStyle) (text : List Char) : Option Nat :=
  styles.findSome? (·.extent? text)

/-- Replaces the pair `first second` by `second` alone, from left to right. -/
def collapsePair (first second : Char) : List Char → List Char
  | c :: next :: rest =>
    if c = first ∧ next = second then second :: collapsePair first second rest
    else c :: collapsePair first second (next :: rest)
  | short => short

/-- The text inside a literal: the quotes are dropped, and escaped and doubled
closing quotes become plain ones. Of `N\x27…\x27` only the part after the `N`
counts. -/
def unquote (literal : List Char) : List Char :=
  let quoted := if ['N', '\x27'].isPrefixOf literal then literal.drop 1 else literal
  match quoted with
  | [] => []
  | quote :: inner =>
    let closing := if quote = '[' then ']' else quote
    let content := if inner.getLast? = some closing then inner.dropLast else inner
    collapsePair closing closing (collapsePair '\\' closing content)

end QueryLayout
