namespace QueryLayout

/-- What a token is, as far as the layout of a query cares. A clause word
such as `SELECT` opens an indented body, a continuation word such as `AND`
starts a line, and any other reserved word stays where it stands. Brackets
include word brackets such as `CASE` and `END`. -/
inductive Kind where
  | blank
  | word
  | literal
  | number
  | operator
  | placeholder
  | reserved
  | clause
  | continuation
  | opening
  | closing
  | lineComment
  | blockComment
deriving DecidableEq, Repr

def Kind.label : Kind → String
  | .blank => "WHITESPACE"
  | .word => "WORD"
  | .literal => "STRING"
  | .number => "NUMBER"
  | .operator => "OPERATOR"
  | .placeholder => "PLACEHOLDER"
  | .reserved => "RESERVED"
  | .clause => "RESERVED_TOPLEVEL"
  | .continuation => "RESERVED_NEWLINE"
  | .opening => "OPEN_PAREN"
  | .closing => "CLOSE_PAREN"
  | .lineComment => "LINE_COMMENT"
  | .blockComment => "BLOCK_COMMENT"

def Kind.all : List Kind :=
  [.blank, .word, .literal, .number, .operator, .placeholder, .reserved, .clause,
    .continuation, .opening, .closing, .lineComment, .blockComment]

def Kind.ofLabel? (label : String) : Option Kind :=
  Kind.all.find? fun kind => kind.label == label

/-- Brackets and reserved words are shown in upper case. -/
def Kind.isUpperCased : Kind → Bool
  | .reserved | .clause | .continuation | .opening | .closing => true
  | _ => false

/-- One piece of a query. `raw` is the text it was read from and `value` its
canonical form. `key` is the name under which a placeholder is looked up, and
empty for every other kind. -/
structure Token where
  kind : Kind
  value : List Char
  raw : List Char
  key : List Char := []
deriving DecidableEq, Repr

end QueryLayout
