import QueryLayout.Lexeme.Literal
import QueryLayout.Lexeme.Phrase
import QueryLayout.Text.Digit

namespace QueryLayout

/-- How many characters are taken from the start of a text, and the lookup name
if they are a placeholder. -/
structure Match where
  length : Nat
  key : List Char := []
deriving DecidableEq, Repr

def isKeyChar (c : Char) : Bool :=
  ('a' ≤ c && c ≤ 'z') || ('A' ≤ c && c ≤ 'Z') || isAsciiDigit c ||
    c == '.' || c == '_' || c == '$'

/-- The first mark that a name follows, and the name. -/
def namedMatch? (marks : List Phrase) (text : List Char) : Option Match :=
  marks.findSome? fun mark =>
    (mark.extent? (· == ·) text).bind fun lead =>
      let key := (text.drop lead).takeWhile isKeyChar
      if key.isEmpty then none else some ⟨lead + key.length, key⟩

/-- The first mark that a literal follows, and the content of the literal. -/
def quotedMatch? (marks : List Phrase) (styles : List QuoteStyle) (text : List Char) :
    Option Match :=
  marks.findSome? fun mark =>
    (mark.extent? (· == ·) text).bind fun lead =>
      (literalExtent? styles (text.drop lead)).map fun length =>
        ⟨lead + length, unquote ((text.drop lead).take length)⟩

/-- The first mark, and the digits after it if there are any. -/
def positionalMatch? (marks : List Phrase) (text : List Char) : Option Match :=
  (markExtent? marks text).map fun lead =>
    let key := (text.drop lead).takeWhile isAsciiDigit
    ⟨lead + key.length, key⟩

end QueryLayout
