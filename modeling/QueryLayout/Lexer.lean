import QueryLayout.Rule

namespace QueryLayout

/-- The token at the start of the text `c :: rest`: that of the first rule
that reads one, and otherwise the single character `c`. -/
def nextToken (rules : List Rule) (previous : Option Token) (c : Char) (rest : List Char) :
    Token :=
  (rules.findSome? (·.read? previous (c :: rest))).getD (Token.ofRaw .operator [c] [])

/-- Reads a text from left to right. `skip` counts the characters that the
token before still covers. -/
def scan (rules : List Rule) : Option Token → Nat → List Char → List Token
  | _, _, [] => []
  | previous, skip + 1, _ :: rest => scan rules previous skip rest
  | previous, 0, c :: rest =>
    let token := nextToken rules previous c rest
    token :: scan rules (some token) (token.raw.length - 1) rest

/-- Cuts a text into tokens. Any text can be read, and the raw texts of the
tokens concatenate to it. -/
def tokenize (rules : List Rule) (text : List Char) : List Token :=
  scan rules none 0 text

end QueryLayout
