import QueryLayout.Text.Quoted
import QueryLayout.Token

namespace QueryLayout

def padLeft (width : Nat) (text : List Char) : List Char :=
  List.replicate (width - text.length) ' ' ++ text

/-- The line for one token: its index, its kind, its value in quotes, and the
key of a placeholder. -/
def dumpLine (width index : Nat) (token : Token) : List Char :=
  padLeft width (Nat.toDigits 10 index) ++ [' '] ++ token.kind.label.toList ++ [' '] ++
    displayText token.value ++
    (if token.kind = .placeholder then " key=".toList ++ displayText token.key else []) ++ ['\n']

def dumpFrom (width : Nat) : Nat → List Token → List Char
  | _, [] => []
  | index, token :: rest => dumpLine width index token ++ dumpFrom width (index + 1) rest

/-- One line for every token. All indices are as wide as the number of
tokens. -/
def dumpTokens (tokens : List Token) : List Char :=
  dumpFrom (Nat.toDigits 10 tokens.length).length 0 tokens

end QueryLayout
