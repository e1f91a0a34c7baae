import QueryLayout.Token

namespace QueryLayout

/-- Kinds of token that never stand inside a group on one line. -/
def Kind.breaksGroup : Kind → Bool
  | .clause | .continuation | .lineComment | .blockComment => true
  | _ => false

/-- Looks ahead for the end of a group, `level` brackets deep and `length`
characters into it. -/
def groupCloses (limit : Int) : Int → Int → List Token → Bool
  | _, _, [] => false
  | level, length, token :: rest =>
    let length := length + token.value.length
    if limit < length then false
    else
      match token.kind with
      | .opening => if 0 < level then false else groupCloses limit (level + 1) length rest
      | .closing => if level = 1 then true else groupCloses limit (level - 1) length rest
      | kind =>
        if kind.breaksGroup || token.value == [';'] then false
        else groupCloses limit level length rest

/-- Whether the group that the tokens begin with fits on one line. It must
close again within `limit` characters, blanks included, and hold no other
bracket, comment, clause or continuation word, or semicolon. -/
def isInlineGroup (limit : Int) (tokens : List Token) : Bool :=
  groupCloses limit 0 0 tokens

/-- Whether text stays on one line after the bracket that the tokens begin
with. Inside a group on one line no other one begins. -/
def staysInline (inline : Bool) (limit : Int) (tokens : List Token) : Bool :=
  inline || isInlineGroup limit tokens

end QueryLayout
