import QueryLayout.Lexeme.Comment
import QueryLayout.Lexeme.Number
import QueryLayout.Lexeme.Operator
import QueryLayout.Lexeme.Placeholder
import QueryLayout.Lexicon
import QueryLayout.Text.UpperCase
import QueryLayout.Token

namespace QueryLayout

inductive BracketSide where
  | opening
  | closing
deriving DecidableEq, Repr

/-- The three classes of reserved words. -/
inductive ReservedClass where
  | clause
  | continuation
  | plain
deriving DecidableEq, Repr

/-- One way of reading a token at the start of a text. -/
inductive Rule where
  | blank
  | lineComment (marks : List Phrase)
  | blockComment
  | literal (styles : List QuoteStyle)
  | bracketSymbol (side : BracketSide) (symbols : List Char)
  | bracketWord (side : BracketSide) (words : List Phrase)
  | namedPlaceholder (marks : List Phrase)
  | quotedPlaceholder (marks : List Phrase) (styles : List QuoteStyle)
  | positionalPlaceholder (marks : List Phrase)
  | number
  | reserved (reservedClass : ReservedClass) (words : List Phrase)
  | word (extra : List Char)
  | operator
deriving DecidableEq, Repr

def BracketSide.kind : BracketSide → Kind
  | .opening => .opening
  | .closing => .closing

def ReservedClass.kind : ReservedClass → Kind
  | .clause => .clause
  | .continuation => .continuation
  | .plain => .reserved

/-- The kind of the tokens that a rule reads. -/
def Rule.kind : Rule → Kind
  | .blank => .blank
  | .lineComment _ => .lineComment
  | .blockComment => .blockComment
  | .literal _ => .literal
  | .bracketSymbol side _ => side.kind
  | .bracketWord side _ => side.kind
  | .namedPlaceholder _ => .placeholder
  | .quotedPlaceholder _ _ => .placeholder
  | .positionalPlaceholder _ => .placeholder
  | .number => .number
  | .reserved reservedClass _ => reservedClass.kind
  | .word _ => .word
  | .operator => .operator

/-- A rule whose entries are whole words. Right after a period such a word is
a name: the `from` of `mytable.from` is a column. -/
def Rule.yieldsToPeriod : Rule → Bool
  | .bracketWord _ _ => true
  | .reserved _ _ => true
  | _ => false

/-- What a rule finds at the start of a text, where `before` is the character
that the text follows. The match may be empty. -/
def Rule.match? (rule : Rule) (before : Option Char) (text : List Char) : Option Match :=
  match rule with
  | .blank => some ⟨blankRun text, []⟩
  | .lineComment marks =>
    (markExtent? marks text).map fun lead => ⟨lead + lineLength (text.drop lead), []⟩
  | .blockComment =>
    match text with
    | '/' :: '*' :: rest => some ⟨2 + commentBody rest, []⟩
    | _ => none
  | .literal styles => (literalExtent? styles text).map (⟨·, []⟩)
  | .bracketSymbol _ symbols => if text.head?.any symbols.contains then some ⟨1, []⟩ else none
  | .bracketWord _ words =>
    if boundaryAt before text 0 then (wordExtent? words before text).map (⟨·, []⟩) else none
  | .namedPlaceholder marks => namedMatch? marks text
  | .quotedPlaceholder marks styles => quotedMatch? marks styles text
  | .positionalPlaceholder marks => positionalMatch? marks text
  | .number => (numberExtent? text).map (⟨·, []⟩)
  | .reserved _ words => (wordExtent? words before text).map (⟨·, []⟩)
  | .word extra => some ⟨runLength (fun c => isWordChar c || extra.contains c) text, []⟩
  | .operator => some ⟨operatorExtent text, []⟩

def Token.ofRaw (kind : Kind) (raw key : List Char) : Token where
  kind := kind
  value := if kind.isUpperCased then upperCase raw else raw
  raw := raw
  key := key

/-- The character that the text after a token follows. -/
def lastChar (previous : Option Token) : Option Char :=
  previous.bind (·.raw.getLast?)

def followsPeriod (previous : Option Token) : Bool :=
  previous.any fun token => token.value == ['.']

/-- The token that a rule reads at the start of a text. An empty match is no
token. -/
def Rule.read? (rule : Rule) (previous : Option Token) (text : List Char) : Option Token :=
  if rule.yieldsToPeriod && followsPeriod previous then none
  else
    match rule.match? (lastChar previous) text with
    | none => none
    | some found =>
      if found.length = 0 then none
      else some (Token.ofRaw rule.kind (text.take found.length) found.key)

def unlessEmpty {α : Type} (entries : List α) (rule : Rule) : List Rule :=
  if entries.isEmpty then [] else [rule]

/-- Brackets of one character are symbols, and longer ones are words. -/
def bracketRules (side : BracketSide) (brackets : List String) : List Rule :=
  let symbols := (brackets.map String.toList).filterMap fun
    | [c] => some c
    | _ => none
  let words := brackets.filter fun bracket => 1 < bracket.length
  unlessEmpty symbols (.bracketSymbol side symbols) ++
    unlessEmpty words (.bracketWord side (phrases words))

def placeholderRules (lexicon : Lexicon) : List Rule :=
  let named := phrases lexicon.namedMarks
  unlessEmpty named (.namedPlaceholder named) ++
    (if named.isEmpty then []
      else unlessEmpty lexicon.quoteStyles (.quotedPlaceholder named lexicon.quoteStyles)) ++
    unlessEmpty lexicon.positionalMarks (.positionalPlaceholder (phrases lexicon.positionalMarks))

def reservedRule (reservedClass : ReservedClass) (words : List String) : List Rule :=
  unlessEmpty words (.reserved reservedClass (phrases words))

/-- The rules of a lexicon in the order they are tried. What the lexicon
leaves empty has no rule, and the last rule takes any character. -/
def Lexicon.rules (lexicon : Lexicon) : List Rule :=
  [.blank] ++
    unlessEmpty lexicon.lineCommentMarks (.lineComment (phrases lexicon.lineCommentMarks)) ++
    [.blockComment] ++
    unlessEmpty lexicon.quoteStyles (.literal lexicon.quoteStyles) ++
    bracketRules .opening lexicon.openBrackets ++
    bracketRules .closing lexicon.closeBrackets ++
    placeholderRules lexicon ++
    [.number] ++
    reservedRule .clause lexicon.clauseWords ++
    reservedRule .continuation lexicon.continuationWords ++
    reservedRule .plain lexicon.reservedWords ++
    [.word lexicon.extraWordChars, .operator]

end QueryLayout
