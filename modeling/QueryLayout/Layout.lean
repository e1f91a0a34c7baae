import QueryLayout.Dialect
import QueryLayout.Indent
import QueryLayout.Inline
import QueryLayout.Params

namespace QueryLayout

/-- How a query is to be laid out. -/
structure Style where
  indentUnit : List Char := [' ', ' ']
  params : Params := .absent
  inlineLimit : Int := 50
  rowLimitWords : List String := ["LIMIT"]
deriving DecidableEq, Repr

/-- A layout in progress. `previous` is the token placed last and `visible`
the last one that was not blank; `lastWord` is the last clause or continuation
word. The characters of `output` are in reverse order. -/
structure Layout where
  indent : Indent := []
  inline : Bool := false
  cursor : Nat := 0
  lastWord : Option Token := none
  previous : Option Token := none
  visible : Option Token := none
  output : List Char := []
deriving DecidableEq, Repr

def Layout.write (layout : Layout) (text : List Char) : Layout :=
  { layout with output := text.reverse ++ layout.output }

def Layout.dropBlanks (layout : Layout) : Layout :=
  { layout with output := layout.output.dropWhile isBlank }

def Layout.breakLine (layout : Layout) (style : Style) : Layout :=
  layout.dropBlanks.write ('\n' :: layout.indent.text style.indentUnit)

/-- Drops the blanks at the end of the output, except that the line break
after a line comment must survive. -/
def Layout.tighten (layout : Layout) : Layout :=
  if layout.visible.any (·.kind == .lineComment) then layout.dropBlanks.write ['\n']
  else layout.dropBlanks

def Layout.writeSpaced (layout : Layout) (text : List Char) : Layout :=
  layout.write (text ++ [' '])

def Layout.placeLineComment (layout : Layout) (style : Style) (token : Token) : Layout :=
  (layout.write token.value).breakLine style

/-- The lines of a block comment after the first are pushed in as far as the
code around it. -/
def reindent (indent : List Char) (text : List Char) : List Char :=
  text.flatMap fun c => if c = '\n' then '\n' :: indent else [c]

def Layout.placeBlockComment (layout : Layout) (style : Style) (token : Token) : Layout :=
  let layout := layout.breakLine style
  (layout.write (reindent (layout.indent.text style.indentUnit) token.value)).breakLine style

/-- A clause word stands on a line of its own, one level outside its body. -/
def Layout.placeClause (layout : Layout) (style : Style) (token : Token) : Layout :=
  let outside := { layout with indent := layout.indent.closeClause }.breakLine style
  let inside := { outside with indent := outside.indent.openClause, lastWord := some token }
  (inside.write (squeeze token.value)).breakLine style

def Layout.placeContinuation (layout : Layout) (style : Style) (token : Token) : Layout :=
  { layout.breakLine style with lastWord := some token }.writeSpaced (squeeze token.value)

/-- Tokens after which an opening bracket keeps its distance. -/
def Kind.keepsSpace : Kind → Bool
  | .blank | .opening | .lineComment => true
  | _ => false

def Layout.placeOpening (layout : Layout) (style : Style) (token : Token) (rest : List Token) :
    Layout :=
  let spaced := if layout.previous.any (·.kind.keepsSpace) then layout else layout.dropBlanks
  let inline := staysInline layout.inline style.inlineLimit (token :: rest)
  let opened := { spaced with inline := inline }.write token.value
  if inline then opened
  else { opened with indent := opened.indent.openNesting }.breakLine style

def Layout.placeClosing (layout : Layout) (style : Style) (token : Token) : Layout :=
  if layout.inline then { layout with inline := false }.tighten.writeSpaced token.value
  else
    ({ layout with indent := layout.indent.closeNesting }.breakLine style).writeSpaced token.value

def Layout.placePlaceholder (layout : Layout) (style : Style) (token : Token) : Layout :=
  let (text, cursor) := style.params.resolve layout.cursor token
  { layout with cursor := cursor }.writeSpaced text

/-- Whether the last clause or continuation word bounds the number of rows. -/
def Layout.afterRowLimit (layout : Layout) (style : Style) : Bool :=
  layout.lastWord.any fun word =>
    style.rowLimitWords.any fun limit =>
      upperCase limit.toList == upperCase (squeeze word.value)

/-- A comma ends a line, except in a group on one line and between the bounds
of a row limit. -/
def Layout.placeComma (layout : Layout) (style : Style) (token : Token) : Layout :=
  let placed := layout.tighten.writeSpaced token.value
  if placed.inline || placed.afterRowLimit style then placed else placed.breakLine style

def Layout.placePlain (layout : Layout) (style : Style) (token : Token) : Layout :=
  if token.value = [','] then layout.placeComma style token
  else if token.value = [':'] then layout.tighten.writeSpaced token.value
  else if token.value = ['.'] then layout.tighten.write token.value
  else if token.value = [';'] then layout.tighten.write ('\n' :: token.value ++ ['\n'])
  else layout.writeSpaced token.value

/-- Places a token that the tokens of `rest` follow. Blanks are dropped, since
all spacing is made anew. -/
def Layout.place (layout : Layout) (style : Style) (token : Token) (rest : List Token) : Layout :=
  match token.kind with
  | .blank => layout
  | .lineComment => layout.placeLineComment style token
  | .blockComment => layout.placeBlockComment style token
  | .clause => layout.placeClause style token
  | .continuation => layout.placeContinuation style token
  | .opening => layout.placeOpening style token rest
  | .closing => layout.placeClosing style token
  | .placeholder => layout.placePlaceholder style token
  | .word | .literal | .number | .operator | .reserved => layout.placePlain style token

/-- Places a token and remembers it. -/
def Layout.step (layout : Layout) (style : Style) (token : Token) (rest : List Token) : Layout :=
  { layout.place style token rest with
    previous := some token
    visible := if token.kind = .blank then layout.visible else some token }

/-- Whether a token begins a new line, or the text after it does. The lines
around a semicolon do not count, since they are never indented. -/
def Layout.breaksAt (layout : Layout) (style : Style) (token : Token) (rest : List Token) : Bool :=
  match token.kind with
  | .blank | .placeholder => false
  | .lineComment | .blockComment | .clause | .continuation => true
  | .opening => !staysInline layout.inline style.inlineLimit (token :: rest)
  | .closing => !layout.inline
  | .word | .literal | .number | .operator | .reserved =>
    token.value == [','] && !layout.inline && !layout.afterRowLimit style

/-- Whether any of the tokens leads to an indented line. -/
def Layout.breaksAny (style : Style) : Layout → List Token → Bool
  | _, [] => false
  | layout, token :: rest =>
    layout.breaksAt style token rest || breaksAny style (layout.step style token rest) rest

/-- The layouts after each of the tokens. -/
def Layout.trace (style : Style) : Layout → List Token → List Layout
  | _, [] => []
  | layout, token :: rest =>
    let next := layout.step style token rest
    next :: trace style next rest

def Layout.run (style : Style) : Layout → List Token → Layout
  | layout, [] => layout
  | layout, token :: rest => run style (layout.step style token rest) rest

def Layout.ofTokens (style : Style) (tokens : List Token) : Layout :=
  Layout.run style {} tokens

/-- The text laid out so far, in reading order. -/
def Layout.text (layout : Layout) : List Char :=
  layout.output.reverse

def layoutTokens (style : Style) (tokens : List Token) : List Char :=
  trim (Layout.ofTokens style tokens).text

/-- Lays out a query read with the given rules. -/
def layoutQuery (rules : List Rule) (style : Style) (query : List Char) : List Char :=
  layoutTokens style (tokenize rules query)

/-- The style for a dialect, which sets the length of inline groups and the
row limit words. -/
def Dialect.style (dialect : Dialect) (indentUnit : List Char) (params : Params) : Style where
  indentUnit := indentUnit
  params := params
  inlineLimit := dialect.inlineLimit
  rowLimitWords := dialect.rowLimitWords

/-- Lays out a query of a dialect. -/
def Dialect.format (dialect : Dialect) (indentUnit : List Char) (params : Params)
    (query : List Char) : List Char :=
  layoutQuery dialect.rules (dialect.style indentUnit params) query

end QueryLayout
