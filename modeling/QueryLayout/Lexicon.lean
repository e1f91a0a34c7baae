import QueryLayout.Lexeme.Literal
import QueryLayout.Text.Quoted

namespace QueryLayout

/-- What sets one variant of the query language apart from another: its
reserved words by class, its quotes, brackets and placeholders, and the
characters beyond letters and digits that may stand in a name. -/
structure Lexicon where
  reservedWords : List String := []
  clauseWords : List String := []
  continuationWords : List String := []
  quoteStyles : List QuoteStyle := []
  openBrackets : List String := ["("]
  closeBrackets : List String := [")"]
  positionalMarks : List String := []
  namedMarks : List String := []
  lineCommentMarks : List String := []
  extraWordChars : List Char := []
deriving DecidableEq, Repr

/-- A name that belongs to no quote style. -/
structure UnknownQuoteStyle where
  name : String
deriving DecidableEq, Repr

def UnknownQuoteStyle.message (error : UnknownQuoteStyle) : String :=
  "unknown string type: " ++ displayString error.name

/-- The quote styles with the given names. The first name without a style is
an error. -/
def quoteStyles : List String → Except UnknownQuoteStyle (List QuoteStyle)
  | [] => .ok []
  | name :: later =>
    match QuoteStyle.ofName? name with
    | none => .error ⟨name⟩
    | some style => (quoteStyles later).map (style :: ·)

end QueryLayout
