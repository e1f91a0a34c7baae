namespace QueryLayout

/-- Why a line is indented: it stands in the body of a clause, or inside a
bracket that is not laid out on one line. -/
inductive IndentMark where
  | clause
  | nesting
deriving DecidableEq, Repr

/-- The reasons for the current indentation, the innermost first. -/
abbrev Indent := List IndentMark

def Indent.depth (indent : Indent) : Nat :=
  indent.length

/-- The unit once for every mark. -/
def Indent.text (indent : Indent) (unit : List Char) : List Char :=
  (List.replicate indent.depth unit).flatten

def Indent.openClause (indent : Indent) : Indent :=
  .clause :: indent

def Indent.openNesting (indent : Indent) : Indent :=
  .nesting :: indent

/-- Ends the innermost clause, unless a bracket was opened inside it. -/
def Indent.closeClause : Indent → Indent
  | .clause :: outer => outer
  | indent => indent

/-- Ends the innermost bracket together with the clauses inside it, so that
a subquery leaves no indentation behind. -/
def Indent.closeNesting : Indent → Indent
  | [] => []
  | .nesting :: outer => outer
  | .clause :: outer => closeNesting outer

end QueryLayout
