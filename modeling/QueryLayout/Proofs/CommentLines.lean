import QueryLayout.Proofs.Nesting
import QueryLayout.Proofs.Stability

namespace QueryLayout

/-- Whether a token is written right behind what comes before it. An opening bracket is, unless it follows
a blank. -/
def Token.closesUp (token : Token) (close : Bool) : Bool :=
  (token.kind.isPlain && [[','], [':'], ['.']].contains token.value) || (token.kind == .opening && close)

/-- Whether a placeholder is given a text that does not show, `index` others being passed before. -/
def Params.hides (params : Params) (index : Nat) (token : Token) : Bool :=
  token.kind == .placeholder && (params.textAt index token).all isBlank

/-- Whether the first of the tokens that shows is written behind the line comment before them: `hidden` if
a placeholder that does not show has been passed since the comment, and `close` if it stands right before. -/
def Params.engulfs (params : Params) (hidden close : Bool) (index : Nat) : List Token → Bool
  | [] => false
  | token :: rest =>
    if token.kind = .blank then params.engulfs hidden false index rest
    else if params.hides index token then params.engulfs true true (index + 1) rest
    else hidden && token.closesUp close

/-- Whether any line comment takes in a token after it. -/
def Params.swallows (params : Params) (index : Nat) : List Token → Bool
  | [] => false
  | token :: rest =>
    (token.kind == .lineComment && params.engulfs false false index rest) ||
      params.swallows (countPlaceholder index token) rest

/-- A text that is over, or goes on in the next line. -/
def EndsLine (text : List Char) : Prop :=
  text = [] ∨ ∃ later, text = '\n' :: later

/-- A line comment was the last token to show. The line break after it is not made anew before a comma if a
placeholder has been passed since (`hidden`), and an opening bracket closes up to the placeholder if nothing
stands between them (`close`). -/
structure Layout.AfterComment (layout : Layout) (hidden close : Bool) : Prop where
  outside : layout.inline = false
  tail : ∃ later, layout.tail = '\n' :: later
  tightGap : layout.tightGap = if hidden then [] else ['\n']
  spaced : layout.previous.any (·.kind.keepsSpace) = !(hidden && close)

variable {style : Style} {layout : Layout} {token : Token} {rest : List Token} {hidden close : Bool}

/-- Nothing but a placeholder is hidden. -/
theorem Layout.hides_iff {index : Nat} (layout : Layout) (shows : token.Shows) (notBlank : token.kind ≠ .blank)
    (reached : style.params.Reached layout.cursor index) :
    style.params.hides index token ↔ IsGap (layout.written style token) := by
  by_cases kind : token.kind = .placeholder
  · have written : layout.written style token = style.params.textAt index token := by
      simp only [Layout.written, kind]
      exact (Params.Reached.resolve reached token).1
    rw [written]
    simp [Params.hides, kind, IsGap]
  · have shown := (layout.written_visible_of_kind style shows notBlank kind).1
    rw [← trimEnd_eq_nil_iff]
    simp [Params.hides, kind, shown]

theorem Layout.AfterComment.step_hidden (after : layout.AfterComment hidden close)
    (isPlaceholder : token.kind = .placeholder) (unseen : IsGap (layout.written style token)) (rest : List Token) :
    (layout.step style token rest).AfterComment true true := by
  obtain ⟨later, tail⟩ := after.tail
  refine ⟨?_, ?_, ?_, ?_⟩
  · rw [layout.inline_step, isPlaceholder]
    exact after.outside
  · rw [(layout.step_hidden isPlaceholder unseen).2, tail]
    exact ⟨_, rfl⟩
  · simp [Layout.tightGap, Layout.step, isPlaceholder]
  · simp [Layout.step, isPlaceholder, Kind.keepsSpace]

theorem Layout.AfterComment.step_blank (after : layout.AfterComment hidden close) (blank : token.kind = .blank)
    (rest : List Token) : (layout.step style token rest).AfterComment hidden false := by
  refine ⟨?_, ?_, ?_, ?_⟩
  · rw [layout.inline_step, blank]
    exact after.outside
  · rw [Layout.tail, (layout.step_blank blank).1]
    exact after.tail
  · simpa [Layout.tightGap, Layout.step, blank] using after.tightGap
  · simp [Layout.step, blank, Kind.keepsSpace]

/-- A line comment ends its line. -/
theorem Layout.afterComment_step (closes : layout.Closes style (token :: rest))
    (comment : token.kind = .lineComment) (visible : trimEnd (layout.written style token) ≠ [])
    (blankUnit : IsGap style.indentUnit) :
    (layout.step style token rest).AfterComment false false := by
  have notBlank : token.kind ≠ .blank := by simp [comment]
  refine ⟨?_, ?_, ?_, ?_⟩
  · rw [layout.inline_step, comment]
    exact closes.inline_eq_false (by simp [comment, Kind.breaksGroup])
  · rw [(layout.step_visible visible notBlank blankUnit).2.1]
    simp only [Layout.tailAfter, comment]
    exact ⟨_, rfl⟩
  · simp [Layout.tightGap, Layout.step, comment]
  · simp [Layout.step, comment, Kind.keepsSpace]

theorem Layout.AfterComment.gapBefore_eq_nil (after : layout.AfterComment hidden close)
    (engulfed : hidden && token.closesUp close) : layout.gapBefore style token = [] := by
  obtain ⟨rfl, closesUp⟩ := Bool.and_eq_true_iff.mp engulfed
  rcases Bool.or_eq_true_iff.mp closesUp with mark | opening
  · obtain ⟨plain, mark⟩ := Bool.and_eq_true_iff.mp mark
    rw [layout.gapBefore_plain plain, if_pos (List.contains_iff_mem.mp mark), after.tightGap]
    rfl
  · obtain ⟨opening, rfl⟩ := Bool.and_eq_true_iff.mp opening
    have kind : token.kind = .opening := by simpa using opening
    simp [Layout.gapBefore, kind, after.spaced]

/-- The next token to show stands in another line than the comment, unless the line break is forgotten over
a placeholder that does not show. -/
theorem Layout.AfterComment.gapBefore_eq_cons (after : layout.AfterComment hidden close) (style : Style)
    (notBlank : token.kind ≠ .blank) (kept : (hidden && token.closesUp close) = false) :
    ∃ later, layout.gapBefore style token = '\n' :: later := by
  obtain ⟨later, tail⟩ := after.tail
  cases kind : token.kind with
  | blank => exact absurd kind notBlank
  | word | literal | number | operator | reserved =>
    have plain : token.kind.isPlain := by rw [kind]; rfl
    rw [layout.gapBefore_plain plain, after.tightGap, tail]
    split
    · rename_i mark
      have closesUp : token.closesUp close := by
        rw [Token.closesUp, plain, List.contains_iff_mem.mpr mark]
        rfl
      have shown : hidden = false := by simpa [closesUp] using kept
      rw [shown]
      exact ⟨_, rfl⟩
    split
    -- A semicolon breaks the line itself.
    · cases hidden with
      | true => exact ⟨_, rfl⟩
      | false => exact ⟨_, rfl⟩
    · exact ⟨_, rfl⟩
  | opening =>
    have apart : (hidden && close) = false := by simpa [Token.closesUp, kind, Kind.isPlain] using kept
    simp only [Layout.gapBefore, kind, after.spaced, apart, Bool.not_false, if_true]
    exact ⟨later, tail⟩
  | closing =>
    simp only [Layout.gapBefore, kind, after.outside, Bool.false_eq_true, if_false]
    exact ⟨_, rfl⟩
  | lineComment | placeholder =>
    simp only [Layout.gapBefore, kind]
    exact ⟨later, tail⟩
  | blockComment | continuation | clause =>
    simp only [Layout.gapBefore, kind]
    exact ⟨_, rfl⟩

/-- The text after a line comment begins in the next line, unless the comment engulfs a token. -/
theorem Layout.AfterComment.endsLine_iff {index : Nat} {tokens : List Token}
    (shows : ∀ token ∈ tokens, token.Shows) (after : layout.AfterComment hidden close)
    (reached : style.params.Reached layout.cursor index) :
    EndsLine (Piece.join (layout.shownPieces style tokens)) ↔
      style.params.engulfs hidden close index tokens = false := by
  -- Blanks and placeholders that do not show are passed, and the first token that shows decides.
  induction tokens generalizing layout hidden close index with
  | nil => simp [EndsLine, Layout.shownPieces, Layout.pieces, Piece.join, Params.engulfs]
  | cons token rest ih =>
    have later : ∀ token ∈ rest, token.Shows := fun other member => shows other (List.mem_cons_of_mem _ member)
    have passed := Params.Reached.step reached token rest
    rw [Params.engulfs]
    by_cases blank : token.kind = .blank
    · rw [countPlaceholder, if_neg (by simp [blank])] at passed
      rw [layout.shownPieces_of_blank rest blank, if_pos blank]
      exact ih later (after.step_blank blank rest) passed
    rw [if_neg blank]
    have visible := shows token List.mem_cons_self
    by_cases hides : style.params.hides index token
    · have isPlaceholder : token.kind = .placeholder := by
        simpa using (Bool.and_eq_true_iff.mp hides).1
      have unseen := (layout.hides_iff visible blank reached).mp hides
      rw [countPlaceholder, if_pos isPlaceholder] at passed
      rw [layout.shownPieces_of_hidden rest (trimEnd_eq_nil_iff.mpr unseen), if_pos hides]
      exact ih later (after.step_hidden isPlaceholder unseen rest) passed
    · have shown : trimEnd (layout.written style token) ≠ [] := by
        intro gone
        exact hides ((layout.hides_iff visible blank reached).mpr (trimEnd_eq_nil_iff.mp gone))
      rw [layout.shownPieces_of_shown rest blank shown, if_neg hides, Piece.join_cons, Layout.piece]
      cases engulfed : hidden && token.closesUp close with
      | true =>
        have notPlaceholder : token.kind ≠ .placeholder := by
          intro kind
          simp [Token.closesUp, kind, Kind.isPlain] at engulfed
        obtain ⟨someText, start⟩ := layout.written_visible_of_kind style visible blank notPlaceholder
        obtain ⟨c, text, split⟩ := List.exists_cons_of_ne_nil someText
        rw [split] at start
        have visible : isBlank c = false := start
        have notFeed : c ≠ '\n' := by
          rintro rfl
          revert visible
          decide
        simp [EndsLine, after.gapBefore_eq_nil engulfed, split, notFeed]
      | false =>
        obtain ⟨ending, gap⟩ := after.gapBefore_eq_cons style blank engulfed
        simp [EndsLine, gap]

/-- Whether the text after each line comment begins in the next line. -/
def Piece.KeepLines (pieces : List Piece) : Prop :=
  ∀ before comment after, pieces = before ++ comment :: after → comment.token.kind = .lineComment →
    EndsLine (Piece.join after)

theorem Piece.keepLines_cons {piece : Piece} {later : List Piece} :
    Piece.KeepLines (piece :: later) ↔
      (piece.token.kind = .lineComment → EndsLine (Piece.join later)) ∧ Piece.KeepLines later := by
  constructor
  · intro keep
    refine ⟨keep [] piece later rfl, fun before comment after split => ?_⟩
    exact keep (piece :: before) comment after (by rw [split, List.cons_append])
  · rintro ⟨first, keep⟩ before comment after split
    rcases List.cons_eq_append_iff.mp split with ⟨rfl, same⟩ | ⟨before, rfl, same⟩
    · obtain ⟨rfl, rfl⟩ := List.cons.inj same
      exact first
    · exact keep before comment after same

/-- Line comments keep their lines to themselves exactly if none swallows a token. -/
theorem Layout.keepLines_iff (blankUnit : IsGap style.indentUnit) {index : Nat} {tokens : List Token}
    (shows : ∀ token ∈ tokens, token.Shows) (layout : Layout) (closes : layout.Closes style tokens)
    (reached : style.params.Reached layout.cursor index) :
    Piece.KeepLines (layout.shownPieces style tokens) ↔ style.params.swallows index tokens = false := by
  induction tokens generalizing layout index with
  | nil => simp [Piece.KeepLines, Layout.shownPieces, Layout.pieces, Params.swallows]
  | cons token rest ih =>
    have visible := shows token List.mem_cons_self
    have later : ∀ token ∈ rest, token.Shows := fun other member => shows other (List.mem_cons_of_mem _ member)
    have passed := Params.Reached.step reached token rest
    have goesOn := ih later (layout.step style token rest) closes.step passed
    rw [Params.swallows, Bool.or_eq_false_iff, ← goesOn]
    by_cases comment : token.kind = .lineComment
    · have notBlank : token.kind ≠ .blank := by simp [comment]
      have shown := (layout.written_visible_of_kind style visible notBlank (by simp [comment])).1
      have after := Layout.afterComment_step closes comment shown blankUnit
      have same : countPlaceholder index token = index := if_neg (by simp [comment])
      rw [same] at passed
      rw [layout.shownPieces_of_shown rest notBlank shown, Piece.keepLines_cons, after.endsLine_iff later passed]
      simp [Layout.piece, comment]
    · have others : (token.kind == .lineComment && style.params.engulfs false false index rest) = false := by
        simp [comment]
      rw [others, eq_self, true_and]
      by_cases blank : token.kind = .blank
      · rw [layout.shownPieces_of_blank rest blank]
      by_cases unseen : trimEnd (layout.written style token) = []
      · rw [layout.shownPieces_of_hidden rest unseen]
      · rw [layout.shownPieces_of_shown rest blank unseen, Piece.keepLines_cons]
        simp [Layout.piece, comment]

section Hiding

variable {params : Params} {index : Nat} {tokens : List Token}
  (visible : ∀ token ∈ tokens, ∀ index, params.hides index token = false)

include visible

theorem Params.engulfs_eq_false : params.engulfs false close index tokens = false := by
  induction tokens generalizing close with
  | nil => rfl
  | cons token rest ih =>
    have later := fun other member => visible other (List.mem_cons_of_mem token member)
    rw [Params.engulfs, ih later, visible token List.mem_cons_self]
    simp

/-- Only over a placeholder that does not show can a line comment take in a token. -/
theorem Params.swallows_eq_false : params.swallows index tokens = false := by
  induction tokens generalizing index with
  | nil => rfl
  | cons token rest ih =>
    have later := fun other member => visible other (List.mem_cons_of_mem token member)
    rw [Params.swallows, ih later, Params.engulfs_eq_false later]
    simp

end Hiding

/-- The pieces of the layout of a query that show. -/
def Dialect.shown (dialect : Dialect) (unit : List Char) (params : Params) (query : List Char) : List Piece :=
  ({} : Layout).shownPieces (dialect.style unit params) (tokenize dialect.rules query)

/-- Whether each line comment of a query is the end of a line in its layout. -/
def Dialect.EndsCommentLines (dialect : Dialect) (unit : List Char) (params : Params) (query : List Char) : Prop :=
  ∀ before comment after, dialect.shown unit params query = before ++ comment :: after →
    comment.token.kind = .lineComment →
      (∃ front, dialect.format unit params query = front ++ trimEnd comment.token.value ++ Piece.join after) ∧
        EndsLine (Piece.join after)

section Query

variable (dialect : Dialect) (unit : List Char) (params : Params) (query : List Char)

/-- A line comment is written without its line end, and shows. -/
theorem Dialect.pieces_lineComment :
    ∀ piece ∈ Layout.pieces (dialect.style unit params) {} (tokenize dialect.rules query),
      piece.token.kind = .lineComment →
        piece.text = trimEnd piece.token.value ∧ piece.text ≠ [] ∧ begins isBlank piece.text = false := by
  refine Layout.forall_pieces {} _ fun layout token member notBlank comment => ⟨?_, ?_⟩
  · change token.kind = .lineComment at comment
    simp only [Layout.piece, Layout.written, comment]
  · have notPlaceholder : token.kind ≠ .placeholder := fun kind => by cases kind.symm.trans comment
    exact layout.written_visible_of_kind _ (dialect.shows_tokenize query token member) notBlank notPlaceholder

theorem Dialect.lineComments_shown :
    ((dialect.shown unit params query).map Piece.token).filter (·.kind == .lineComment) =
      (dialect.tokens query).filter (·.kind == .lineComment) := by
  have written := dialect.pieces_lineComment unit params query
  have tokens : (Layout.pieces (dialect.style unit params) {} (tokenize dialect.rules query)).map Piece.token =
      dialect.tokens query :=
    Layout.pieces_token {} _
  rw [← tokens, List.filter_map, List.filter_map, Dialect.shown, Layout.shownPieces, List.filter_filter]
  refine congrArg (List.map Piece.token) (List.filter_congr fun piece member => ?_)
  by_cases comment : piece.token.kind = .lineComment
  · simp [comment, (written piece member comment).2.1]
  · simp [comment]

variable {unit} (blankUnit : IsGap unit)

include blankUnit

/-- The text after a line comment is that of the pieces after it. -/
theorem Dialect.endsCommentLines_iff_keepLines :
    dialect.EndsCommentLines unit params query ↔ Piece.KeepLines (dialect.shown unit params query) := by
  constructor
  · exact fun ends before comment after split kind => (ends before comment after split kind).2
  · intro keep before comment after split kind
    refine ⟨⟨trimStart (Piece.join before ++ comment.gap), ?_⟩, keep before comment after split kind⟩
    have format : dialect.format unit params query = trimStart (Piece.join (dialect.shown unit params query)) :=
      layoutTokens_eq_shown blankUnit (dialect.shows_tokenize query)
    have member : comment ∈ dialect.shown unit params query := by simp [split]
    obtain ⟨value, someText, start⟩ :=
      dialect.pieces_lineComment unit params query comment (List.mem_of_mem_filter member) kind
    obtain ⟨c, text, written⟩ := List.exists_cons_of_ne_nil someText
    rw [written] at start
    have joined : Piece.join (before ++ comment :: after) =
        (Piece.join before ++ comment.gap) ++ c :: (text ++ Piece.join after) := by
      simp [Piece.join, written]
    rw [format, split, joined, trimStart_append_cons _ start, ← value, written]
    simp

theorem Dialect.endsCommentLines_iff_swallows :
    dialect.EndsCommentLines unit params query ↔ params.swallows 0 (tokenize dialect.rules query) = false := by
  have blank : IsGap (dialect.style unit params).indentUnit := blankUnit
  have reached : params.Reached 0 0 := (Layout.shows_start (dialect.style unit params)).reached
  have closes : ({} : Layout).Closes (dialect.style unit params) (tokenize dialect.rules query) :=
    fun inline => by cases inline
  rw [dialect.endsCommentLines_iff_keepLines params query blankUnit]
  exact Layout.keepLines_iff blank (dialect.shows_tokenize query) {} closes reached

end Query

/-- Every line comment of a query shows in its layout, and it ends its line there as long as each placeholder
shows as well. Where one does not, a line comment takes in the next token exactly if that is written right
behind what comes before it. -/
theorem Dialect.lineComments_endLines (dialect : Dialect) {unit : List Char} (blankUnit : IsGap unit)
    (params : Params) (query : List Char) :
    ((dialect.shown unit params query).map Piece.token).filter (·.kind == .lineComment) =
        (dialect.tokens query).filter (·.kind == .lineComment) ∧
      (dialect.EndsCommentLines unit params query ↔ params.swallows 0 (tokenize dialect.rules query) = false) ∧
      ((∀ token ∈ tokenize dialect.rules query, ∀ index, params.hides index token = false) →
        dialect.EndsCommentLines unit params query) := by
  have ends := dialect.endsCommentLines_iff_swallows params query blankUnit
  exact ⟨dialect.lineComments_shown unit params query, ends,
    fun visible => ends.mpr (Params.swallows_eq_false visible)⟩

/-- A literal after a placeholder that does not show keeps its line, since a blank is written before it. -/
theorem Dialect.lineComments_endLines_quoted :
    IsGap ['\t'] ∧ Dialect.standard.EndsCommentLines ['\t'] (.positional [[]]) "--c\n?'x'".toList := by
  have blankUnit : IsGap ['\t'] := isGap_cons.mpr ⟨by decide, isGap_nil⟩
  have kept : (Params.positional [[]]).swallows 0 (tokenize Dialect.standard.rules "--c\n?'x'".toList) = false := by
    decide +kernel
  exact ⟨blankUnit, (Dialect.lineComments_endLines .standard blankUnit _ _).2.1.mpr kept⟩

/-- A bracket after a placeholder that does not show is taken into the comment before. -/
theorem Dialect.not_endsCommentLines_bracket :
    ¬ Dialect.standard.EndsCommentLines [' ', ' '] (.positional [[]]) "--c\n?('x')".toList ∧
      Dialect.standard.format [' ', ' '] (.positional [[]]) "--c\n?('x')".toList = "--c('x')".toList := by
  have blankUnit : IsGap [' ', ' '] := IsGap.replicate_flatten (isGap_cons.mpr ⟨by decide, isGap_nil⟩) 2
  have swallowed :
      (Params.positional [[]]).swallows 0 (tokenize Dialect.standard.rules "--c\n?('x')".toList) = true := by
    decide +kernel
  refine ⟨fun ends => ?_, by decide +kernel⟩
  rw [Dialect.endsCommentLines_iff_swallows .standard _ _ blankUnit, swallowed] at ends
  cases ends

end QueryLayout
