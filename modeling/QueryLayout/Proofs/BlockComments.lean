import QueryLayout.Proofs.Agreement
import QueryLayout.Proofs.Enclosures
import QueryLayout.Proofs.Margins

namespace QueryLayout

section Written

variable {dialect : Dialect} {style : Style} {before : Option Token} {token : Token} {rest shown other : List Char}
  {rule : Rule} (someRaw : token.raw ≠ []) (reads : ReadBy dialect before (token.raw ++ rest) token rule)

include someRaw reads

/-- Where no reserved word, comment or quoted text is read, the text is written as it was read. -/
theorem ReadBy.shown_eq_raw {index : Nat} (absent : style.params = .absent)
    (rendered : Rendered style index token shown) (plain : rule.encloses = false)
    (fixed : rule.yieldsToPeriod = false) (visible : token.kind ≠ .blank) : shown = token.raw := by
  have value := Rule.read?_value reads.read
  have text : style.params.textAt index token = token.value := by
    rw [absent]
    rfl
  have kept : ∀ {mark : Char} {name : List Char}, token.raw = mark :: name → isBlank mark = false →
      (∀ c ∈ name, isBlank c = false) → trimEnd token.raw = token.raw := by
    intro mark name raw visible every
    rw [raw]
    exact trimEnd_of_forall (List.forall_mem_cons.mpr ⟨visible, every⟩)
  unfold Rendered at rendered
  rw [reads.kind] at value visible
  rw [reads.kind, text, value] at rendered
  cases rule with
  | blank => exact absurd rfl visible
  | bracketSymbol side =>
    obtain ⟨c, symbol, raw⟩ := reads.symbol someRaw
    have upper := Dialect.upperCase_symbol symbol
    rw [raw] at rendered ⊢
    cases side <;> exact rendered.trans upper
  | namedPlaceholder =>
    obtain ⟨mark, isMark, name, raw, _, keys, _⟩ := reads.named someRaw
    have sort := Dialect.mark_sort (List.mem_append_left _ isMark)
    exact rendered.trans (kept raw sort.2.1 fun c member => isBlank_eq_false_of_isKeyChar (keys c member))
  | positionalPlaceholder =>
    obtain ⟨mark, isMark, digits, raw, every, _⟩ := reads.positional someRaw
    have sort := Dialect.mark_sort (List.mem_append_right _ isMark)
    exact rendered.trans (kept raw sort.2.1 fun c member => isBlank_eq_false_of_isAsciiDigit (every c member))
  | number | word | operator =>
    have trimmed := reads.value_trimmed someRaw (by simp [reads.kind, Rule.kind])
    rw [show token.value = token.raw from value] at trimmed
    exact rendered.trans trimmed
  | bracketWord | reserved => cases fixed
  | lineComment | blockComment | literal | quotedPlaceholder => cases plain

/-- Nothing begins to be enclosed where a token is written as it was read. -/
theorem ReadBy.enclosure?_written (plain : rule.encloses = false) (fixed : rule.yieldsToPeriod = false)
    (visible : token.kind ≠ .blank)
    (settled : dialect.settles other ∨ token.raw = ['.'] ∨ token.kind = .opening) :
    dialect.enclosure? (token.raw ++ other) = none := by
  have single : dialect.settles other ∨ ∃ c ∈ '.' :: dialect.lexicon.symbols .opening, token.raw = [c] := by
    rcases settled with inert | period | opening
    · exact Or.inl inert
    · exact Or.inr ⟨'.', List.mem_cons_self, period⟩
    · rw [reads.kind] at opening
      cases rule with
      | bracketSymbol side =>
        cases side with
        | opening =>
          obtain ⟨c, symbol, raw⟩ := reads.symbol someRaw
          exact Or.inr ⟨c, List.mem_cons_of_mem _ symbol, raw⟩
        | closing => cases opening
      | bracketWord | reserved => cases fixed
      | _ => cases opening
  have notBlank : rule.rank ≠ 0 := by
    intro zero
    rw [reads.kind, Rule.rank_eq_zero zero] at visible
    exact visible rfl
  have failed : ∀ earlier ∈ dialect.rules, earlier.isFixed → earlier.rank < 4 →
      earlier.read? before (token.raw ++ other) = none := fun earlier member isFixed low =>
    Dialect.fixed_passes member isFixed
      (reads.failed earlier member (low.trans_le (Rule.rank_of_encloses plain notBlank))) someRaw single
  exact Dialect.enclosure?_of_read? failed

end Written

section Enclosed

variable {dialect : Dialect} {before : Option Token} {token : Token} {rest shown other : List Char}
  (someRaw : token.raw ≠ [])

theorem Dialect.comments_trimmed {name : List Char} (atEnd : rest = [] → other = [])
    (found : literalExtent? dialect.lexicon.quoteStyles (name ++ rest) = some name.length)
    (settles : dialect.settles other) : dialect.comments (trimEnd name ++ other) = dialect.comments other :=
  Dialect.comments_literal (literalExtent?_keep found atEnd (Dialect.closing_ends settles)).1

include someRaw

/-- A line comment may have lost the line break at its end, and then it takes the next one along. -/
theorem ReadBy.comments_lineComment {marks : List Phrase}
    (reads : ReadBy dialect before (token.raw ++ rest) token (.lineComment marks))
    (rendered : shown = trimEnd token.raw) (lineEnds : other = [] ∨ ∃ later, other = '\n' :: later) :
    dialect.comments (shown ++ other) = dialect.comments other := by
  obtain ⟨lead, found, whole⟩ := reads.lineComment someRaw
  obtain ⟨ending, more, rfl, isEnd, noMore⟩ : ∃ ending more, other = ending ++ more ∧
      (ending = [] ∨ ending = ['\n']) ∧ (ending = [] → more = []) := by
    rcases lineEnds with none | ⟨later, split⟩
    · exact ⟨[], [], none, Or.inl rfl, fun _ => rfl⟩
    · exact ⟨['\n'], later, split, Or.inr rfl, nofun⟩
  have blank : IsGap ending := by
    rcases isEnd with rfl | rfl
    · exact isGap_nil
    · exact isGap_cons.mpr ⟨by decide, isGap_nil⟩
  obtain ⟨_, again, size⟩ := lineComment_keep dialect.exclusive_lineCommentMarks found whole isEnd more noMore
  rw [← rendered, ← List.append_assoc] at again size
  rw [← List.append_assoc, Dialect.comments_lineComment again size, Dialect.comments_gap blank]

theorem ReadBy.comments_blockComment (reads : ReadBy dialect before (token.raw ++ rest) token .blockComment)
    {indent : List Char} (blank : IsGap indent) (rendered : shown = trimEnd (reindent indent token.raw))
    (atEnd : rest = [] → other = []) :
    dialect.comments (shown ++ other) = shown :: dialect.comments other := by
  obtain ⟨body, raw, whole⟩ := reads.blockComment someRaw
  have kept := (blockComment_keep blank whole atEnd).1
  have front : trimEnd ['/', '*'] = ['/', '*'] := by decide
  have shape : shown = '/' :: '*' :: trimEnd (reindent indent body) := by
    rw [rendered, raw]
    exact trimEnd_append_of_trimmed front (reindent indent body)
  rw [shape]
  exact Dialect.comments_blockComment kept

theorem ReadBy.shown_ne_period {styles : List QuoteStyle}
    (reads : ReadBy dialect before (token.raw ++ rest) token (.literal styles))
    (rendered : shown = trimEnd token.raw) : shown ≠ ['.'] := by
  intro period
  obtain ⟨style, _, body, split, _⟩ := literalExtent?_eq_some (reads.literal someRaw)
  have first := begins_trimEnd (p := (· == '.')) (reads.visible someRaw (by simp [Rule.rank]))
  rw [← rendered, period, split] at first
  cases style <;> cases first

theorem ReadBy.comments_quoted {marks : List Phrase} {styles : List QuoteStyle}
    (reads : ReadBy dialect before (token.raw ++ rest) token (.quotedPlaceholder marks styles))
    (rendered : shown = trimEnd token.raw) (atEnd : rest = [] → other = [])
    (settles : shown ≠ ['.'] → dialect.settles other) :
    dialect.comments (shown ++ other) = dialect.comments other := by
  obtain ⟨mark, isMark, name, raw, found⟩ := reads.quoted someRaw
  obtain ⟨_, notBlank, notPeriod⟩ := Dialect.mark_sort (List.mem_append_left _ isMark)
  have calm := Dialect.isCalm_mark (List.mem_append_left _ isMark)
  rw [raw, trimEnd_cons_of_visible notBlank] at rendered
  rw [rendered] at settles ⊢
  refine (Dialect.comments_cons (Dialect.enclosure?_calm calm _)).trans
    (Dialect.comments_trimmed atEnd found (settles ?_))
  simp [notPeriod]

/-- Where a token is written, it is told from a block comment as it is where it was read. -/
theorem ReadBy.comments_written {style : Style} {rule : Rule} {index : Nat}
    (reads : ReadBy dialect before (token.raw ++ rest) token rule) (absent : style.params = .absent)
    (blankUnit : IsGap style.indentUnit) (rendered : Rendered style index token shown)
    (visible : token.kind ≠ .blank) (atEnd : rest = [] → other = [])
    (settled : dialect.settles other ∨ shown = ['.'] ∨ token.kind = .opening)
    (lineEnds : token.kind = .lineComment → other = [] ∨ ∃ later, other = '\n' :: later) :
    dialect.comments (shown ++ other) =
      (if token.kind = .blockComment then [shown] else []) ++ dialect.comments other := by
  have passed : rule.encloses = false → (rule.yieldsToPeriod → Raises dialect token.raw shown) →
      dialect.comments (shown ++ other) = dialect.comments other := by
    intro plain raises
    refine reads.passes someRaw plain (fun yields word entry occurs => ?_) fun fixed => ?_
    · exact ((raises yields word entry occurs).occurs entry).2
    · have same := reads.shown_eq_raw someRaw absent rendered plain fixed visible
      exact ⟨same, reads.enclosure?_written someRaw plain fixed visible (same ▸ settled)⟩
  have settles : shown ≠ ['.'] → rule.kind ≠ .opening → dialect.settles other := by
    intro notPeriod notOpening
    rcases settled with inert | period | opening
    · exact inert
    · exact absurd period notPeriod
    · exact absurd (reads.kind.symm.trans opening) notOpening
  have value := Rule.read?_value reads.read
  have text : style.params.textAt index token = token.value := by
    rw [absent]
    rfl
  unfold Rendered at rendered
  rw [reads.kind] at value visible lineEnds
  rw [reads.kind, text, value] at rendered
  rw [reads.kind]
  cases rule with
  | blank => exact absurd rfl visible
  | lineComment => exact reads.comments_lineComment someRaw rendered (lineEnds rfl)
  | blockComment =>
    obtain ⟨depth, rendered⟩ := rendered
    exact reads.comments_blockComment someRaw (blankUnit.replicate_flatten depth) rendered atEnd
  | literal =>
    have notPeriod := reads.shown_ne_period someRaw rendered
    rw [show shown = trimEnd token.raw from rendered] at settles notPeriod ⊢
    exact Dialect.comments_trimmed atEnd (reads.literal someRaw) (settles notPeriod nofun)
  | quotedPlaceholder =>
    exact reads.comments_quoted someRaw rendered atEnd fun notPeriod => settles notPeriod nofun
  | bracketSymbol side => cases side <;> exact passed rfl nofun
  | bracketWord side =>
    cases side <;> exact passed rfl fun _ => rendered ▸ raises_upperCase dialect token.raw
  | reserved reservedClass =>
    cases reservedClass with
    | plain => exact passed rfl fun _ => rendered ▸ raises_upperCase dialect token.raw
    | clause | continuation => exact passed rfl fun _ => rendered ▸ raises_squeeze dialect token.raw
  | namedPlaceholder | positionalPlaceholder | number | word | operator => exact passed rfl nofun

end Enclosed

/-- The texts of the block comments among some pieces. -/
def Piece.comments (pieces : List Piece) : List (List Char) :=
  (pieces.filter fun piece => piece.token.kind == .blockComment).map Piece.text

theorem Piece.comments_cons (piece : Piece) (later : List Piece) :
    Piece.comments (piece :: later) =
      (if piece.token.kind = .blockComment then [piece.text] else []) ++ Piece.comments later := by
  unfold Piece.comments
  by_cases comment : piece.token.kind = .blockComment
  · rw [if_pos comment, List.filter_cons_of_pos (by simp [comment])]
    rfl
  · rw [if_neg comment, List.filter_cons_of_neg (by simp [comment])]
    rfl

/-- A text made of pieces has their block comments and no others, also where two pieces are glued together. -/
theorem Laid.comments {dialect : Dialect} {style : Style} {before : Option Token} {text : List Char}
    {pieces : List Piece} (laid : Laid dialect style before text pieces) (absent : style.params = .absent)
    (blankUnit : IsGap style.indentUnit) (chain : pieces.IsChain Joined) :
    dialect.comments (Piece.output pieces) = Piece.comments pieces := by
  induction laid with
  | done => rfl
  | @next before piece gap text later someRaw visible read rendered _ _ laid ih =>
    obtain ⟨rule, reads⟩ := Dialect.readFirst?_eq_some_iff.mp read
    have atEnd : gap ++ text = [] → Piece.join later = [] := by
      intro empty
      cases laid with
      | done => rfl
      | next someNext => simp [someNext] at empty
    have onward : dialect.comments (Piece.join later) = dialect.comments (Piece.output later) := by
      cases later with
      | nil => rfl
      | cons next more =>
        obtain ⟨isGap, _⟩ := laid.distinct absent next rfl
        rw [Piece.join_eq_output, Dialect.comments_gap isGap]
    rw [Piece.output, Piece.comments_cons, ← ih chain.tail, ← onward]
    exact reads.comments_written someRaw absent blankUnit rendered visible atEnd (laid.settled absent chain)
      (Joined.lineEnds chain)

/-- A block comment and the depth at which it is placed. -/
structure PlacedComment where
  depth : Nat
  text : List Char
deriving DecidableEq, Repr

/-- A block comment as it is written at its depth. -/
def PlacedComment.pushedIn (comment : PlacedComment) (unit : List Char) : List Char :=
  reindent (List.replicate comment.depth unit).flatten comment.text

/-- The block comments among the tokens that a layout places. -/
def Layout.placedComments (style : Style) : Layout → List Token → List PlacedComment
  | _, [] => []
  | layout, token :: rest =>
    let later := placedComments style (layout.step style token rest) rest
    if token.kind = .blockComment then ⟨layout.indent.depth, token.value⟩ :: later else later

def Dialect.placedComments (dialect : Dialect) (unit query : List Char) : List PlacedComment :=
  Layout.placedComments (dialect.style unit .absent) {} (tokenize dialect.rules query)

theorem Layout.placedComments_text (style : Style) (layout : Layout) (tokens : List Token) :
    (Layout.placedComments style layout tokens).map PlacedComment.text = blockComments tokens := by
  induction tokens generalizing layout with
  | nil => rfl
  | cons token rest ih =>
    unfold blockComments at ih ⊢
    by_cases comment : token.kind = .blockComment
    · rw [Layout.placedComments, if_pos comment, List.filter_cons_of_pos (by simp [comment]), List.map_cons, ih]
      rfl
    · rw [Layout.placedComments, if_neg comment, List.filter_cons_of_neg (by simp [comment]), ih]

theorem Layout.comments_pieces (style : Style) (layout : Layout) (tokens : List Token) :
    Piece.comments (Layout.pieces style layout tokens) =
      (Layout.placedComments style layout tokens).map fun comment =>
        trimEnd (comment.pushedIn style.indentUnit) := by
  induction tokens generalizing layout with
  | nil => rfl
  | cons token rest ih =>
    rw [Layout.placedComments]
    by_cases blank : token.kind = .blank
    · rw [layout.pieces_cons_blank blank, if_neg (by simp [blank]), ih]
    · rw [layout.pieces_cons_visible blank, Piece.comments_cons, ih]
      by_cases comment : token.kind = .blockComment
      · have text : (layout.piece style token).text =
            trimEnd (reindent (layout.indent.text style.indentUnit) token.value) := by
          simp only [Layout.piece, Layout.written, comment]
        rw [if_pos comment, if_pos (show (layout.piece style token).token.kind = _ from comment), text]
        rfl
      · rw [if_neg comment, if_neg (show ¬ (layout.piece style token).token.kind = _ from comment)]
        rfl

/-- The block comments of a layout are those of the query, each pushed in at its depth. -/
theorem Dialect.blockComments_format (dialect : Dialect) {unit : List Char} (blankUnit : IsGap unit)
    (query : List Char) :
    blockComments (tokenize dialect.rules (dialect.format unit .absent query)) =
      (dialect.placedComments unit query).map fun comment => trimEnd (comment.pushedIn unit) := by
  obtain ⟨_, _, _, _, laid⟩ := dialect.laid_pieces blankUnit query
  calc blockComments (tokenize dialect.rules (dialect.format unit .absent query))
    _ = dialect.comments (Piece.output (dialect.pieces unit query)) := by
      rw [← dialect.comments_eq, dialect.format_eq_output blankUnit query]
    _ = Piece.comments (dialect.pieces unit query) :=
      laid.comments rfl blankUnit (dialect.isChain_pieces blankUnit query)
    _ = (dialect.placedComments unit query).map fun comment => trimEnd (comment.pushedIn unit) :=
      Layout.comments_pieces _ _ _

section Again

variable {indent text : List Char}

theorem length_reindent (indent text : List Char) :
    (reindent indent text).length = text.length + text.count '\n' * indent.length := by
  induction text with
  | nil => simp [reindent]
  | cons c text ih =>
    rw [reindent_cons, List.length_append, ih, List.length_cons, List.count_cons]
    by_cases feed : c = '\n'
    · simp only [feed, if_true, List.length_cons, beq_self_eq_true, Nat.add_mul, Nat.one_mul]
      omega
    · simp only [feed, if_false, List.length_singleton, beq_iff_eq, Nat.add_zero]
      omega

/-- Only a text of one line stays as it is when its lines are pushed in. -/
theorem reindent_eq_self_iff : reindent indent text = text ↔ indent = [] ∨ '\n' ∉ text := by
  constructor
  · intro same
    have sizes := congrArg List.length same
    rw [length_reindent, Nat.add_eq_left, Nat.mul_eq_zero] at sizes
    rcases sizes with none | empty
    · exact Or.inr (List.count_eq_zero.mp none)
    · exact Or.inl (List.eq_nil_of_length_eq_zero empty)
  · rintro (rfl | single)
    · have each : ∀ c : Char, (if c = '\n' then ['\n'] else [c]) = [c] := by
        intro c
        split <;> simp [*]
      simp [reindent, each]
    · exact reindent_eq_self single indent

theorem reindent_trimmed (trimmed : trimEnd text = text) :
    trimEnd (reindent indent text) = reindent indent text := by
  rcases text.eq_nil_or_concat' with rfl | ⟨front, c, rfl⟩
  · rfl
  · have visible : isBlank c = false := by
      by_contra blank
      have shorter := congrArg List.length (trimEnd_append_rtakeWhile front)
      rw [trimEnd_concat, if_pos (by simpa using blank)] at trimmed
      simp [trimmed] at shorter
    have notFeed : c ≠ '\n' := by
      rintro rfl
      exact absurd visible (by decide)
    refine trimEnd_of_getLast? ?_ visible
    rw [reindent_append, reindent_cons, if_neg notFeed]
    simp [reindent]

theorem PlacedComment.pushedIn_eq_text_iff {comment : PlacedComment} {unit : List Char} :
    comment.pushedIn unit = comment.text ↔ unit = [] ∨ comment.depth = 0 ∨ '\n' ∉ comment.text := by
  have flush : (List.replicate comment.depth unit).flatten = [] ↔ unit = [] ∨ comment.depth = 0 := by
    simp only [List.flatten_eq_nil_iff, List.mem_replicate, ne_eq, and_imp, forall_eq_apply_imp_iff]
    tauto
  rw [PlacedComment.pushedIn, reindent_eq_self_iff, flush, or_assoc]

end Again

/-- Formatted again, a text keeps its block comments but for the lines inside them, which are pushed in once more.
They all stay as they are exactly if no comment with several lines stands at a depth where a line is indented. -/
theorem Dialect.blockComments_again (dialect : Dialect) {unit : List Char} (isUnit : ∀ c ∈ unit, c = ' ' ∨ c = '\t')
    (query : List Char) :
    let text := dialect.format unit .absent query
    let again := dialect.format unit .absent text
    let placed := dialect.placedComments unit text
    blockComments (tokenize dialect.rules text) = placed.map PlacedComment.text ∧
      blockComments (tokenize dialect.rules again) = placed.map (PlacedComment.pushedIn · unit) ∧
      (blockComments (tokenize dialect.rules again) = blockComments (tokenize dialect.rules text) ↔
        ∀ comment ∈ placed, unit = [] ∨ comment.depth = 0 ∨ '\n' ∉ comment.text) := by
  intro text again placed
  have blankUnit := isGap_of_isUnit isUnit
  have first : blockComments (tokenize dialect.rules text) = placed.map PlacedComment.text :=
    (Layout.placedComments_text _ _ _).symm
  have trimmed : ∀ comment ∈ placed, trimEnd comment.text = comment.text := by
    intro comment member
    have shown : comment.text ∈ blockComments (tokenize dialect.rules text) := by
      rw [first]
      exact List.mem_map_of_mem member
    rw [dialect.blockComments_format blankUnit query] at shown
    obtain ⟨_, _, same⟩ := List.mem_map.mp shown
    rw [← same, trimEnd_trimEnd]
  have second : blockComments (tokenize dialect.rules again) = placed.map (PlacedComment.pushedIn · unit) := by
    rw [dialect.blockComments_format blankUnit text]
    exact List.map_congr_left fun comment member => reindent_trimmed (trimmed comment member)
  refine ⟨first, second, ?_⟩
  rw [first, second, List.map_inj_left]
  exact forall₂_congr fun _ _ => PlacedComment.pushedIn_eq_text_iff

/-- Outside all brackets a comment is not pushed in, and comes back as it was. -/
theorem Dialect.blockComments_again_flush :
    let query := "/*a\nb*/c".toList
    let text := Dialect.n1ql.format ['\t'] .absent query
    (∀ c ∈ ['\t'], c = ' ' ∨ c = '\t') ∧ Dialect.n1ql.placedComments ['\t'] text = [⟨0, "/*a\nb*/".toList⟩] ∧
      blockComments (tokenize Dialect.n1ql.rules (Dialect.n1ql.format ['\t'] .absent text)) =
        blockComments (tokenize Dialect.n1ql.rules text) := by
  intro query text
  have isUnit : ∀ c ∈ ['\t'], c = ' ' ∨ c = '\t' := by decide
  have placed : Dialect.n1ql.placedComments ['\t'] text = [⟨0, "/*a\nb*/".toList⟩] := by
    simp only [text, query, Dialect.placedComments, Dialect.format, layoutQuery, ← Dialect.byteRules_eq]
    decide +kernel
  refine ⟨isUnit, placed, (Dialect.blockComments_again .n1ql isUnit query).2.2.mpr ?_⟩
  rw [placed]
  simp

/-- In a bracket the second line of a comment moves each time. -/
theorem Dialect.blockComments_drift :
    let text := Dialect.n1ql.format ['\t'] .absent "(/*a\nb*/)".toList
    (∀ c ∈ ['\t'], c = ' ' ∨ c = '\t') ∧
      blockComments (tokenize Dialect.n1ql.rules text) = ["/*a\n\tb*/".toList] ∧
      blockComments (tokenize Dialect.n1ql.rules (Dialect.n1ql.format ['\t'] .absent text)) =
        ["/*a\n\t\tb*/".toList] ∧
      blockComments (tokenize Dialect.n1ql.rules (Dialect.n1ql.format ['\t'] .absent text)) ≠
        blockComments (tokenize Dialect.n1ql.rules text) := by
  intro text
  have first : blockComments (tokenize Dialect.n1ql.rules text) = ["/*a\n\tb*/".toList] := by decide +kernel
  have second : blockComments (tokenize Dialect.n1ql.rules (Dialect.n1ql.format ['\t'] .absent text)) =
      ["/*a\n\t\tb*/".toList] := by
    decide +kernel
  refine ⟨by decide, first, second, ?_⟩
  rw [first, second]
  decide

end QueryLayout
