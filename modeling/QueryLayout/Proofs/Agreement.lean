import QueryLayout.Proofs.Flat
import QueryLayout.Proofs.Nesting

namespace QueryLayout

/-- A token and what it is read as again where it is written: without the blanks at its end, and with
single spaces in a clause or continuation word. -/
structure Retold (first second : Token) : Prop where
  kind : second.kind = first.kind
  plain : first.kind.isPlain ∨ first.kind = .blockComment → second.value = trimEnd first.value
  marks : first.kind.isPlain → ∀ mark ∈ [[','], [':'], ['.'], [';']], second.value = mark ↔ first.value = mark
  word : first.kind = .clause ∨ first.kind = .continuation → squeeze second.value = squeeze first.value
  lineComment : first.kind = .lineComment → trimEnd second.value = trimEnd first.value

theorem Retold.shown {first second : Token} (retold : Retold first second)
    (plain : first.kind.isPlain ∨ first.kind = .blockComment) : trimEnd second.value = trimEnd first.value := by
  rw [retold.plain plain, trimEnd_trimEnd]

/-- Two layouts that go on in the same way, as long as no brackets follow. -/
structure Layout.Agrees (first second : Layout) : Prop where
  indent : second.indent = first.indent
  inline : second.inline = first.inline
  lastWord : (second.lastWord.map fun word => squeeze word.value) =
    first.lastWord.map fun word => squeeze word.value
  visible : second.visible.map Token.kind = first.visible.map Token.kind
  tail : second.tail = first.tail

/-- Two pieces that look the same. -/
def Piece.Same (first second : Piece) : Prop :=
  second.gap = first.gap ∧ second.text = first.text

theorem Piece.join_congr {pieces others : List Piece} (same : List.Forall₂ Piece.Same pieces others) :
    Piece.join others = Piece.join pieces := by
  induction same with
  | nil => rfl
  | cons first _ ih => rw [Piece.join_cons, Piece.join_cons, first.1, first.2, ih]

theorem Piece.output_congr {pieces others : List Piece} (same : List.Forall₂ Piece.Same pieces others) :
    Piece.output others = Piece.output pieces := by
  cases same with
  | nil => rfl
  | cons first later => rw [Piece.output, Piece.output, first.2, Piece.join_congr later]

theorem reindent_eq_self {text : List Char} (single : '\n' ∉ text) (indent : List Char) :
    reindent indent text = text := by
  induction text with
  | nil => rfl
  | cons c text ih =>
    rw [List.mem_cons, not_or] at single
    rw [reindent_cons, if_neg (Ne.symm single.1), ih single.2]
    rfl

theorem mem_of_mem_trimEnd {c : Char} {text : List Char} (member : c ∈ trimEnd text) : c ∈ text := by
  rw [trimEnd_append_rtakeWhile text]
  exact List.mem_append_left _ member

section Frame

variable (style : Style) {token : Token} (layout : Layout) (rest : List Token)

theorem Layout.afterRowLimit_eq : layout.afterRowLimit style =
    (layout.lastWord.map fun word => squeeze word.value).any fun word =>
      style.rowLimitWords.any fun limit => upperCase limit.toList == upperCase word := by
  unfold Layout.afterRowLimit
  cases layout.lastWord <;> rfl

theorem Layout.tightGap_eq : layout.tightGap =
    if (layout.visible.map Token.kind).any (· == .lineComment) then ['\n'] else [] := by
  unfold Layout.tightGap
  cases layout.visible <;> rfl

/-- What a token leaves of the state of a layout, apart from the text. -/
theorem Layout.step_frame (notOpening : token.kind ≠ .opening) (notClosing : token.kind ≠ .closing) :
    (layout.step style token rest).indent =
        (if token.kind = .clause then layout.indent.closeClause.openClause else layout.indent) ∧
      (layout.step style token rest).inline = layout.inline ∧
      (layout.step style token rest).lastWord =
        (if token.kind = .clause ∨ token.kind = .continuation then some token else layout.lastWord) := by
  rw [layout.indent_step, layout.inline_step, layout.lastWord_step]
  cases kind : token.kind with
  | opening => exact absurd kind notOpening
  | closing => exact absurd kind notClosing
  | _ => exact ⟨rfl, rfl, rfl⟩

end Frame

theorem Layout.Agrees.symm {first second : Layout} (agrees : first.Agrees second) : second.Agrees first :=
  ⟨agrees.indent.symm, agrees.inline.symm, agrees.lastWord.symm, agrees.visible.symm, agrees.tail.symm⟩

theorem Layout.Agrees.trans {first second third : Layout} (agrees : first.Agrees second)
    (later : second.Agrees third) : first.Agrees third :=
  ⟨later.indent.trans agrees.indent, later.inline.trans agrees.inline, later.lastWord.trans agrees.lastWord,
    later.visible.trans agrees.visible, later.tail.trans agrees.tail⟩

/-- A blank is nothing to a layout. -/
theorem Layout.agrees_step_blank {style : Style} {token : Token} (layout : Layout) (rest : List Token)
    (blank : token.kind = .blank) : layout.Agrees (layout.step style token rest) := by
  have tail : (layout.step style token rest).tail = layout.tail := by
    unfold Layout.tail
    rw [(layout.step_blank blank).1]
  refine ⟨?_, ?_, ?_, ?_, tail⟩
  all_goals simp only [Layout.step, Layout.place, blank, if_true]

section Step

variable {style : Style} {first second : Layout} {token again : Token} {rest others : List Token}
  (agrees : first.Agrees second) (retold : Retold token again) (flat : token.isFlat)
  (notBlank : token.kind ≠ .blank)

include agrees

theorem Layout.Agrees.tightGap : second.tightGap = first.tightGap := by
  rw [second.tightGap_eq, first.tightGap_eq, agrees.visible]

theorem Layout.Agrees.afterRowLimit : second.afterRowLimit style = first.afterRowLimit style := by
  rw [second.afterRowLimit_eq style, first.afterRowLimit_eq style, agrees.lastWord]

include retold flat notBlank

/-- Layouts that agree place a token that is retold in the same way. -/
theorem Layout.Agrees.piece : Piece.Same (first.piece style token) (second.piece style again) := by
  obtain ⟨⟨notOpening, notClosing, notPlaceholder⟩, _, single⟩ := Token.isFlat_iff.mp flat
  have sameKind := retold.kind
  cases kind : token.kind with
  | blank => exact absurd kind notBlank
  | opening => exact absurd kind notOpening
  | closing => exact absurd kind notClosing
  | placeholder => exact absurd kind notPlaceholder
  | lineComment =>
    rw [kind] at sameKind
    simp only [Piece.Same, Layout.piece, Layout.gapBefore, Layout.written, kind, sameKind]
    exact ⟨agrees.tail, retold.lineComment kind⟩
  | blockComment =>
    rw [kind] at sameKind
    have value := retold.plain (Or.inr kind)
    have alsoSingle : '\n' ∉ again.value := fun member => single kind (mem_of_mem_trimEnd (value ▸ member))
    simp only [Piece.Same, Layout.piece, Layout.gapBefore, Layout.written, kind, sameKind,
      reindent_eq_self (single kind), reindent_eq_self alsoSingle, agrees.indent, retold.shown (Or.inr kind),
      and_self]
  | clause | continuation =>
    rw [kind] at sameKind
    simp only [Piece.Same, Layout.piece, Layout.gapBefore, Layout.written, kind, sameKind, agrees.indent,
      retold.word (by simp [kind]), and_self]
  | word | literal | number | operator | reserved =>
    have plain : token.kind.isPlain := by rw [kind]; rfl
    have alsoPlain : again.kind.isPlain := sameKind ▸ plain
    have marks := retold.marks plain
    simp only [List.forall_mem_cons, List.not_mem_nil, false_implies, implies_true, and_true] at marks
    obtain ⟨comma, colon, period, semicolon⟩ := marks
    simp only [Piece.Same, Layout.piece, second.gapBefore_plain alsoPlain, first.gapBefore_plain plain,
      second.written_plain alsoPlain, first.written_plain plain, List.mem_cons, List.not_mem_nil, or_false,
      comma, colon, period, semicolon, agrees.tightGap, agrees.tail, retold.shown (Or.inl plain), and_self]

theorem Layout.Agrees.tailAfter (whole : token.kind.isPlain → again.value = token.value) :
    second.tailAfter style again others = first.tailAfter style token rest := by
  obtain ⟨⟨notOpening, notClosing, notPlaceholder⟩, _⟩ := Token.isFlat_iff.mp flat
  have sameKind := retold.kind
  cases kind : token.kind with
  | blank => exact absurd kind notBlank
  | opening => exact absurd kind notOpening
  | closing => exact absurd kind notClosing
  | placeholder => exact absurd kind notPlaceholder
  | lineComment | blockComment | clause =>
    rw [kind] at sameKind
    simp only [Layout.tailAfter, kind, sameKind, agrees.indent]
  | continuation =>
    rw [kind] at sameKind
    simp only [Layout.tailAfter, Layout.written, kind, sameKind, retold.word (Or.inr kind)]
  | word | literal | number | operator | reserved =>
    have plain : token.kind.isPlain := by rw [kind]; rfl
    rw [second.tailAfter_plain (sameKind ▸ plain), first.tailAfter_plain plain, whole plain, agrees.indent,
      agrees.inline, agrees.afterRowLimit]

/-- Layouts still agree after a token that is retold in full. -/
theorem Layout.Agrees.step (blankUnit : IsGap style.indentUnit)
    (whole : token.kind.isPlain → again.value = token.value)
    (visible : trimEnd (first.written style token) ≠ []) (alsoVisible : trimEnd (second.written style again) ≠ []) :
    (first.step style token rest).Agrees (second.step style again others) := by
  obtain ⟨⟨notOpening, notClosing, _⟩, _⟩ := Token.isFlat_iff.mp flat
  have sameKind := retold.kind
  obtain ⟨indent, inline, lastWord⟩ := first.step_frame style rest notOpening notClosing
  obtain ⟨otherIndent, otherInline, otherWord⟩ :=
    second.step_frame style others (sameKind ▸ notOpening) (sameKind ▸ notClosing)
  have tail : (first.step style token rest).tail = first.tailAfter style token rest :=
    (first.step_visible visible notBlank blankUnit).2.1
  have otherTail : (second.step style again others).tail = second.tailAfter style again others :=
    (second.step_visible alsoVisible (sameKind ▸ notBlank) blankUnit).2.1
  refine ⟨?_, ?_, ?_, ?_, ?_⟩
  · rw [indent, otherIndent, sameKind, agrees.indent]
  · rw [inline, otherInline, agrees.inline]
  · rw [lastWord, otherWord, sameKind]
    split
    · rename_i word
      simp only [Option.map_some, retold.word word]
    · exact agrees.lastWord
  · simp only [Layout.step, sameKind, if_neg notBlank, Option.map_some]
  · rw [tail, otherTail]
    exact agrees.tailAfter retold flat notBlank whole

end Step

/-- The first visible token among others becomes the first piece. -/
theorem Layout.pieces_of_visible {style : Style} {token : Token} {later : List Token} :
    ∀ (layout : Layout) (tokens : List Token), visibleTokens tokens = token :: later →
      ∃ atToken rest, layout.Agrees atToken ∧ visibleTokens rest = later ∧ token.kind ≠ .blank ∧
        Layout.pieces style layout tokens =
          atToken.piece style token :: Layout.pieces style (atToken.step style token rest) rest
  | _, [], seen => by cases seen
  | layout, first :: rest, seen => by
    by_cases blank : first.kind = .blank
    · rw [visibleTokens_cons_blank blank] at seen
      obtain ⟨atToken, others, agrees, same⟩ := pieces_of_visible (layout.step style first rest) rest seen
      rw [layout.pieces_cons_blank blank]
      exact ⟨atToken, others, (layout.agrees_step_blank rest blank).trans agrees, same⟩
    · rw [visibleTokens_cons_visible blank] at seen
      obtain ⟨rfl, rfl⟩ := List.cons.inj seen
      refine ⟨layout, rest, ⟨rfl, rfl, rfl, rfl, rfl⟩, rfl, blank, ?_⟩
      exact layout.pieces_cons_visible blank

theorem Layout.pieces_eq_nil {style : Style} (layout : Layout) {tokens : List Token}
    (unseen : visibleTokens tokens = []) : Layout.pieces style layout tokens = [] := by
  have same : (Layout.pieces style layout tokens).map Piece.token = visibleTokens tokens :=
    layout.pieces_token tokens
  rw [unseen] at same
  exact List.map_eq_nil_iff.mp same

/-- Tokens that are retold are laid out in the same pieces. The last of them may lose blanks at its end. -/
theorem Layout.Agrees.pieces {style : Style} (absent : style.params = .absent) (blankUnit : IsGap style.indentUnit)
    {seen seenAgain : List Token} (retold : List.Forall₂ Retold seen seenAgain)
    (flat : ∀ token ∈ seen, token.isFlat) (shows : ∀ token ∈ seen, token.Shows)
    (alsoShows : ∀ token ∈ seenAgain, token.Shows)
    (whole : seen.IsChain fun token _ => token.kind.isPlain → trimEnd token.value = token.value)
    {first second : Layout} (agrees : first.Agrees second) {tokens others : List Token}
    (visible : visibleTokens tokens = seen) (alsoVisible : visibleTokens others = seenAgain) :
    List.Forall₂ Piece.Same (Layout.pieces style first tokens) (Layout.pieces style second others) := by
  induction retold generalizing first second tokens others with
  | nil =>
    rw [first.pieces_eq_nil visible, second.pieces_eq_nil alsoVisible]
    exact .nil
  | @cons token again later laterAgain atToken retold ih =>
    obtain ⟨layout, rest, sameLayout, visible, notBlank, split⟩ := first.pieces_of_visible tokens visible
    obtain ⟨other, restAgain, sameOther, alsoVisible, alsoNotBlank, splitAgain⟩ :=
      second.pieces_of_visible others alsoVisible
    have agrees : layout.Agrees other := (sameLayout.symm.trans agrees).trans sameOther
    have isFlat := flat token List.mem_cons_self
    obtain ⟨someValue, shown⟩ := shows token List.mem_cons_self notBlank
    obtain ⟨someAgain, shownAgain⟩ := alsoShows again List.mem_cons_self alsoNotBlank
    rw [split, splitAgain]
    refine .cons (agrees.piece atToken isFlat notBlank) ?_
    cases retold with
    | nil =>
      rw [Layout.pieces_eq_nil _ visible, Layout.pieces_eq_nil _ alsoVisible]
      exact .nil
    | cons next retold =>
      have trimmed := whole.rel_head? rfl
      refine ih (fun token member => flat token (List.mem_cons_of_mem _ member))
        (fun token member => shows token (List.mem_cons_of_mem _ member))
        (fun token member => alsoShows token (List.mem_cons_of_mem _ member)) whole.tail ?_ visible alsoVisible
      refine agrees.step atToken isFlat notBlank blankUnit (fun plain => ?_)
        (layout.written_visible absent someValue shown).1 (other.written_visible absent someAgain shownAgain).1
      rw [atToken.plain (Or.inl plain), trimmed plain]

end QueryLayout
