import QueryLayout.Proofs.Flat
import QueryLayout.Proofs.Lossless
import QueryLayout.Proofs.Margins
import QueryLayout.Proofs.Statements

namespace QueryLayout

/-- A semicolon that ends a statement. -/
def Token.isSemicolon (token : Token) : Bool :=
  token.kind.isPlain && token.value == [';']

/-- Whether a line that begins with a token is not indented, `last` being the last visible token before it:
a semicolon is not, nor what it is followed by, nor a comma, colon or period that a line comment has pushed into
the next line. Words and brackets that break the line themselves are indented even after a semicolon. -/
def Token.standsFlush (last : Option Token) (token : Token) : Bool :=
  token.isSemicolon ||
    (last.any Token.isSemicolon && !([.clause, .continuation, .blockComment, .closing].contains token.kind)) ||
    (last.any (·.kind == .lineComment) && token.kind.isPlain && [[','], [':'], ['.']].contains token.value)

/-- How many levels of indentation the tokens open, with the tokens `more` after them: one for each clause word
and for each bracket that is not laid out on one line. -/
def levelsOpened (limit : Int) (more : List Token) : List Token → Nat
  | [] => 0
  | token :: rest =>
    let opens := token.kind == .clause || token.kind == .opening && !isInlineGroup limit (token :: (rest ++ more))
    opens.toNat + levelsOpened limit more rest

/-- The blanks that the line of the first of the tokens `rest` begins with. -/
def Layout.margin (style : Style) (before rest : List Token) : List Char :=
  (Layout.lineBefore style before rest).takeWhile isBlank

/-- The line in which the tokens `rest` begin has the first of the tokens `mates ++ rest` at its start. -/
structure Layout.Leads (style : Style) (outer mates rest : List Token) : Prop where
  visible : ∀ lead ∈ (mates ++ rest).head?, lead.kind ≠ .blank
  start : IsGap (Layout.lineBefore style outer (mates ++ rest))
  line : ∃ line, '\n' ∉ line ∧
    Layout.textBefore style (outer ++ mates) rest = Layout.textBefore style outer (mates ++ rest) ++ line

/-- The line in which the tokens `rest` begin has its start inside a token that spans lines. -/
def Layout.Spans (style : Style) (outer : List Token) (token : Token) (mates rest : List Token) : Prop :=
  ∃ shown line, Rendered style 0 token shown ∧ '\n' ∈ shown ∧ '\n' ∉ line ∧
    Layout.textBefore style (outer ++ token :: mates) rest =
      Layout.textBefore style outer (token :: (mates ++ rest)) ++ (shown ++ line)

section Ends

variable {dialect : Dialect} {before : Option Token} {token : Token} {rest : List Char} {rule : Rule}
  (someRaw : token.raw ≠ []) (reads : ReadBy dialect before (token.raw ++ rest) token rule)

include someRaw reads

theorem ReadBy.bracket_trimmed (bracket : token.kind = .opening ∨ token.kind = .closing) :
    trimEnd token.value = token.value := by
  have upper : token.kind.isUpperCased := by rcases bracket with kind | kind <;> rw [kind] <;> rfl
  rcases reads.bracket someRaw bracket with ⟨side, c, symbol, raw⟩ | yields
  · have every : ∀ side ∈ [BracketSide.opening, .closing], ∀ c ∈ dialect.lexicon.symbols side,
        trimEnd (upperCase [c]) = upperCase [c] := by
      cases dialect <;> decide
    rw [Rule.read?_value reads.read, if_pos upper, raw]
    exact every side side.mem_all c symbol
  · obtain ⟨word, entry, raised⟩ := reads.raised someRaw yields
    exact (raised.occurs entry).2.trimmed entry

/-- A placeholder whose quotes are not closed is the last token, and all others end visibly. -/
theorem ReadBy.placeholder_trimmed (placeholder : token.kind = .placeholder) (more : rest ≠ []) :
    trimEnd token.value = token.value := by
  rw [reads.value_raw (placeholder ▸ rfl)]
  have marked : ∀ mark name, token.raw = mark :: name → trimEnd name = name → isBlank mark = false →
      trimEnd token.raw = token.raw := by
    intro mark name raw trimmed visible
    rw [raw, trimEnd_cons_of_visible visible, trimmed]
  cases reads.ofKind placeholder with
  | named =>
    obtain ⟨mark, _, name, raw, _, keys, _⟩ := reads.named someRaw
    have visible := reads.visible someRaw (by simp [Rule.rank])
    rw [raw] at visible
    exact marked mark name raw (trimEnd_of_forall fun c member =>
      isBlank_eq_false_of_isKeyChar (keys c member)) visible
  | quoted =>
    obtain ⟨mark, _, name, raw, found⟩ := reads.quoted someRaw
    have visible := reads.visible someRaw (by simp [Rule.rank])
    rw [raw] at visible
    exact marked mark name raw ((literalExtent?_keep found (fun _ => rfl) fun _ _ => rfl).2 more) visible
  | positional =>
    obtain ⟨mark, _, digits, raw, every, _⟩ := reads.positional someRaw
    have visible := reads.visible someRaw (by simp [Rule.rank])
    rw [raw] at visible
    refine marked mark digits raw (trimEnd_of_forall fun c member => ?_) visible
    exact isBlank_eq_false_of_isWordChar (isWordChar_of_isAsciiDigit (every c member))

/-- A token that another one follows is written with no blanks at its end, unless it is a comment. -/
theorem ReadBy.written_trimmed {style : Style} (absent : style.params = .absent) (more : rest ≠ [])
    (kind : token.kind ∉ [.blank, .lineComment, .blockComment]) (layout : Layout) :
    trimEnd (layout.written style token) = layout.written style token := by
  unfold Layout.written
  cases atKind : token.kind with
  | blank | lineComment | blockComment => simp [atKind] at kind
  | clause | continuation => exact reads.squeeze_trimmed someRaw (by simp [atKind])
  | opening | closing => exact reads.bracket_trimmed someRaw (by simp [atKind])
  | placeholder =>
    rw [absent]
    exact reads.placeholder_trimmed someRaw atKind more
  | literal => exact reads.literal_trimmed someRaw atKind more
  | word | number | operator | reserved => exact reads.value_trimmed someRaw (by simp [atKind])

end Ends

/-- A token as a query has it before its end: it shows unless it is blank, and it is written with no blanks at
its end unless it is a comment. -/
structure Token.Firm (style : Style) (token : Token) : Prop where
  shows : token.Shows
  trimmed : token.kind ∉ [.blank, .lineComment, .blockComment] → ∀ layout : Layout,
    trimEnd (layout.written style token) = layout.written style token

theorem Dialect.firm_of_split {dialect : Dialect} {query : List Char} {before rest : List Token} (unit : List Char)
    (split : tokenize dialect.rules query = before ++ rest) (more : rest ≠ []) :
    ∀ token ∈ before, token.Firm (dialect.style unit .absent) := by
  intro token member
  obtain ⟨outer, between, rfl⟩ := List.append_of_mem member
  obtain ⟨next, later, rfl⟩ := List.exists_cons_of_ne_nil more
  have someNext := (Dialect.reads_at split).1
  rw [List.append_assoc, List.cons_append] at split
  obtain ⟨someRaw, _, rule, reads⟩ := Dialect.reads_at split
  exact ⟨reads.value_visible someRaw, reads.written_trimmed someRaw rfl (by simp [someNext])⟩

/-- The indentation of the line that a token begins. -/
def Layout.lineIndent (layout : Layout) (token : Token) : Indent :=
  match token.kind with
  | .clause => layout.indent.closeClause
  | .closing => if layout.inline then layout.indent else layout.indent.closeNesting
  | _ => layout.indent

/-- What the layout of a query keeps to between its tokens: where the text ends in a line break, the new line
is indented, unless a semicolon was placed last, and a line comment never stands in a group on one line. -/
structure Layout.Settled (style : Style) (layout : Layout) : Prop where
  tail : '\n' ∈ layout.tail → layout.tail =
    if layout.visible.any Token.isSemicolon then ['\n'] else layout.indent.newLine style.indentUnit
  comment : layout.visible.any (·.kind == .lineComment) → layout.inline = false

section Steps

variable {style : Style} {layout : Layout} {token : Token} {rest : List Token}

theorem Layout.step_of_blank (blank : token.kind = .blank) :
    layout.step style token rest = { layout with previous := some token } := by
  simp only [Layout.step, Layout.place, blank, if_true]

theorem Layout.visible_step (notBlank : token.kind ≠ .blank) :
    (layout.step style token rest).visible = some token := by
  simp only [Layout.step, if_neg notBlank]

theorem Token.Firm.rtakeWhile_written (firm : token.Firm style)
    (kind : token.kind ∉ [.blank, .lineComment, .blockComment]) (layout : Layout) :
    (layout.written style token).rtakeWhile isBlank = [] := by
  have whole := trimEnd_append_rtakeWhile (layout.written style token)
  rw [firm.trimmed kind layout] at whole
  simpa using whole

/-- Of the tokens without a rule of their own, a comma and a semicolon break the line. -/
theorem Layout.tailAfter_broken_plain (firm : token.Firm style) (plain : token.kind.isPlain)
    (broken : '\n' ∈ layout.tailAfter style token rest) :
    layout.tailAfter style token rest =
      if token.isSemicolon then ['\n'] else layout.indent.newLine style.indentUnit := by
  have ends : token.value.rtakeWhile isBlank = [] := by
    rw [← layout.written_plain plain]
    refine firm.rtakeWhile_written (fun kind => ?_) layout
    simp only [List.mem_cons, List.not_mem_nil, or_false] at kind
    rcases kind with kind | kind | kind <;> simp [kind, Kind.isPlain] at plain
  rw [layout.tailAfter_plain plain] at broken ⊢
  rw [Token.isSemicolon, plain, Bool.true_and]
  by_cases comma : token.value = [',']
  · rw [if_pos comma] at broken ⊢
    split at broken <;> rename_i breaks
    · simp at broken
    · rw [if_neg breaks, comma]
      rfl
  rw [if_neg comma] at broken ⊢
  by_cases colon : token.value = [':']
  · simp [colon] at broken
  rw [if_neg colon] at broken ⊢
  by_cases period : token.value = ['.']
  · simp [period] at broken
  rw [if_neg period] at broken ⊢
  by_cases semicolon : token.value = [';']
  · simp [semicolon]
  · rw [if_neg semicolon, ends] at broken
    simp at broken

theorem Layout.tailAfter_broken (firm : token.Firm style) (notBlank : token.kind ≠ .blank)
    (broken : '\n' ∈ layout.tailAfter style token rest) :
    layout.tailAfter style token rest = if token.isSemicolon then ['\n']
      else (layout.step style token rest).indent.newLine style.indentUnit := by
  rw [layout.indent_step]
  cases kind : token.kind with
  | blank => exact absurd kind notBlank
  | lineComment | blockComment | clause =>
    simp only [Layout.tailAfter, Token.isSemicolon, kind, Kind.isPlain]
    rfl
  | continuation | closing | placeholder =>
    simp [Layout.tailAfter, kind, firm.rtakeWhile_written] at broken
  | opening =>
    simp only [Layout.tailAfter, Token.isSemicolon, kind, Kind.isPlain] at broken ⊢
    split at broken <;> rename_i breaks
    · simp [firm.rtakeWhile_written, kind] at broken
    · simp only [breaks, Bool.false_eq_true, if_false]
      rfl
  | word | literal | number | operator | reserved =>
    exact Layout.tailAfter_broken_plain firm (by rw [kind]; rfl) broken

theorem Layout.Settled.step (settled : layout.Settled style) (closes : layout.Closes style (token :: rest))
    (firm : token.Firm style) (absent : style.params = .absent) (blankUnit : IsGap style.indentUnit) :
    (layout.step style token rest).Settled style := by
  by_cases notBlank : token.kind = .blank
  · rw [Layout.step_of_blank notBlank]
    exact ⟨settled.tail, settled.comment⟩
  obtain ⟨someValue, visible⟩ := firm.shows notBlank
  have tail : (layout.step style token rest).tail = layout.tailAfter style token rest :=
    (layout.step_visible (layout.written_visible absent someValue visible).1 notBlank blankUnit).2.1
  refine ⟨fun broken => ?_, fun comment => ?_⟩
  · rw [tail] at broken ⊢
    rw [Layout.visible_step notBlank, Option.any_some]
    exact Layout.tailAfter_broken firm notBlank broken
  · rw [Layout.visible_step notBlank, Option.any_some, beq_iff_eq] at comment
    rw [layout.inline_step, comment]
    exact closes.inline_eq_false (by simp [comment, Kind.breaksGroup])

/-- Words and brackets that break the line themselves are indented. -/
theorem Token.standsFlush_of_breaks (kind : token.kind ∈ [.clause, .continuation, .blockComment, .closing])
    (last : Option Token) : token.standsFlush last = false := by
  simp only [List.mem_cons, List.not_mem_nil, or_false] at kind
  rcases kind with kind | kind | kind | kind <;> simp [Token.standsFlush, Token.isSemicolon, kind, Kind.isPlain]

/-- Of the tokens that do not, only marks have rules of their own. -/
theorem Token.standsFlush_of_follows (kind : token.kind ∉ [.clause, .continuation, .blockComment, .closing])
    (unmarked : token.kind.isPlain → token.value ∉ [[','], [':'], ['.'], [';']]) (last : Option Token) :
    token.standsFlush last = last.any Token.isSemicolon := by
  have ownBreak : [Kind.clause, .continuation, .blockComment, .closing].contains token.kind = false := by
    simpa using kind
  have noSemicolon : token.isSemicolon = false := by
    unfold Token.isSemicolon
    cases plain : token.kind.isPlain with
    | false => rfl
    | true => simpa using fun value : token.value = [';'] => unmarked plain (by simp [value])
  have noMark : (token.kind.isPlain && [[','], [':'], ['.']].contains token.value) = false := by
    cases plain : token.kind.isPlain with
    | false => rfl
    | true =>
      have marks := unmarked plain
      simp only [List.mem_cons, List.not_mem_nil, or_false, not_or] at marks
      simp [marks.1, marks.2.1, marks.2.2.1]
  rw [Token.standsFlush, noSemicolon, ownBreak, Bool.and_assoc, noMark]
  simp

/-- Where the text ends in a line break, a semicolon decides whether the new line is indented. -/
theorem Layout.Settled.trailing (settled : layout.Settled style) (broken : '\n' ∈ layout.tail) :
    if layout.visible.any Token.isSemicolon then ∃ front, layout.tail = front ++ ['\n']
    else layout.tail = layout.indent.newLine style.indentUnit := by
  have tail := settled.tail broken
  split at tail <;> rename_i semicolon
  · rw [if_pos semicolon]
    exact ⟨[], tail⟩
  · rwa [if_neg semicolon]

theorem Layout.Settled.gapBefore_plain (settled : layout.Settled style) (plain : token.kind.isPlain)
    (broken : '\n' ∈ layout.gapBefore style token) :
    if token.standsFlush layout.visible then ∃ front, layout.gapBefore style token = front ++ ['\n']
    else layout.gapBefore style token = layout.indent.newLine style.indentUnit := by
  rw [layout.gapBefore_plain plain] at broken ⊢
  by_cases mark : token.value ∈ [[','], [':'], ['.']]
  · rw [if_pos mark] at broken ⊢
    unfold Layout.tightGap at broken ⊢
    split at broken <;> rename_i comment
    · have flush : token.standsFlush layout.visible := by
        simp only [Token.standsFlush, comment, plain, List.contains_iff_mem.mpr mark, Bool.and_self, Bool.or_true]
      rw [if_pos flush, if_pos comment]
      exact ⟨[], rfl⟩
    · simp at broken
  rw [if_neg mark] at broken ⊢
  by_cases semicolon : token.value = [';']
  · have flush : token.standsFlush layout.visible := by
      simp [Token.standsFlush, Token.isSemicolon, plain, semicolon]
    rw [if_pos semicolon, if_pos flush]
    exact ⟨_, rfl⟩
  · have other : token.kind ∉ [.clause, .continuation, .blockComment, .closing] := by
      intro kind
      simp only [List.mem_cons, List.not_mem_nil, or_false] at kind
      rcases kind with kind | kind | kind | kind <;> simp [kind, Kind.isPlain] at plain
    have unmarked : token.value ∉ [[','], [':'], ['.'], [';']] := by simp_all
    rw [if_neg semicolon] at broken ⊢
    rw [Token.standsFlush_of_follows other fun _ => unmarked]
    exact settled.trailing broken

/-- A token that breaks the line does so at the indentation of the line that it begins. -/
theorem Layout.Settled.gapBefore (settled : layout.Settled style) (notBlank : token.kind ≠ .blank)
    (broken : '\n' ∈ layout.gapBefore style token) :
    if token.standsFlush layout.visible then ∃ front, layout.gapBefore style token = front ++ ['\n']
    else layout.gapBefore style token = (layout.lineIndent token).newLine style.indentUnit := by
  cases kind : token.kind with
  | blank => exact absurd kind notBlank
  | clause | continuation | blockComment =>
    rw [Token.standsFlush_of_breaks (by simp [kind])]
    simp [Layout.gapBefore, Layout.lineIndent, kind]
  | closing =>
    rw [Token.standsFlush_of_breaks (by simp [kind])]
    cases inline : layout.inline with
    | true =>
      -- A line comment before it would have kept the group from being laid out on one line.
      simp only [Layout.gapBefore, kind, inline, if_true, Layout.tightGap] at broken
      split at broken <;> rename_i comment
      · rw [settled.comment comment] at inline
        cases inline
      · simp at broken
    | false => simp [Layout.gapBefore, Layout.lineIndent, kind, inline]
  | opening =>
    rw [Token.standsFlush_of_follows (by simp [kind]) (by simp [kind, Kind.isPlain])]
    simp only [Layout.gapBefore, Layout.lineIndent, kind] at broken ⊢
    split at broken <;> rename_i spaced
    · rw [if_pos spaced]
      exact settled.trailing broken
    · simp at broken
  | lineComment | placeholder =>
    rw [Token.standsFlush_of_follows (by simp [kind]) (by simp [kind, Kind.isPlain])]
    simp only [Layout.gapBefore, Layout.lineIndent, kind] at broken ⊢
    exact settled.trailing broken
  | word | literal | number | operator | reserved =>
    have indent : layout.lineIndent token = layout.indent := by simp only [Layout.lineIndent, kind]
    rw [indent]
    exact settled.gapBefore_plain (by rw [kind]; rfl) broken

/-- A token that does not break the line leaves the indentation of the line to what follows. -/
theorem Layout.lineIndent_of_unbroken (unbroken : '\n' ∉ layout.gapBefore style token) :
    layout.lineIndent token = layout.indent := by
  cases kind : token.kind with
  | clause => simp [Layout.gapBefore, kind, Indent.newLine] at unbroken
  | closing =>
    cases inline : layout.inline with
    | true => simp [Layout.lineIndent, kind, inline]
    | false => simp [Layout.gapBefore, kind, inline, Indent.newLine] at unbroken
  | _ => simp [Layout.lineIndent, kind]

theorem Layout.depth_step (closes : layout.Closes style (token :: rest)) :
    (layout.step style token rest).indent.depth =
      (layout.lineIndent token).depth + levelsOpened style.inlineLimit rest [token] := by
  rw [layout.indent_step]
  cases kind : token.kind with
  | opening =>
    have outside := closes.inline_eq_false (Or.inl kind)
    cases group : isInlineGroup style.inlineLimit (token :: rest) <;>
      simp [Layout.lineIndent, levelsOpened, kind, staysInline, outside, group, Indent.openNesting, Indent.depth]
  | closing =>
    cases inline : layout.inline <;> simp [Layout.lineIndent, levelsOpened, kind, inline]
  | _ => simp [Layout.lineIndent, levelsOpened, kind, Indent.openClause, Indent.depth]

theorem levelsOpened_cons (limit : Int) (token : Token) (tokens more : List Token) :
    levelsOpened limit more (token :: tokens) =
      levelsOpened limit (tokens ++ more) [token] + levelsOpened limit more tokens := by
  simp [levelsOpened]

end Steps

section Runs

variable {style : Style} {layout : Layout} {tokens more : List Token} (absent : style.params = .absent)
  (blankUnit : IsGap style.indentUnit) (firm : ∀ token ∈ tokens, token.Firm style)

include absent blankUnit firm

theorem Layout.Settled.upTo (settled : layout.Settled style) (closes : layout.Closes style (tokens ++ more)) :
    (layout.upTo style more tokens).Settled style := by
  induction tokens generalizing layout with
  | nil => exact settled
  | cons token rest ih =>
    have placed := settled.step closes (firm token List.mem_cons_self) absent blankUnit
    exact ih (fun other member => firm other (List.mem_cons_of_mem _ member)) placed closes.step

theorem Layout.settled_reached (rest : List Token) : (Layout.reached style tokens rest).Settled style := by
  have start : ({} : Layout).Settled style := ⟨by simp [Layout.tail, Layout.text, List.rtakeWhile], by simp⟩
  have closes : ({} : Layout).Closes style (tokens ++ rest) := by simp [Layout.Closes]
  exact start.upTo absent blankUnit firm closes

/-- As long as no line is broken, the indentation grows by the levels that are opened. -/
theorem Layout.text_upTo (closes : layout.Closes style (tokens ++ more)) :
    ∃ added, trimEnd (layout.upTo style more tokens).text = trimEnd layout.text ++ added ∧
      ('\n' ∉ added → (layout.upTo style more tokens).indent.depth =
        layout.indent.depth + levelsOpened style.inlineLimit more tokens) := by
  induction tokens generalizing layout with
  | nil => exact ⟨[], by simp [Layout.upTo], fun _ => rfl⟩
  | cons token rest ih =>
    rw [List.cons_append] at closes
    obtain ⟨added, text, depth⟩ := ih (fun other member => firm other (List.mem_cons_of_mem _ member)) closes.step
    have placed := Layout.depth_step closes
    rw [levelsOpened_cons]
    by_cases blank : token.kind = .blank
    · refine ⟨added, ?_, fun unbroken => ?_⟩
      · rw [Layout.upTo, text, (layout.step_blank blank).1]
      · rw [Layout.upTo, depth unbroken, placed, Nat.add_assoc]
        simp only [Layout.lineIndent, blank]
    · obtain ⟨someValue, visible⟩ := (firm token List.mem_cons_self).shows blank
      have shown := (layout.written_visible absent someValue visible).1
      refine ⟨layout.gapBefore style token ++ trimEnd (layout.written style token) ++ added, ?_, fun unbroken => ?_⟩
      · rw [Layout.upTo, text, (layout.step_visible shown blank blankUnit).1]
        simp only [List.append_assoc]
      · simp only [List.mem_append, not_or] at unbroken
        rw [Layout.upTo, depth unbroken.2, placed, Layout.lineIndent_of_unbroken unbroken.1.1, Nat.add_assoc]

end Runs

/-- A text that ends visibly ends in a line that shows. -/
theorem not_isGap_lastLine {text : List Char} (trimmed : trimEnd text = text) (someText : text ≠ []) :
    ¬ IsGap (lastLine text) := by
  have visible := List.rdropWhile_eq_self_iff.mp trimmed someText
  obtain ⟨front, c, rfl⟩ := (List.eq_nil_or_concat' text).resolve_left someText
  rw [List.getLast_concat] at visible
  have notFeed : '\n' ∉ [c] := by
    rw [List.mem_singleton]
    rintro rfl
    exact visible (by decide)
  rw [lastLine_append notFeed]
  simpa using fun _ => visible

/-- A line break hides what stands before it. -/
theorem lastLine_append_of_mem {second : List Char} (broken : '\n' ∈ second) (first : List Char) :
    lastLine (first ++ second) = lastLine second := by
  have single : '\n' ∉ lastLine second := fun member => by simpa using List.mem_rtakeWhile_imp member
  have split : second.rdropWhile (· != '\n') ++ lastLine second = second := List.rdropWhile_append_rtakeWhile
  have someFront : second.rdropWhile (· != '\n') ≠ [] := by
    intro gone
    rw [gone, List.nil_append] at split
    exact single (split.symm ▸ broken)
  have feed : (second.rdropWhile (· != '\n')).getLast someFront = '\n' := by
    simpa using List.rdropWhile_last_not (· != '\n') second someFront
  have front : second.rdropWhile (· != '\n') = (second.rdropWhile (· != '\n')).dropLast ++ ['\n'] := by
    conv_lhs => rw [← List.dropLast_append_getLast someFront, feed]
  calc lastLine (first ++ second)
    _ = lastLine (first ++ (second.rdropWhile (· != '\n')).dropLast ++ ['\n']) ++ lastLine second := by
      rw [← lastLine_append single, List.append_assoc, List.append_assoc, ← List.append_assoc _ ['\n'],
        ← front, split]
    _ = lastLine second := by rw [lastLine_break, List.nil_append]

section Lines

variable {style : Style} {outer mates rest : List Token} {lead : Token}

/-- A token stands at the start of its line if nothing is written before it, or if there is a line break before
it. -/
theorem Layout.isGap_lineBefore_iff (blankUnit : IsGap style.indentUnit) :
    IsGap (Layout.lineBefore style outer (lead :: rest)) ↔
      trimEnd (Layout.reached style outer (lead :: rest)).text = [] ∨
        '\n' ∈ (Layout.reached style outer (lead :: rest)).gapBefore style lead := by
  have gap : IsGap ((Layout.reached style outer (lead :: rest)).gapBefore style lead) :=
    Layout.isGap_gapBefore blankUnit
  by_cases written : trimEnd (Layout.reached style outer (lead :: rest)).text = []
  · rw [Layout.lineBefore, Layout.textBefore_eq_nil blankUnit written]
    simp [written, lastLine, List.rtakeWhile]
  rw [Layout.lineBefore, Layout.textBefore_cons written]
  by_cases broken : '\n' ∈ (Layout.reached style outer (lead :: rest)).gapBefore style lead
  · rw [lastLine_append_of_mem broken]
    exact iff_of_true (fun c member => gap c (List.rtakeWhile_suffix _ _ |>.subset member)) (Or.inr broken)
  · rw [lastLine_append broken, isGap_append]
    refine iff_of_false (fun start => ?_) (by simp [written, broken])
    refine not_isGap_lastLine ?_ ?_ start.1
    · rw [← trimStart_trimEnd, trimEnd_trimEnd]
    · exact trimStart_trimEnd_ne_nil written

/-- The line that a token begins is indented as the token asks for, unless it stands flush. -/
theorem Layout.lineBefore_lead (absent : style.params = .absent) (blankUnit : IsGap style.indentUnit)
    (single : '\n' ∉ style.indentUnit) (firm : ∀ token ∈ outer, token.Firm style) (notBlank : lead.kind ≠ .blank)
    (start : IsGap (Layout.lineBefore style outer (lead :: rest))) :
    Layout.lineBefore style outer (lead :: rest) =
      if lead.standsFlush (visibleTokens outer).getLast? then []
      else ((Layout.reached style outer (lead :: rest)).lineIndent lead).text style.indentUnit := by
  have seen : (Layout.reached style outer (lead :: rest)).visible = (visibleTokens outer).getLast? := by
    rw [Layout.reached, Layout.visible_upTo]
    exact Option.or_none
  by_cases unwritten : trimEnd (Layout.reached style outer (lead :: rest)).text = []
  · have flush := Layout.indent_reached absent blankUnit (fun token member => (firm token member).shows) _ unwritten
    have indent : (Layout.reached style outer (lead :: rest)).lineIndent lead = [] := by
      unfold Layout.lineIndent
      rw [flush]
      repeat' split
      all_goals rfl
    rw [Layout.lineBefore, Layout.textBefore_eq_nil blankUnit unwritten, indent]
    exact (ite_self _).symm
  · have broken := ((Layout.isGap_lineBefore_iff blankUnit).mp start).resolve_left unwritten
    have gap := (Layout.settled_reached absent blankUnit firm (lead :: rest)).gapBefore notBlank broken
    rw [seen] at gap
    rw [Layout.lineBefore, Layout.textBefore_cons unwritten]
    split at gap <;> rename_i flush
    · obtain ⟨front, gap⟩ := gap
      rw [if_pos flush, gap, ← List.append_assoc, lastLine_break]
    · rw [if_neg flush, gap, lastLine_append_newLine single]

/-- The text before a token holds each token before it, after the text before that. As long as the line is not
broken after it, the levels opened since it began add up. -/
theorem Layout.textBefore_append (absent : style.params = .absent) (blankUnit : IsGap style.indentUnit)
    (firm : ∀ token ∈ lead :: mates, token.Firm style) (notBlank : lead.kind ≠ .blank) :
    ∃ added, Layout.textBefore style (outer ++ lead :: mates) rest =
        Layout.textBefore style outer (lead :: (mates ++ rest)) ++
          (trimEnd ((Layout.reached style outer (lead :: (mates ++ rest))).written style lead) ++ added) ∧
      ('\n' ∉ added → (Layout.reached style (outer ++ lead :: mates) rest).indent.depth =
        ((Layout.reached style outer (lead :: (mates ++ rest))).lineIndent lead).depth +
          levelsOpened style.inlineLimit rest (lead :: mates)) := by
  let layout := Layout.reached style outer (lead :: (mates ++ rest))
  let last := Layout.reached style (outer ++ lead :: mates) rest
  have closes : layout.Closes style (lead :: (mates ++ rest)) := Layout.closes_reached outer _
  have reached : last = (layout.step style lead (mates ++ rest)).upTo style rest mates :=
    Layout.reached_append outer mates rest
  obtain ⟨added, text, depth⟩ :=
    Layout.text_upTo absent blankUnit (fun token member => firm token (List.mem_cons_of_mem _ member)) closes.step
  rw [← reached] at text depth
  obtain ⟨someValue, visible⟩ := (firm lead List.mem_cons_self).shows notBlank
  obtain ⟨shown, start⟩ := layout.written_visible absent someValue visible
  refine ⟨added ++ rest.head?.elim [] (last.gapBefore style), ?_, fun unbroken => ?_⟩
  · calc Layout.textBefore style (outer ++ lead :: mates) rest
      _ = trimStart (trimEnd layout.text ++ layout.gapBefore style lead ++
            (trimEnd (layout.written style lead) ++ (added ++ rest.head?.elim [] (last.gapBefore style)))) := by
        change trimStart (trimEnd last.text ++ rest.head?.elim [] (last.gapBefore style)) = _
        rw [text, (layout.step_visible shown notBlank blankUnit).1]
        simp only [List.append_assoc]
      _ = _ := trimStart_append_of_begins shown start _ _
  · rw [List.mem_append, not_or] at unbroken
    change last.indent.depth = (layout.lineIndent lead).depth + _
    rw [depth unbroken.1, Layout.depth_step closes, levelsOpened_cons _ lead mates, Nat.add_assoc]

section Margins

variable {token : Token} {after : List Token} (absent : style.params = .absent) (blankUnit : IsGap style.indentUnit)

include absent blankUnit

/-- A line has the margin of the token that it begins with, and the levels opened in it add up. -/
theorem Layout.Leads.margin_depth (opening : token.kind = .opening) (firm : ∀ token ∈ mates, token.Firm style)
    (leads : Layout.Leads style outer mates (token :: after)) :
    ∃ lead others, mates ++ token :: after = lead :: others ∧
      Layout.margin style (outer ++ mates) (token :: after) = Layout.lineBefore style outer (lead :: others) ∧
      (Layout.reached style (outer ++ mates) (token :: after)).indent.depth =
        ((Layout.reached style outer (lead :: others)).lineIndent lead).depth +
          levelsOpened style.inlineLimit (token :: after) mates := by
  obtain ⟨visible, start, line, unbroken, text⟩ := leads
  cases mates with
  | nil =>
    refine ⟨token, after, rfl, ?_, ?_⟩
    · rw [List.append_nil]
      exact List.takeWhile_eq_self_iff.mpr start
    · simp [Layout.lineIndent, opening, levelsOpened]
  | cons lead mates =>
    rw [List.cons_append] at start text
    obtain ⟨added, whole, depth⟩ := Layout.textBefore_append absent blankUnit firm (visible lead rfl)
    obtain rfl := List.append_cancel_left (text.symm.trans whole)
    refine ⟨lead, mates ++ token :: after, rfl, ?_, depth (List.mem_append.not.mp unbroken |> not_or.mp).2⟩
    obtain ⟨someValue, begun⟩ := (firm lead List.mem_cons_self).shows (visible lead rfl)
    obtain ⟨shown, begun⟩ :=
      (Layout.reached style outer (lead :: (mates ++ token :: after))).written_visible absent someValue begun
    obtain ⟨c, word, split⟩ := List.exists_cons_of_ne_nil shown
    have visible : ¬ isBlank c := by simpa [split] using begun
    have line : Layout.lineBefore style (outer ++ lead :: mates) (token :: after) =
        Layout.lineBefore style outer (lead :: (mates ++ token :: after)) ++ (c :: word ++ added) := by
      rw [Layout.lineBefore, text, lastLine_append unbroken, split, Layout.lineBefore]
    rw [Layout.margin, line, List.takeWhile_append_of_pos start, List.cons_append,
      List.takeWhile_cons_of_neg visible, List.append_nil]

/-- The margin of the line that holds a bracket is the indentation at the bracket, less the levels opened before
it in the same line. -/
theorem Layout.Leads.margin_eq (single : '\n' ∉ style.indentUnit) (opening : token.kind = .opening)
    (firm : ∀ token ∈ outer ++ mates, token.Firm style) (leads : Layout.Leads style outer mates (token :: after)) :
    ∃ lead ∈ (mates ++ token :: after).head?, if lead.standsFlush (visibleTokens outer).getLast? then
        Layout.margin style (outer ++ mates) (token :: after) = []
      else ∃ level, Layout.margin style (outer ++ mates) (token :: after) =
          (List.replicate level style.indentUnit).flatten ∧
        (Layout.reached style (outer ++ mates) (token :: after)).indent.depth =
          level + levelsOpened style.inlineLimit (token :: after) mates := by
  obtain ⟨lead, others, first, margin, depth⟩ :=
    leads.margin_depth absent blankUnit opening fun token member => firm token (List.mem_append_right _ member)
  obtain ⟨visible, start, _⟩ := leads
  rw [first] at visible start
  have line := Layout.lineBefore_lead absent blankUnit single
    (fun token member => firm token (List.mem_append_left _ member)) (visible lead rfl) start
  refine ⟨lead, by simp [first], ?_⟩
  rw [margin, line]
  split
  · rfl
  · exact ⟨_, rfl, depth⟩

end Margins

end Lines

/-- How the last line of a text begins that is written for the tokens `before`, where the tokens `rest` follow:
with one of the tokens, or inside one. -/
inductive Layout.LineOrigin (style : Style) (before rest : List Token) (text : List Char) : Prop
  | lead (outer : List Token) (lead : Token) (mates : List Token) (line : List Char) :
      before = outer ++ lead :: mates → lead.kind ≠ .blank →
      IsGap (Layout.lineBefore style outer (lead :: (mates ++ rest))) → '\n' ∉ line →
      text = Layout.textBefore style outer (lead :: (mates ++ rest)) ++ line → LineOrigin style before rest text
  | inside (outer : List Token) (token : Token) (mates : List Token) (shown line : List Char) :
      before = outer ++ token :: mates → Rendered style 0 token shown → '\n' ∈ shown → '\n' ∉ line →
      text = Layout.textBefore style outer (token :: (mates ++ rest)) ++ (shown ++ line) →
      LineOrigin style before rest text

section Origins

variable {style : Style} {before rest : List Token} {text : List Char} {token : Token}

theorem Layout.LineOrigin.append (origin : Layout.LineOrigin style before rest text) {more : List Char}
    (unbroken : '\n' ∉ more) : Layout.LineOrigin style before rest (text ++ more) := by
  cases origin with
  | lead outer first mates line split notBlank start single whole =>
    exact .lead outer first mates (line ++ more) split notBlank start (by simp [single, unbroken]) (by simp [whole])
  | inside outer first mates shown line split rendered spans single whole =>
    exact .inside outer first mates shown (line ++ more) split rendered spans (by simp [single, unbroken])
      (by simp [whole])

theorem Layout.LineOrigin.pass (origin : Layout.LineOrigin style before (token :: rest) text) :
    Layout.LineOrigin style (before ++ [token]) rest text := by
  cases origin with
  | lead outer first mates line split notBlank start single whole =>
    exact .lead outer first (mates ++ [token]) line (by simp [split]) notBlank (by simpa using start) single
      (by simpa using whole)
  | inside outer first mates shown line split rendered spans single whole =>
    exact .inside outer first (mates ++ [token]) shown line (by simp [split]) rendered spans single
      (by simpa using whole)

variable (absent : style.params = .absent) (blankUnit : IsGap style.indentUnit)

include absent blankUnit

/-- The last line of what is written begins somewhere. -/
theorem Layout.exists_lineOrigin (firm : ∀ token ∈ before, token.Firm style) (rest : List Token)
    (written : trimEnd (Layout.reached style before rest).text ≠ []) :
    Layout.LineOrigin style before rest (trimStart (trimEnd (Layout.reached style before rest).text)) := by
  induction before using List.reverseRecOn generalizing rest with
  | nil => exact absurd rfl written
  | append_singleton before token ih =>
    let layout := Layout.reached style before (token :: rest)
    have earlier := ih (fun other member => firm other (List.mem_append_left _ member)) (token :: rest)
    have reached : Layout.reached style (before ++ [token]) rest = layout.step style token rest :=
      Layout.reached_append before [] rest
    rw [reached] at written ⊢
    by_cases blank : token.kind = .blank
    · rw [(layout.step_blank blank).1] at written ⊢
      exact (earlier written).pass
    obtain ⟨someValue, visible⟩ := (firm token (by simp)).shows blank
    have rendered := layout.rendered_piece absent token
    obtain ⟨shown, start⟩ := layout.written_visible absent someValue visible
    have whole : trimStart (trimEnd (layout.step style token rest).text) =
        Layout.textBefore style before (token :: rest) ++ trimEnd (layout.written style token) := by
      have kept := trimStart_append_of_begins shown start (trimEnd layout.text ++ layout.gapBefore style token) []
      rw [List.append_nil, List.append_assoc] at kept
      rw [(layout.step_visible shown blank blankUnit).1, kept]
      rfl
    rw [whole]
    by_cases spans : '\n' ∈ trimEnd (layout.written style token)
    · exact .inside before token [] _ [] rfl rendered spans (by simp) (by rw [List.append_nil]; rfl)
    by_cases start : IsGap (Layout.lineBefore style before (token :: rest))
    · exact .lead before token [] _ rfl blank start spans rfl
    · rw [Layout.isGap_lineBefore_iff blankUnit, not_or] at start
      rw [Layout.textBefore_cons start.1]
      exact (((earlier start.1).append start.2).append spans).pass

/-- Every line begins with a token or inside one. -/
theorem Layout.leads_or_spans (firm : ∀ token ∈ before, token.Firm style) (notBlank : token.kind ≠ .blank)
    (after : List Token) :
    (∃ outer mates, before = outer ++ mates ∧ Layout.Leads style outer mates (token :: after)) ∨
      ∃ outer spanning mates, before = outer ++ spanning :: mates ∧
        Layout.Spans style outer spanning mates (token :: after) := by
  by_cases start : IsGap (Layout.lineBefore style before (token :: after))
  · exact Or.inl ⟨before, [], (List.append_nil _).symm, by simpa using notBlank, start, [], by simp, by simp⟩
  rw [Layout.isGap_lineBefore_iff blankUnit, not_or] at start
  have origin := (Layout.exists_lineOrigin absent blankUnit firm (token :: after) start.1).append start.2
  rw [← Layout.textBefore_cons start.1] at origin
  cases origin with
  | lead outer lead mates line split notBlank start single whole =>
    exact Or.inl ⟨outer, lead :: mates, split, by simpa using notBlank, start, line, single, split ▸ whole⟩
  | inside outer spanning mates shown line split rendered spans single whole =>
    exact Or.inr ⟨outer, spanning, mates, split, shown, line, rendered, spans, single, split ▸ whole⟩

end Origins

end QueryLayout
