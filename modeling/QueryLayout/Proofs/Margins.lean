import QueryLayout.Proofs.Nesting
import QueryLayout.Proofs.Stability

namespace QueryLayout

/-- The line that a text ends in. -/
def lastLine (text : List Char) : List Char :=
  text.rtakeWhile (· != '\n')

/-- The layout in which the tokens `rest` are placed, after the tokens before them. -/
def Layout.reached (style : Style) (before rest : List Token) : Layout :=
  ({} : Layout).upTo style rest before

/-- What stands in the finished text before the first of the tokens `rest`, with the gap before it. -/
def Layout.textBefore (style : Style) (before rest : List Token) : List Char :=
  let layout := Layout.reached style before rest
  trimStart (trimEnd layout.text ++ rest.head?.elim [] (layout.gapBefore style))

/-- What stands before the first of the tokens `rest` in its line. -/
def Layout.lineBefore (style : Style) (before rest : List Token) : List Char :=
  lastLine (Layout.textBefore style before rest)

section Lines

variable {first second unit : List Char}

theorem lastLine_append (single : '\n' ∉ second) (first : List Char) :
    lastLine (first ++ second) = lastLine first ++ second := by
  have whole : ∀ c ∈ second.reverse, (c != '\n') = true := by
    intro c member
    have other : c ≠ '\n' := fun feed => single (feed ▸ List.mem_reverse.mp member)
    simpa using other
  unfold lastLine List.rtakeWhile
  rw [List.reverse_append, List.takeWhile_append_of_pos whole, List.reverse_append, List.reverse_reverse]

theorem lastLine_break (first : List Char) : lastLine (first ++ ['\n']) = [] :=
  List.rtakeWhile_concat_neg _ _ _ (by decide)

theorem Indent.not_mem_text (single : '\n' ∉ unit) (indent : Indent) : '\n' ∉ indent.text unit := by
  simp only [Indent.text, List.mem_flatten, List.mem_replicate]
  rintro ⟨_, ⟨_, rfl⟩, member⟩
  exact single member

theorem lastLine_append_newLine (single : '\n' ∉ unit) (indent : Indent) (first : List Char) :
    lastLine (first ++ indent.newLine unit) = indent.text unit := by
  rw [Indent.newLine, ← List.singleton_append, ← List.append_assoc, lastLine_append (indent.not_mem_text single),
    lastLine_break, List.nil_append]

theorem trimStart_eq_nil_iff {text : List Char} : trimStart text = [] ↔ IsGap text :=
  List.dropWhile_eq_nil_iff

theorem trimStart_trimEnd_ne_nil {text : List Char} (visible : trimEnd text ≠ []) :
    trimStart (trimEnd text) ≠ [] := by
  intro gone
  rw [trimStart_eq_nil_iff, ← trimEnd_eq_nil_iff, trimEnd_trimEnd] at gone
  exact visible gone

/-- A text that begins visibly protects itself and all that stands behind it. -/
theorem trimStart_append_of_begins {shown : List Char} (someShown : shown ≠ [])
    (visible : begins isBlank shown = false) (first later : List Char) :
    trimStart (first ++ (shown ++ later)) = trimStart first ++ (shown ++ later) := by
  obtain ⟨c, word, rfl⟩ := List.exists_cons_of_ne_nil someShown
  exact trimStart_append_cons first visible (word ++ later)

/-- A margin tells how many units it is made of. -/
theorem depth_unique (someUnit : unit ≠ []) {depth other : Nat}
    (same : (List.replicate depth unit).flatten = (List.replicate other unit).flatten) : depth = other := by
  have lengths := congrArg List.length same
  have positive : 0 < unit.length := List.length_pos_iff.mpr someUnit
  simpa [Nat.mul_left_inj positive.ne'] using lengths

end Lines

section Middle

variable {style : Style} {layout : Layout} {token : Token} {rest more : List Token}

theorem Layout.upTo_append (layout : Layout) (first second more : List Token) :
    layout.upTo style more (first ++ second) =
      (layout.upTo style (second ++ more) first).upTo style more second := by
  induction first generalizing layout with
  | nil => rfl
  | cons token rest ih => rw [List.cons_append, Layout.upTo, Layout.upTo, ih, List.append_assoc]

/-- What every step keeps is kept up to any token. -/
theorem Layout.upTo_keeps (holds : Layout → Prop) {tokens : List Token}
    (kept : ∀ layout token rest, token ∈ tokens → holds layout → holds (layout.step style token rest))
    (start : holds layout) : holds (layout.upTo style more tokens) := by
  induction tokens generalizing layout with
  | nil => exact start
  | cons token rest ih =>
    refine ih (fun layout other rest member => kept layout other rest (List.mem_cons_of_mem _ member)) ?_
    exact kept layout token _ List.mem_cons_self start

theorem Layout.Closes.upTo {tokens : List Token} (closes : layout.Closes style (tokens ++ more)) :
    (layout.upTo style more tokens).Closes style more := by
  induction tokens generalizing layout with
  | nil => exact closes
  | cons token rest ih => exact ih closes.step

theorem Layout.closes_reached (before rest : List Token) :
    (Layout.reached style before rest).Closes style rest := by
  have start : ({} : Layout).Closes style (before ++ rest) := fun inline => by cases inline
  exact start.upTo

theorem Layout.reached_append (before between rest : List Token) :
    Layout.reached style (before ++ token :: between) rest =
      ((Layout.reached style before (token :: (between ++ rest))).step style token (between ++ rest)).upTo
        style rest between :=
  Layout.upTo_append {} before (token :: between) rest

/-- The text before a token, once anything is written. -/
theorem Layout.textBefore_cons {before : List Token}
    (written : trimEnd (Layout.reached style before (token :: rest)).text ≠ []) :
    Layout.textBefore style before (token :: rest) =
      trimStart (trimEnd (Layout.reached style before (token :: rest)).text) ++
        (Layout.reached style before (token :: rest)).gapBefore style token := by
  change trimStart (_ ++ (Layout.reached style before (token :: rest)).gapBefore style token) = _
  rw [trimStart_append, if_neg (trimStart_trimEnd_ne_nil written)]

theorem Layout.textBefore_eq_nil {before : List Token} (blankUnit : IsGap style.indentUnit)
    (unwritten : trimEnd (Layout.reached style before (token :: rest)).text = []) :
    Layout.textBefore style before (token :: rest) = [] := by
  change trimStart (_ ++ (Layout.reached style before (token :: rest)).gapBefore style token) = _
  rw [unwritten, List.nil_append]
  exact trimStart_eq_nil_iff.mpr (Layout.isGap_gapBefore blankUnit)

end Middle

section Text

variable {style : Style} {before after : List Token} {token : Token} (absent : style.params = .absent)
  (blankUnit : IsGap style.indentUnit)

include absent blankUnit

/-- Nothing is indented before anything is written. -/
theorem Layout.indent_reached (shows : ∀ token ∈ before, token.Shows) (rest : List Token)
    (unwritten : trimEnd (Layout.reached style before rest).text = []) :
    (Layout.reached style before rest).indent = [] := by
  refine Layout.upTo_keeps (fun layout => trimEnd layout.text = [] → layout.indent = [])
    (fun layout token rest member flush unwritten => ?_) (fun _ => rfl) unwritten
  by_cases blank : token.kind = .blank
  · rw [layout.indent_step, blank]
    rw [(layout.step_blank blank).1] at unwritten
    exact flush unwritten
  · obtain ⟨someValue, visible⟩ := shows token member blank
    have shown := (layout.written_visible absent someValue visible).1
    rw [(layout.step_visible shown blank blankUnit).1] at unwritten
    exact absurd (List.append_eq_nil_iff.mp (List.append_eq_nil_iff.mp unwritten).2).2 shown

/-- The text before a token, the token and all that is written after it. -/
theorem layoutTokens_split (shows : ∀ other ∈ before ++ token :: after, other.Shows)
    (notBlank : token.kind ≠ .blank) :
    ∃ later, layoutTokens style (before ++ token :: after) = Layout.textBefore style before (token :: after) ++
      (trimEnd ((Layout.reached style before (token :: after)).written style token) ++ later) := by
  let layout := Layout.reached style before (token :: after)
  let next := layout.step style token after
  obtain ⟨someValue, visible⟩ := shows token (by simp) notBlank
  obtain ⟨shown, start⟩ := layout.written_visible absent someValue visible
  have laterShows : ∀ other ∈ after, other.Shows := fun other member => shows other (by simp [member])
  have text : trimEnd (Layout.run style {} (before ++ token :: after)).text =
      trimEnd layout.text ++ layout.gapBefore style token ++
        (trimEnd (layout.written style token) ++ Piece.join (next.shownPieces style after)) := by
    rw [Layout.run_append, Layout.run, Layout.text_run blankUnit laterShows]
    change trimEnd (layout.step style token after).text ++ _ = _
    rw [(layout.step_visible shown notBlank blankUnit).1]
    simp only [List.append_assoc]
    rfl
  refine ⟨Piece.join (next.shownPieces style after), ?_⟩
  calc layoutTokens style (before ++ token :: after)
    _ = trimStart (trimEnd (Layout.run style {} (before ++ token :: after)).text) := (trimStart_trimEnd _).symm
    _ = trimStart (trimEnd layout.text ++ layout.gapBefore style token) ++
          (trimEnd (layout.written style token) ++ Piece.join (next.shownPieces style after)) := by
      rw [text, trimStart_append_of_begins shown start]

/-- A token that comes with a line break of its own begins a line with the indentation of the break. At the
start of the text the break is left out, and there is nothing to indent. -/
theorem Layout.lineBefore_newLine (single : '\n' ∉ style.indentUnit) (shows : ∀ token ∈ before, token.Shows)
    {indent : Indent}
    (gap : (Layout.reached style before (token :: after)).gapBefore style token = indent.newLine style.indentUnit)
    (flush : (Layout.reached style before (token :: after)).indent = [] → indent = []) :
    Layout.lineBefore style before (token :: after) = indent.text style.indentUnit := by
  by_cases unwritten : trimEnd (Layout.reached style before (token :: after)).text = []
  · rw [Layout.lineBefore, Layout.textBefore_eq_nil blankUnit unwritten,
      flush (Layout.indent_reached absent blankUnit shows _ unwritten)]
    rfl
  · rw [Layout.lineBefore, Layout.textBefore_cons unwritten, gap, lastLine_append_newLine single]

end Text

section Clauses

variable {dialect : Dialect} {token : Token}

theorem ReadBy.squeeze_trimmed {before : Option Token} {rest : List Char} {rule : Rule} (someRaw : token.raw ≠ [])
    (reads : ReadBy dialect before (token.raw ++ rest) token rule)
    (word : token.kind = .clause ∨ token.kind = .continuation) :
    trimEnd (squeeze token.value) = squeeze token.value := by
  have yields := reads.yields (by rcases word with kind | kind <;> simp [kind])
  obtain ⟨phrase, entry, raised⟩ := reads.raised someRaw yields
  exact ((raised.squeeze entry).occurs entry).2.trimmed entry

/-- Up to the next word on the same level, a clause keeps the indentation of its body. -/
theorem Layout.indent_after_clause (style : Style) (before : List Token) {between : List Token}
    (clause : token.kind = .clause) (closed : balanced 0 between) (rest : List Token) :
    (Layout.reached style (before ++ token :: between) rest).indent =
      (Layout.reached style before (token :: (between ++ rest))).indent.closeClause.openClause := by
  let layout := Layout.reached style before (token :: (between ++ rest))
  have outside : (layout.step style token (between ++ rest)).inline = false := by
    rw [layout.inline_step, clause]
    exact (Layout.closes_reached before _).inline_eq_false (by simp [clause, Kind.breaksGroup])
  have indent : (layout.step style token (between ++ rest)).indent = layout.indent.closeClause.openClause := by
    rw [layout.indent_step, clause]
  rw [Layout.reached_append]
  obtain ⟨_, same | same⟩ := Layout.upTo_balanced style _ outside closed rest
  · exact same.trans indent
  · refine same.trans ?_
    rw [indent]
    rfl

end Clauses

section Query

variable {dialect : Dialect} {unit query : List Char} {before after : List Token} {token : Token}
  (isUnit : ∀ c ∈ unit, c = ' ' ∨ c = '\t')

include isUnit

theorem isGap_of_isUnit : IsGap unit := by
  intro c member
  rcases isUnit c member with rfl | rfl <;> decide

theorem not_mem_of_isUnit : '\n' ∉ unit := by
  intro member
  rcases isUnit _ member with feed | feed <;> revert feed <;> decide

variable (split : tokenize dialect.rules query = before ++ token :: after)

include split

theorem Dialect.format_split (notBlank : token.kind ≠ .blank) :
    ∃ later, dialect.format unit .absent query =
      Layout.textBefore (dialect.style unit .absent) before (token :: after) ++
        (trimEnd ((Layout.reached (dialect.style unit .absent) before (token :: after)).written
          (dialect.style unit .absent) token) ++ later) := by
  have shows : ∀ other ∈ before ++ token :: after, other.Shows := split ▸ dialect.shows_tokenize query
  unfold Dialect.format layoutQuery
  rw [split]
  exact layoutTokens_split rfl (isGap_of_isUnit isUnit) shows notBlank

theorem Dialect.format_word (word : token.kind = .clause ∨ token.kind = .continuation) :
    ∃ later, dialect.format unit .absent query =
      Layout.textBefore (dialect.style unit .absent) before (token :: after) ++ (squeeze token.value ++ later) := by
  have notBlank : token.kind ≠ .blank := by rcases word with kind | kind <;> simp [kind]
  have member : token ∈ tokenize dialect.rules query := by simp [split]
  obtain ⟨someRaw, _, _, _, reads⟩ := Dialect.reads_of_mem member
  have written : ∀ layout : Layout, layout.written (dialect.style unit .absent) token = squeeze token.value := by
    intro layout
    rcases word with kind | kind <;> simp only [Layout.written, kind]
  obtain ⟨later, whole⟩ := Dialect.format_split isUnit split notBlank
  rw [written, reads.squeeze_trimmed someRaw word] at whole
  exact ⟨later, whole⟩

theorem Dialect.lineBefore_clause (clause : token.kind = .clause) :
    Layout.lineBefore (dialect.style unit .absent) before (token :: after) =
      (Layout.reached (dialect.style unit .absent) before (token :: after)).indent.closeClause.text unit := by
  have shows : ∀ other ∈ before ++ token :: after, other.Shows := split ▸ dialect.shows_tokenize query
  refine Layout.lineBefore_newLine rfl (isGap_of_isUnit isUnit) (not_mem_of_isUnit isUnit)
    (fun other member => shows other (List.mem_append_left _ member)) ?_ fun flush => ?_
  · simp only [Layout.gapBefore, clause]
  · rw [flush]
    rfl

theorem Dialect.lineBefore_continuation (continuation : token.kind = .continuation) :
    Layout.lineBefore (dialect.style unit .absent) before (token :: after) =
      (Layout.reached (dialect.style unit .absent) before (token :: after)).indent.text unit := by
  have shows : ∀ other ∈ before ++ token :: after, other.Shows := split ▸ dialect.shows_tokenize query
  refine Layout.lineBefore_newLine rfl (isGap_of_isUnit isUnit) (not_mem_of_isUnit isUnit)
    (fun other member => shows other (List.mem_append_left _ member)) ?_ id
  simp only [Layout.gapBefore, continuation]

end Query

/-- Clause and continuation words begin their lines, after nothing but units of indentation. The clauses of one
level, with only closed brackets between them, are indented alike, and the continuations of a clause one level
deeper. -/
theorem Dialect.clauses_aligned (dialect : Dialect) {unit : List Char} (someUnit : unit ≠ [])
    (isUnit : ∀ c ∈ unit, c = ' ' ∨ c = '\t') (query : List Char) :
    (∀ before token after, tokenize dialect.rules query = before ++ token :: after →
      token.kind = .clause ∨ token.kind = .continuation →
      (∃ later, dialect.format unit .absent query =
        Layout.textBefore (dialect.style unit .absent) before (token :: after) ++ (squeeze token.value ++ later)) ∧
      ∃! depth, Layout.lineBefore (dialect.style unit .absent) before (token :: after) =
        (List.replicate depth unit).flatten) ∧
    ∀ before first between second after,
      tokenize dialect.rules query = before ++ first :: (between ++ second :: after) →
      first.kind = .clause → balanced 0 between →
      ∀ depth, Layout.lineBefore (dialect.style unit .absent) before (first :: (between ++ second :: after)) =
          (List.replicate depth unit).flatten →
        (second.kind = .clause →
          Layout.lineBefore (dialect.style unit .absent) (before ++ first :: between) (second :: after) =
            (List.replicate depth unit).flatten) ∧
        (second.kind = .continuation →
          Layout.lineBefore (dialect.style unit .absent) (before ++ first :: between) (second :: after) =
            (List.replicate (depth + 1) unit).flatten) := by
  refine ⟨fun before token after split word => ⟨Dialect.format_word isUnit split word, ?_⟩, ?_⟩
  · have level : ∃ indent : Indent,
        Layout.lineBefore (dialect.style unit .absent) before (token :: after) = indent.text unit := by
      rcases word with clause | continuation
      · exact ⟨_, Dialect.lineBefore_clause isUnit split clause⟩
      · exact ⟨_, Dialect.lineBefore_continuation isUnit split continuation⟩
    obtain ⟨indent, line⟩ := level
    exact ⟨indent.depth, line, fun other same => depth_unique someUnit (same.symm.trans line)⟩
  · intro before first between second after split clause closed depth line
    have again : tokenize dialect.rules query = (before ++ first :: between) ++ second :: after := by
      rw [split, List.append_assoc, List.cons_append]
    have body := Layout.indent_after_clause (dialect.style unit .absent) before clause closed (second :: after)
    rw [Dialect.lineBefore_clause isUnit split clause] at line
    obtain rfl := depth_unique someUnit line.symm
    refine ⟨fun alsoClause => ?_, fun continuation => ?_⟩
    · rw [Dialect.lineBefore_clause isUnit again alsoClause, body]
      rfl
    · rw [Dialect.lineBefore_continuation isUnit again continuation, body]
      rfl

/-- An open bracket before a clause, and a closed one in it. -/
theorem Dialect.clauses_aligned_open :
    let opening : Token := ⟨.opening, ['('], ['('], []⟩
    let select : Token := ⟨.clause, "SELECT".toList, "select".toList, []⟩
    let blank : Token := ⟨.blank, [' '], [' '], []⟩
    let group : List Token := [opening, ⟨.number, ['1'], ['1'], []⟩, ⟨.closing, [')'], [')'], []⟩, blank]
    let junction : Token := ⟨.continuation, "AND".toList, "and".toList, []⟩
    let later : Token := ⟨.clause, "FROM".toList, "from".toList, []⟩
    let style := Dialect.standard.style ['\t'] .absent
    tokenize Dialect.standard.rules "(select(1) and from".toList =
        opening :: select :: (group ++ [junction, blank, later]) ∧
      balanced 0 group ∧
      Layout.lineBefore style [opening] (select :: (group ++ [junction, blank, later])) = ['\t'] ∧
      Layout.lineBefore style (opening :: select :: group) [junction, blank, later] = ['\t', '\t'] ∧
      Layout.lineBefore style (opening :: select :: (group ++ [junction, blank])) [later] = ['\t'] := by
  intro opening select blank group junction later style
  have tokens : tokenize Dialect.standard.rules "(select(1) and from".toList =
      opening :: select :: (group ++ [junction, blank, later]) := by
    decide +kernel
  have line : Layout.lineBefore style [opening] (select :: (group ++ [junction, blank, later])) = ['\t'] := by
    decide +kernel
  have aligned :=
    (Dialect.clauses_aligned .standard (show ['\t'] ≠ [] by simp) (by simp) "(select(1) and from".toList).2
  refine ⟨tokens, by decide, line, ?_, ?_⟩
  · exact (aligned [opening] select group junction [blank, later] tokens rfl (by decide) 1 line).2 rfl
  · exact (aligned [opening] select (group ++ [junction, blank]) later [] tokens rfl (by decide) 1 line).1 rfl

end QueryLayout
