import QueryLayout.Proofs.Front
import QueryLayout.Proofs.Nesting
import QueryLayout.Proofs.Respacing
import QueryLayout.Proofs.Stability

namespace QueryLayout

/-- The token of a semicolon by itself. -/
def semicolon : Token :=
  Token.ofRaw .operator [';'] []

theorem Layout.eq_of_text {first second : Layout} (indent : first.indent = second.indent)
    (inline : first.inline = second.inline) (cursor : first.cursor = second.cursor)
    (lastWord : first.lastWord = second.lastWord) (previous : first.previous = second.previous)
    (visible : first.visible = second.visible) (text : first.text = second.text) : first = second := by
  have output : first.output = second.output := List.reverse_injective text
  cases first
  cases second
  simp_all only

section Look

variable {style : Style} {layout : Layout}

/-- A layout looks back at the last visible token. -/
theorem Layout.visible_upTo (more tokens : List Token) :
    (layout.upTo style more tokens).visible = (visibleTokens tokens).getLast?.or layout.visible := by
  induction tokens generalizing layout with
  | nil => rfl
  | cons token rest ih =>
    rw [Layout.upTo, ih]
    by_cases blank : token.kind = .blank
    · simp [Layout.step, visibleTokens, blank]
    · simp [Layout.step, visibleTokens, blank, List.getLast?_cons]

theorem Layout.visible_run (tokens : List Token) :
    (Layout.run style layout tokens).visible = (visibleTokens tokens).getLast?.or layout.visible := by
  have whole : Layout.run style layout (tokens ++ []) = layout.upTo style [] tokens := layout.run_append tokens []
  rw [← Layout.visible_upTo [] tokens, ← whole, List.append_nil]

/-- Only values in sequence move the cursor. -/
theorem Layout.cursor_run (unordered : ∀ values, style.params ≠ .positional values) (tokens : List Token) :
    (Layout.run style layout tokens).cursor = layout.cursor := by
  induction tokens generalizing layout with
  | nil => rfl
  | cons token rest ih =>
    rw [Layout.run, ih]
    change (layout.place style token rest).cursor = layout.cursor
    by_cases kind : token.kind = .placeholder
    · have resolved : (style.params.resolve layout.cursor token).2 = layout.cursor := by
        cases params : style.params with
        | absent => rfl
        | named => rfl
        | positional values => exact absurd params (unordered values)
      simp only [Layout.place, kind]
      exact resolved
    · exact layout.cursor_place rest kind

/-- A semicolon stands on a line of its own. -/
theorem Layout.text_step_semicolon (rest : List Token) (noComment : layout.tightGap = []) :
    (layout.step style semicolon rest).text = trimEnd layout.text ++ ['\n', ';', '\n'] := by
  change (layout.placePlain style semicolon).text = _
  rw [Layout.text_placePlain]
  simp [semicolon, Token.ofRaw, Kind.isUpperCased, noComment]

end Look

section Clause

variable {style : Style} {clause : Token} (isClause : clause.kind = .clause)
  (shown : trimEnd (squeeze clause.value) ≠ [])

include isClause

theorem Layout.text_step_clause (layout : Layout) (shown : trimEnd (squeeze clause.value) ≠ [])
    (outermost : layout.indent.closeClause = []) (rest : List Token) :
    (layout.step style clause rest).text = trimEnd layout.text ++
      ('\n' :: trimEnd (squeeze clause.value)) ++ Indent.newLine [.clause] style.indentUnit := by
  change (layout.place style clause rest).text = _
  simp only [Layout.place, isClause, Layout.text_placeClause]
  rw [trimEnd_append_of_ne_nil shown, outermost]
  simp [Indent.newLine, Indent.text, Indent.depth, Indent.openClause]

include shown

/-- Where a clause word begins a line that is not indented, the text before it has no part in what follows. -/
theorem Layout.step_clause (layout : Layout) (outside : layout.inline = false)
    (outermost : layout.indent.closeClause = []) (start : layout.cursor = 0) (previous : Option Token)
    (rest : List Token) :
    layout.step style clause rest =
      ((({} : Layout).recalling previous).step style clause rest).behind (trimEnd layout.text) := by
  have cursor : ∀ other : Layout, (other.step style clause rest).cursor = other.cursor :=
    fun other => other.cursor_place rest (by simp [isClause])
  refine Layout.eq_of_text ?_ ?_ ?_ ?_ rfl ?_ ?_
  · change _ = ((({} : Layout).recalling previous).step style clause rest).indent
    rw [layout.indent_step, Layout.indent_step, isClause]
    simp only [outermost]
    rfl
  · change _ = ((({} : Layout).recalling previous).step style clause rest).inline
    rw [layout.inline_step, Layout.inline_step, isClause, outside]
    rfl
  · exact (cursor layout).trans (start.trans (cursor (({} : Layout).recalling previous)).symm)
  · change _ = ((({} : Layout).recalling previous).step style clause rest).lastWord
    rw [layout.lastWord_step, Layout.lastWord_step, isClause]
  · simp only [Layout.step, Layout.behind, Layout.recast, isClause, reduceCtorEq, if_false]
  · rw [Layout.text_behind, layout.text_step_clause isClause shown outermost,
      Layout.text_step_clause isClause (({} : Layout).recalling previous) shown rfl, List.append_assoc]
    rfl

/-- A layout that begins with a clause word begins with a line break and the word. -/
theorem Layout.text_run_clause (previous : Option Token) (rest : List Token) :
    ∃ later, (Layout.run style (({} : Layout).recalling previous) (clause :: rest)).text =
      '\n' :: (trimEnd (squeeze clause.value) ++ later) := by
  have firm : trimEnd ('\n' :: trimEnd (squeeze clause.value)) = '\n' :: trimEnd (squeeze clause.value) :=
    trimEnd_append_of_visible ['\n'] (trimEnd_trimEnd _) shown
  let placed := (({} : Layout).recalling previous).step style clause rest
  have front : placed = Layout.behind { placed with output := (Indent.newLine [.clause] style.indentUnit).reverse }
      ('\n' :: trimEnd (squeeze clause.value)) := by
    refine Layout.eq_of_text rfl rfl rfl rfl rfl rfl ?_
    rw [Layout.text_behind, Layout.text_step_clause isClause (({} : Layout).recalling previous) shown rfl]
    simp [Layout.text, Layout.recalling]
  rw [Layout.run]
  change ∃ later, (Layout.run style placed rest).text = _
  rw [front, Layout.run_behind firm, Layout.text_behind]
  exact ⟨_, rfl⟩

section Blanks

variable {blanks : List Token} (allBlank : ∀ token ∈ blanks, token.kind = .blank)

include allBlank

/-- The run of tokens that begin with a clause word is their run by themselves, behind the text before them. -/
theorem Layout.run_clause (layout : Layout) (outside : layout.inline = false)
    (outermost : layout.indent.closeClause = []) (start : layout.cursor = 0) (rest : List Token) :
    Layout.run style layout (blanks ++ clause :: rest) =
      (Layout.ofTokens style (blanks ++ clause :: rest)).behind (trimEnd layout.text) := by
  obtain ⟨last, _, passed⟩ := layout.run_blanks style layout.previous allBlank
  obtain ⟨other, _, alone⟩ := ({} : Layout).run_blanks style none allBlank
  have again : (layout.recalling last).step style clause rest =
      ((({} : Layout).recalling other).step style clause rest).behind (trimEnd layout.text) :=
    Layout.step_clause isClause shown (layout.recalling last) outside outermost start other rest
  calc Layout.run style layout (blanks ++ clause :: rest)
    _ = Layout.run style ((layout.recalling last).step style clause rest) rest := (passed _).1
    _ = (Layout.run style (({} : Layout).recalling other) (clause :: rest)).behind (trimEnd layout.text) := by
      rw [again, Layout.run_behind (trimEnd_trimEnd _), Layout.run]
    _ = (Layout.ofTokens style (blanks ++ clause :: rest)).behind (trimEnd layout.text) := by
      rw [← (alone _).1]
      rfl

/-- The text of tokens that begin with a clause word begins with a line break and the word. -/
theorem Layout.text_ofTokens_clause (style : Style) (rest : List Token) :
    ∃ ending, (Layout.ofTokens style (blanks ++ clause :: rest)).text =
      '\n' :: (trimEnd (squeeze clause.value) ++ ending) := by
  obtain ⟨other, _, alone⟩ := ({} : Layout).run_blanks style none allBlank
  obtain ⟨ending, begun⟩ := Layout.text_run_clause isClause shown other rest
  exact ⟨ending, (congrArg Layout.text (alone (clause :: rest)).1).trans begun⟩

end Blanks

end Clause

/-- After tokens whose brackets are all closed, a semicolon leaves a layout that is as good as new but for
its text. -/
theorem Layout.run_semicolon {style : Style} (unordered : ∀ values, style.params ≠ .positional values)
    {tokens : List Token} (closed : balanced 0 tokens)
    (noComment : ∀ token ∈ (visibleTokens tokens).getLast?, token.kind ≠ .lineComment) (later : List Token) :
    ∃ layout : Layout, layout.inline = false ∧ layout.indent.closeClause = [] ∧ layout.cursor = 0 ∧
      layout.text = trimEnd (Layout.ofTokens style tokens).text ++ ['\n', ';', '\n'] ∧
      Layout.run style {} (tokens ++ semicolon :: later) = Layout.run style layout later := by
  have whole : ({} : Layout).upTo style (semicolon :: later) tokens = Layout.ofTokens style tokens :=
    Layout.upTo_semicolon {} rfl rfl tokens later
  obtain ⟨outside, indent⟩ := Layout.upTo_balanced style {} rfl closed (semicolon :: later)
  rw [whole] at outside indent
  have noGap : (Layout.ofTokens style tokens).tightGap = [] := by
    have visible : (Layout.ofTokens style tokens).visible = (visibleTokens tokens).getLast?.or none :=
      Layout.visible_run tokens
    rw [Option.or_none] at visible
    rw [Layout.tightGap, visible, if_neg]
    cases last : (visibleTokens tokens).getLast? with
    | none => simp
    | some token => simpa using noComment token last
  refine ⟨(Layout.ofTokens style tokens).step style semicolon later, ?_, ?_, ?_, ?_, ?_⟩
  · rw [Layout.inline_step]
    exact outside
  · rw [Layout.indent_step]
    change (Layout.ofTokens style tokens).indent.closeClause = []
    rcases indent with indent | indent <;> rw [indent] <;> rfl
  · have start : (Layout.ofTokens style tokens).cursor = 0 := Layout.cursor_run unordered tokens
    exact ((Layout.ofTokens style tokens).cursor_place later (by simp [semicolon, Token.ofRaw])).trans start
  · exact Layout.text_step_semicolon later noGap
  · rw [Layout.run_append, whole, Layout.run]

/-- A semicolon sets off what comes before it, if all brackets are closed there, from a clause after it. -/
theorem layoutTokens_semicolon {style : Style} (unordered : ∀ values, style.params ≠ .positional values)
    {tokens later : List Token} (closed : balanced 0 tokens)
    (noComment : ∀ token ∈ (visibleTokens tokens).getLast?, token.kind ≠ .lineComment) {clause : Token}
    (first : (visibleTokens later).head? = some clause) (isClause : clause.kind = .clause)
    (shown : trimEnd (squeeze clause.value) ≠ [] ∧ begins isBlank (trimEnd (squeeze clause.value)) = false) :
    layoutTokens style (tokens ++ semicolon :: later) =
      trim (layoutTokens style tokens ++ ['\n', ';', '\n'] ++ layoutTokens style later) := by
  obtain ⟨layout, outside, outermost, start, text, run⟩ := Layout.run_semicolon unordered closed noComment later
  obtain ⟨more, seen⟩ := List.head?_eq_some_iff.mp first
  obtain ⟨blanks, rest, rfl, blank, _⟩ := List.filter_eq_cons_iff.mp seen
  have allBlank : ∀ token ∈ blanks, token.kind = .blank := fun token member => by simpa using blank token member
  obtain ⟨ending, begun⟩ := Layout.text_ofTokens_clause isClause shown.1 allBlank style rest
  have firm : trimEnd layout.text = trimEnd (Layout.ofTokens style tokens).text ++ ['\n', ';'] := by
    rw [text]
    exact trimEnd_append_of_ne_nil (by decide) _
  have both : (Layout.ofTokens style (tokens ++ semicolon :: (blanks ++ clause :: rest))).text =
      trimEnd layout.text ++ (Layout.ofTokens style (blanks ++ clause :: rest)).text := by
    rw [Layout.ofTokens, run, Layout.run_clause isClause shown.1 allBlank layout outside outermost start,
      Layout.text_behind]
  have unbroken : trimStart (Layout.ofTokens style (blanks ++ clause :: rest)).text =
      trimEnd (squeeze clause.value) ++ ending := by
    obtain ⟨c, word, split⟩ := List.exists_cons_of_ne_nil shown.1
    have visible : isBlank c = false := by simpa [split] using shown.2
    rw [begun, split, trimStart, List.dropWhile_cons_of_pos (by decide), List.cons_append]
    exact trimStart_cons_of_visible visible _
  calc layoutTokens style (tokens ++ semicolon :: (blanks ++ clause :: rest))
    _ = trim (trimEnd (Layout.ofTokens style tokens).text ++ ['\n', ';', '\n'] ++
          trimStart (Layout.ofTokens style (blanks ++ clause :: rest)).text) := by
      rw [layoutTokens, both, firm, unbroken, begun]
      simp only [List.append_assoc, List.cons_append, List.nil_append]
    _ = trim (layoutTokens style tokens ++ ['\n', ';', '\n'] ++ layoutTokens style (blanks ++ clause :: rest)) :=
      (trim_append_trim _ _ _).symm

/-- Statements are laid out one by one: what a semicolon divides, after brackets that are all closed and
before a clause, is laid out as by itself. -/
theorem Dialect.format_semicolon (dialect : Dialect) (unit : List Char) {params : Params}
    (unordered : ∀ values, params ≠ .positional values) {first second : List Char}
    (parts : tokenize dialect.rules (first ++ ';' :: second) =
      tokenize dialect.rules first ++ semicolon :: tokenize dialect.rules second)
    (closed : balanced 0 (tokenize dialect.rules first))
    (noComment : ∀ token ∈ (dialect.tokens first).getLast?, token.kind ≠ .lineComment)
    (clause : ∃ token, (dialect.tokens second).head? = some token ∧ token.kind = .clause) :
    dialect.format unit params (first ++ ';' :: second) =
      trim (dialect.format unit params first ++ ['\n', ';', '\n'] ++ dialect.format unit params second) := by
  obtain ⟨token, atHead, isClause⟩ := clause
  have shown : trimEnd (squeeze token.value) ≠ [] ∧ begins isBlank (trimEnd (squeeze token.value)) = false := by
    have member : token ∈ tokenize dialect.rules second :=
      (List.mem_filter.mp (List.mem_of_mem_head? atHead)).1
    obtain ⟨someValue, visible⟩ := dialect.shows_tokenize second token member (by simp [isClause])
    have written : trimEnd (({} : Layout).written (dialect.style unit .absent) token) ≠ [] ∧
        begins isBlank (trimEnd (({} : Layout).written (dialect.style unit .absent) token)) = false :=
      ({} : Layout).written_visible rfl someValue visible
    simpa only [Layout.written, isClause] using written
  unfold Dialect.format layoutQuery
  rw [parts]
  exact layoutTokens_semicolon unordered closed noComment atHead isClause shown

/-- The brackets before the semicolon match, and the statement after it begins with `FROM`. -/
theorem Dialect.format_semicolon_from :
    balanced 0 (tokenize Dialect.n1ql.rules "(($p)) ".toList) ∧
      Dialect.n1ql.format [' '] (.named [(['p'], [])]) ("(($p)) ".toList ++ ';' :: "\nfrom".toList) =
        trim (Dialect.n1ql.format [' '] (.named [(['p'], [])]) "(($p)) ".toList ++ ['\n', ';', '\n'] ++
          Dialect.n1ql.format [' '] (.named [(['p'], [])]) "\nfrom".toList) := by
  have closed : balanced 0 (tokenize Dialect.n1ql.rules "(($p)) ".toList) := by decide +kernel
  refine ⟨closed, Dialect.format_semicolon .n1ql [' '] (by simp) ?_ closed ?_ ?_⟩
  · rw [← Dialect.byteRules_eq]
    decide +kernel
  · decide +kernel
  · exact ⟨⟨.clause, "FROM".toList, "from".toList, []⟩, by decide +kernel, rfl⟩

end QueryLayout
