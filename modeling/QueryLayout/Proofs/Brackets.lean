import QueryLayout.Proofs.LineStarts

namespace QueryLayout

/-- When a bracket is closed again, the layout is back at the indentation it was opened at. -/
theorem Layout.gapBefore_closing (style : Style) (before : List Token) {between after : List Token}
    {opening closing : Token} (opens : opening.kind = .opening) (ends : closing.kind = .closing)
    (breaks : isInlineGroup style.inlineLimit (opening :: (between ++ closing :: after)) = false)
    (matched : balanced 0 between) :
    (Layout.reached style (before ++ opening :: between) (closing :: after)).gapBefore style closing =
        (Layout.reached style before (opening :: (between ++ closing :: after))).indent.newLine style.indentUnit ∧
      (Layout.reached style (before ++ opening :: between) (closing :: after)).indent ≠ [] := by
  let layout := Layout.reached style before (opening :: (between ++ closing :: after))
  have broken : staysInline layout.inline style.inlineLimit (opening :: (between ++ closing :: after)) = false := by
    rw [staysInline, (Layout.closes_reached before _).inline_eq_false (Or.inl opens), breaks]
    rfl
  have outside : (layout.step style opening (between ++ closing :: after)).inline = false := by
    rw [layout.inline_step, opens]
    exact broken
  have nested : (layout.step style opening (between ++ closing :: after)).indent = layout.indent.openNesting := by
    rw [layout.indent_step, opens]
    simp only [broken, Bool.false_eq_true, if_false]
  obtain ⟨inline, indent⟩ := Layout.upTo_balanced style _ outside matched (closing :: after)
  rw [← Layout.reached_append] at inline indent
  rw [nested] at indent
  simp only [Layout.gapBefore, ends, inline, Bool.false_eq_true, if_false]
  rcases indent with indent | indent <;> rw [indent]
  · exact ⟨rfl, by simp [Indent.openNesting]⟩
  · exact ⟨rfl, by simp [Indent.openClause]⟩

/-- A bracket is written as it is read, in upper case. -/
theorem Dialect.format_bracket {dialect : Dialect} {unit query : List Char} {before after : List Token}
    {token : Token} (isUnit : ∀ c ∈ unit, c = ' ' ∨ c = '\t')
    (split : tokenize dialect.rules query = before ++ token :: after)
    (bracket : token.kind = .opening ∨ token.kind = .closing) :
    ∃ later, dialect.format unit .absent query =
      Layout.textBefore (dialect.style unit .absent) before (token :: after) ++ (token.value ++ later) := by
  have notBlank : token.kind ≠ .blank := by rcases bracket with kind | kind <;> simp [kind]
  have member : token ∈ tokenize dialect.rules query := by simp [split]
  obtain ⟨someRaw, _, _, _, reads⟩ := Dialect.reads_of_mem member
  have written : ∀ layout : Layout, layout.written (dialect.style unit .absent) token = token.value := by
    intro layout
    rcases bracket with kind | kind <;> simp only [Layout.written, kind]
  obtain ⟨later, whole⟩ := Dialect.format_split isUnit split notBlank
  rw [written, reads.bracket_trimmed someRaw bracket] at whole
  exact ⟨later, whole⟩

/-- A bracket that is not laid out on one line is closed at the start of a line. That line is indented as the line
that the bracket was opened in, and by one level more for each level that was opened in the same line before the
bracket. Only lines that are never indented, and those that begin inside a token, are left out of this. -/
theorem Dialect.closing_aligned (dialect : Dialect) {unit query : List Char}
    (isUnit : ∀ c ∈ unit, c = ' ' ∨ c = '\t') {before between after : List Token} {opening closing : Token}
    (split : tokenize dialect.rules query = before ++ opening :: (between ++ closing :: after))
    (opens : opening.kind = .opening) (ends : closing.kind = .closing)
    (breaks : isInlineGroup dialect.inlineLimit (opening :: (between ++ closing :: after)) = false)
    (matched : balanced 0 between) :
    let style := dialect.style unit .absent
    let rest := opening :: (between ++ closing :: after)
    (∃ later, dialect.format unit .absent query = Layout.textBefore style before rest ++ (opening.value ++ later)) ∧
    (∃ later, dialect.format unit .absent query =
      Layout.textBefore style (before ++ opening :: between) (closing :: after) ++ (closing.value ++ later)) ∧
    (∃ depth, Layout.lineBefore style (before ++ opening :: between) (closing :: after) =
        (List.replicate depth unit).flatten ∧
      ∀ outer mates, before = outer ++ mates → Layout.Leads style outer mates rest →
        ∃ lead ∈ (mates ++ rest).head?, if lead.standsFlush (visibleTokens outer).getLast? then
          Layout.margin style before rest = []
        else ∃ level, Layout.margin style before rest = (List.replicate level unit).flatten ∧
          depth = level + levelsOpened dialect.inlineLimit rest mates) ∧
    ((∃ outer mates, before = outer ++ mates ∧ Layout.Leads style outer mates rest) ∨
      ∃ outer spanning mates, before = outer ++ spanning :: mates ∧
        Layout.Spans style outer spanning mates rest) := by
  intro style rest
  have again : tokenize dialect.rules query = (before ++ opening :: between) ++ closing :: after := by
    rw [split, List.append_assoc, List.cons_append]
  have blankUnit : IsGap style.indentUnit := isGap_of_isUnit isUnit
  have single : '\n' ∉ style.indentUnit := not_mem_of_isUnit isUnit
  have firm := Dialect.firm_of_split unit split (by simp)
  have shows : ∀ token ∈ before ++ opening :: between, token.Shows :=
    fun token member => (Dialect.firm_of_split unit again (by simp) token member).shows
  obtain ⟨gap, nested⟩ := Layout.gapBefore_closing style before opens ends breaks matched
  refine ⟨Dialect.format_bracket isUnit split (Or.inl opens), Dialect.format_bracket isUnit again (Or.inr ends),
    ⟨(Layout.reached style before rest).indent.depth, ?_, ?_⟩, ?_⟩
  · exact Layout.lineBefore_newLine rfl blankUnit single shows gap fun flush => absurd flush nested
  · rintro outer mates rfl leads
    exact leads.margin_eq rfl blankUnit single opens firm
  · exact Layout.leads_or_spans rfl blankUnit firm (by simp [opens]) _

/-- A bracket at the start of its line is closed right below. -/
theorem Dialect.closing_aligned_from :
    let clause : Token := ⟨.clause, "FROM".toList, "from".toList, []⟩
    let blank : Token := ⟨.blank, [' '], [' '], []⟩
    let opening : Token := ⟨.opening, ['('], ['('], []⟩
    let closing : Token := ⟨.closing, [')'], [')'], []⟩
    let between : List Token :=
      [⟨.clause, "SELECT".toList, "select".toList, []⟩, blank, ⟨.number, ['1'], ['1'], []⟩]
    let style := Dialect.standard.style ['\t'] .absent
    tokenize Dialect.standard.rules "from (select 1)".toList =
        [clause, blank] ++ opening :: (between ++ [closing]) ∧
      isInlineGroup Dialect.standard.inlineLimit (opening :: (between ++ [closing])) = false ∧ balanced 0 between ∧
      Layout.lineBefore style ([clause, blank] ++ opening :: between) [closing] =
        Layout.margin style [clause, blank] (opening :: (between ++ [closing])) := by
  intro clause blank opening closing between style
  have split : tokenize Dialect.standard.rules "from (select 1)".toList =
      [clause, blank] ++ opening :: (between ++ [closing]) := by
    decide +kernel
  have breaks : isInlineGroup Dialect.standard.inlineLimit (opening :: (between ++ [closing])) = false := by decide
  have matched : balanced 0 between := by decide
  have isUnit : ∀ c ∈ ['\t'], c = ' ' ∨ c = '\t' := by simp
  obtain ⟨_, _, ⟨depth, line, margin⟩, _⟩ := Dialect.closing_aligned .standard isUnit split rfl rfl breaks matched
  have start : IsGap (Layout.lineBefore style [clause, blank] (opening :: (between ++ [closing]))) := by
    unfold IsGap
    decide +kernel
  obtain ⟨lead, first, indented⟩ := margin [clause, blank] [] rfl ⟨by simp [opening], start, [], by simp, by simp⟩
  obtain rfl : opening = lead := by simpa using first
  rw [if_neg (by decide)] at indented
  obtain ⟨level, margin, same⟩ := indented
  refine ⟨split, breaks, matched, ?_⟩
  rw [line, margin, same]
  rfl

/-- A bracket that follows a clause word closely stands in the line of the word, and one that follows a semicolon
stands in a line that is not indented. Both are closed further in. -/
theorem Dialect.closing_astray :
    let clause : Token := ⟨.clause, "SELECT".toList, "select".toList, []⟩
    let blank : Token := ⟨.blank, [' '], [' '], []⟩
    let number : Token := ⟨.number, ['1'], ['1'], []⟩
    let opening : Token := ⟨.opening, ['('], ['('], []⟩
    let closing : Token := ⟨.closing, [')'], [')'], []⟩
    let between : List Token := [clause, blank, number]
    let statement : List Token := [clause, blank, number, ⟨.operator, [';'], [';'], []⟩]
    let style := Dialect.n1ql.style [' ', ' '] .absent
    isInlineGroup Dialect.n1ql.inlineLimit (opening :: (between ++ [closing])) = false ∧ balanced 0 between ∧
      (tokenize Dialect.n1ql.rules "select(select 1)".toList = [clause] ++ opening :: (between ++ [closing]) ∧
        Layout.lineBefore style ([clause] ++ opening :: between) [closing] = [' ', ' '] ∧
        Layout.margin style [clause] (opening :: (between ++ [closing])) = []) ∧
      tokenize Dialect.n1ql.rules "select 1;(select 1)".toList = statement ++ opening :: (between ++ [closing]) ∧
      Layout.lineBefore style (statement ++ opening :: between) [closing] = [' ', ' '] ∧
      Layout.margin style statement (opening :: (between ++ [closing])) = [] := by
  rw [← Dialect.byteRules_eq]
  decide +kernel

end QueryLayout
