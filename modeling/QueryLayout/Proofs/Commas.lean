import QueryLayout.Proofs.Margins

namespace QueryLayout

/-- Whether a token is a word that the items after it belong to. -/
def Token.governs (token : Token) : Bool :=
  token.kind == .clause || token.kind == .continuation

/-- The last clause or continuation word, whatever brackets it stands in. -/
def governingWord (tokens : List Token) : Option Token :=
  (tokens.filter Token.governs).getLast?

/-- The last clause or continuation word on the level of brackets that has been reached, and on each of the levels
around it. -/
structure WordLevels where
  inner : Option Token := none
  outer : List (Option Token) := []
deriving DecidableEq, Repr

/-- A bracket begins a level that has no word yet, and when it is closed the words in it are forgotten. A closing
bracket that closes nothing leaves all as it is. -/
def WordLevels.pass (levels : WordLevels) (token : Token) : WordLevels :=
  match token.kind with
  | .clause | .continuation => { levels with inner := some token }
  | .opening => ⟨none, levels.inner :: levels.outer⟩
  | .closing =>
    match levels.outer with
    | [] => levels
    | word :: outer => ⟨word, outer⟩
  | _ => levels

/-- The last clause or continuation word on the level on which the tokens end. Neither the words inside brackets
that are closed again nor those before the innermost open bracket count. -/
def clauseWord (tokens : List Token) : Option Token :=
  (tokens.foldl WordLevels.pass {}).inner

/-- Whether a word bounds the number of rows. -/
def Style.limitsRows (style : Style) (word : Token) : Bool :=
  style.rowLimitWords.any fun limit => upperCase limit.toList == upperCase (squeeze word.value)

/-- What the layout has written when a comma is placed, up to the comma itself. -/
def Layout.throughComma (layout : Layout) : List Char :=
  trimEnd layout.text ++ layout.tightGap ++ [',']

/-- Levels with others inside them, the innermost first. -/
def WordLevels.nest (base : WordLevels) : List (Option Token) → WordLevels
  | [] => base
  | word :: upper => ⟨word, (base.nest upper).inner :: (base.nest upper).outer⟩

/-- Brackets without words in them leave the words around them alone. -/
theorem WordLevels.foldl_pass_nest (base : WordLevels) {tokens : List Token}
    (wordless : ∀ token ∈ tokens, token.governs = false) (upper : List (Option Token))
    (closed : balanced upper.length tokens) : tokens.foldl WordLevels.pass (base.nest upper) = base := by
  induction tokens generalizing upper with
  | nil =>
    obtain rfl : upper = [] := List.length_eq_zero_iff.mp (by simpa [balanced] using closed)
    rfl
  | cons token rest ih =>
    have later := ih fun other member => wordless other (List.mem_cons_of_mem _ member)
    have first := wordless token List.mem_cons_self
    rw [List.foldl_cons]
    cases kind : token.kind with
    | clause | continuation => simp [Token.governs, kind] at first
    | opening =>
      have opened : (base.nest upper).pass token = base.nest (none :: upper) := by
        simp only [WordLevels.pass, kind, WordLevels.nest]
      rw [opened]
      exact later (none :: upper) (by simpa only [balanced, kind, List.length_cons] using closed)
    | closing =>
      cases upper with
      | nil => simp [balanced, kind] at closed
      | cons word upper =>
        have shut : (base.nest (word :: upper)).pass token = base.nest upper := by
          simp only [WordLevels.pass, kind, WordLevels.nest]
        rw [shut]
        exact later upper (by simpa only [balanced, kind, List.length_cons] using closed)
    | _ =>
      have same : (base.nest upper).pass token = base.nest upper := by
        simp only [WordLevels.pass, kind]
      rw [same]
      exact later upper (by simpa only [balanced, kind] using closed)

/-- A word governs what follows it on its level, until another word comes. -/
theorem clauseWord_append {outer between : List Token} {word : Token} (governs : word.governs)
    (wordless : ∀ token ∈ between, token.governs = false) (closed : balanced 0 between) :
    clauseWord (outer ++ word :: between) = some word := by
  have passed : ∀ levels : WordLevels, (levels.pass word).inner = some word := by
    intro levels
    simp only [Token.governs, Bool.or_eq_true, beq_iff_eq] at governs
    rcases governs with kind | kind <;> simp only [WordLevels.pass, kind]
  rw [clauseWord, List.foldl_append, List.foldl_cons]
  exact (congrArg WordLevels.inner (WordLevels.foldl_pass_nest _ wordless [] closed)).trans (passed _)

theorem governingWord_append {outer between : List Token} {word : Token} (governs : word.governs)
    (wordless : ∀ token ∈ between, token.governs = false) :
    governingWord (outer ++ word :: between) = some word := by
  have none : between.filter Token.governs = [] :=
    List.filter_eq_nil_iff.mpr fun token member => by simp [wordless token member]
  rw [governingWord, List.filter_append, List.filter_cons_of_pos governs, none, List.getLast?_append]
  rfl

section Memory

variable (style : Style)

theorem Layout.lastWord_upTo (layout : Layout) (more tokens : List Token) :
    (layout.upTo style more tokens).lastWord = (governingWord tokens).or layout.lastWord := by
  induction tokens generalizing layout with
  | nil => rfl
  | cons token rest ih =>
    rw [Layout.upTo, ih, layout.lastWord_step, governingWord, governingWord]
    cases kind : token.kind with
    | clause | continuation => simp [Token.governs, kind, List.getLast?_cons]
    | _ => simp [Token.governs, kind]

/-- The layout remembers one word, that of the text and not that of the level. -/
theorem Layout.lastWord_reached (before rest : List Token) :
    (Layout.reached style before rest).lastWord = governingWord before :=
  (Layout.lastWord_upTo style {} rest before).trans Option.or_none

/-- Outside a group on one line, the last word of all decides whether a comma breaks the line. -/
theorem Layout.text_comma {before after : List Token} {comma : Token} (plain : comma.kind.isPlain)
    (value : comma.value = [',']) (outside : (Layout.reached style before (comma :: after)).inline = false) :
    (Layout.reached style (before ++ [comma]) after).text =
      (Layout.reached style before (comma :: after)).throughComma ++
        if (governingWord before).any style.limitsRows then [' ']
        else (Layout.reached style before (comma :: after)).indent.newLine style.indentUnit := by
  let layout := Layout.reached style before (comma :: after)
  have placed : (layout.step style comma after).text = (layout.placePlain style comma).text := by
    change (layout.place style comma after).text = _
    unfold Layout.place
    cases kind : comma.kind with
    | word | literal | number | operator | reserved => rfl
    | _ => simp [kind, Kind.isPlain] at plain
  have limit : layout.afterRowLimit style = (governingWord before).any style.limitsRows := by
    rw [← Layout.lastWord_reached style before (comma :: after)]
    rfl
  have trimmed : trimEnd (trimEnd layout.text ++ layout.tightGap ++ [','] ++ [' ']) = layout.throughComma := by
    rw [List.append_assoc (_ ++ _), trimEnd_append_of_ne_nil (by decide)]
    rfl
  rw [Layout.reached_append]
  change (layout.step style comma after).text = _
  rw [placed, layout.text_placePlain, if_pos value, layout.text_placeComma, value, limit, outside,
    Bool.false_or, trimmed]
  split <;> rfl

end Memory

theorem Indent.newLine_ne_space (indent : Indent) (unit : List Char) : indent.newLine unit ≠ [' '] := by
  simp [Indent.newLine]

/-- Outside a group on one line, a comma breaks the line unless the last clause or continuation word before it
bounds the number of rows. So it is laid out as the last word on its own level asks for exactly where the two words
agree on this, and they are one and the same where only closed brackets without such words stand behind the last
one. -/
theorem Layout.comma_breaks (style : Style) {before after : List Token} {comma : Token} (plain : comma.kind.isPlain)
    (value : comma.value = [',']) (outside : (Layout.reached style before (comma :: after)).inline = false) :
    let layout := Layout.reached style before (comma :: after)
    let placed := (Layout.reached style (before ++ [comma]) after).text
    let breaks := placed = layout.throughComma ++ layout.indent.newLine style.indentUnit
    let stays := placed = layout.throughComma ++ [' ']
    (breaks ↔ (governingWord before).any style.limitsRows = false) ∧
      (stays ↔ (governingWord before).any style.limitsRows = true) ∧
      ((breaks ↔ (clauseWord before).any style.limitsRows = false) ↔
        (governingWord before).any style.limitsRows = (clauseWord before).any style.limitsRows) ∧
      ∀ outer word between, before = outer ++ word :: between → word.governs →
        (∀ token ∈ between, token.governs = false) → balanced 0 between →
        governingWord before = some word ∧ clauseWord before = some word := by
  intro layout placed breaks stays
  have text : placed = layout.throughComma ++ if (governingWord before).any style.limitsRows then [' ']
      else layout.indent.newLine style.indentUnit :=
    Layout.text_comma style plain value outside
  have apart := layout.indent.newLine_ne_space style.indentUnit
  have broken : breaks ↔ (governingWord before).any style.limitsRows = false := by
    change placed = layout.throughComma ++ layout.indent.newLine style.indentUnit ↔ _
    rw [text, List.append_cancel_left_eq]
    cases (governingWord before).any style.limitsRows <;> simp [apart.symm]
  have kept : stays ↔ (governingWord before).any style.limitsRows = true := by
    change placed = layout.throughComma ++ [' '] ↔ _
    rw [text, List.append_cancel_left_eq]
    cases (governingWord before).any style.limitsRows <;> simp [apart]
  refine ⟨broken, kept, ?_, ?_⟩
  · rw [broken]
    cases (governingWord before).any style.limitsRows <;>
      cases (clauseWord before).any style.limitsRows <;> simp
  · rintro outer word between rfl governs wordless closed
    exact ⟨governingWord_append governs wordless, clauseWord_append governs wordless closed⟩

/-- A comma between two bounds, where a group in brackets stands before it. -/
theorem Layout.comma_breaks_limit :
    let limit : Token := ⟨.clause, "LIMIT".toList, "limit".toList, []⟩
    let blank : Token := ⟨.blank, [' '], [' '], []⟩
    let opening : Token := ⟨.opening, ['('], ['('], []⟩
    let closing : Token := ⟨.closing, [')'], [')'], []⟩
    let number : Token := ⟨.number, ['5'], ['5'], []⟩
    let comma : Token := ⟨.operator, [','], [','], []⟩
    let before := [limit, blank, opening, number, closing]
    let style := Dialect.standard.style ['\t'] .absent
    (Layout.reached style before (comma :: [number])).inline = false ∧ clauseWord before = some limit ∧
      (Layout.reached style (before ++ [comma]) [number]).text =
        (Layout.reached style before (comma :: [number])).throughComma ++ [' '] := by
  intro limit blank opening closing number comma before style
  have outside : (Layout.reached style before (comma :: [number])).inline = false := by decide +kernel
  obtain ⟨_, kept, _, level⟩ := Layout.comma_breaks style (rfl : comma.kind.isPlain) rfl outside
  obtain ⟨last, own⟩ := level [] limit [blank, opening, number, closing] rfl rfl (by decide) (by decide)
  refine ⟨outside, own, kept.mpr ?_⟩
  rw [last]
  decide +kernel

/-- A row limit in a subquery that is closed again keeps the outer list on one line, a subquery between the bounds
of a row limit breaks the line there, and a list in brackets behind a row limit stays on one line. -/
theorem Layout.comma_astray :
    let select : Token := ⟨.clause, "SELECT".toList, "select".toList, []⟩
    let limit : Token := ⟨.clause, "LIMIT".toList, "limit".toList, []⟩
    let blank : Token := ⟨.blank, [' '], [' '], []⟩
    let opening : Token := ⟨.opening, ['('], ['('], []⟩
    let closing : Token := ⟨.closing, [')'], [')'], []⟩
    let number : Token := ⟨.number, ['1'], ['1'], []⟩
    let comma : Token := ⟨.operator, [','], [','], []⟩
    let style := Dialect.n1ql.style [' ', ' '] .absent
    let listed := [select, blank, opening, select, blank, number, blank, limit, blank, number, closing]
    let bounded := [limit, blank, opening, select, blank, number, closing]
    let nested := [limit, blank, opening, number]
    (tokenize Dialect.n1ql.rules "select (select 1 limit 1),1".toList = listed ++ comma :: [number] ∧
      (Layout.reached style listed (comma :: [number])).inline = false ∧
      clauseWord listed = some select ∧ style.limitsRows select = false ∧
      (Layout.reached style (listed ++ [comma]) [number]).text =
        (Layout.reached style listed (comma :: [number])).throughComma ++ [' ']) ∧
    (tokenize Dialect.n1ql.rules "limit (select 1),1".toList = bounded ++ comma :: [number] ∧
      (Layout.reached style bounded (comma :: [number])).inline = false ∧
      clauseWord bounded = some limit ∧ style.limitsRows limit = true ∧
      (Layout.reached style (bounded ++ [comma]) [number]).text =
        (Layout.reached style bounded (comma :: [number])).throughComma ++ "\n  ".toList) ∧
    tokenize Dialect.n1ql.rules "limit (1,1".toList = nested ++ comma :: [number] ∧
      (Layout.reached style nested (comma :: [number])).inline = false ∧
      clauseWord nested = none ∧
      (Layout.reached style (nested ++ [comma]) [number]).text =
        (Layout.reached style nested (comma :: [number])).throughComma ++ [' '] := by
  rw [← Dialect.byteRules_eq]
  decide +kernel

end QueryLayout
