import QueryLayout.Proofs.LayoutText

namespace QueryLayout

/-- The tokens that leave a trace in a layout. -/
def visibleTokens (tokens : List Token) : List Token :=
  tokens.filter fun token => token.kind ≠ .blank

/-- The text that stands for a placeholder which `index` others precede. -/
def Params.textAt (params : Params) (index : Nat) (token : Token) : List Char :=
  match params with
  | .absent => token.value
  | .named bindings => (bindings.lookup token.key).getD token.value
  | .positional values => values[index]?.getD token.value

/-- How a token is written, up to the blanks at its end. Clause and
continuation words have single spaces inside, a block comment is pushed in by
the same number of units on every line, a placeholder gives way to its
parameter, and all other tokens stand as they are. -/
def Rendered (style : Style) (index : Nat) (token : Token) (text : List Char) : Prop :=
  match token.kind with
  | .clause | .continuation => text = trimEnd (squeeze token.value)
  | .blockComment => ∃ depth : Nat,
      text = trimEnd (reindent (List.replicate depth style.indentUnit).flatten token.value)
  | .placeholder => text = trimEnd (style.params.textAt index token)
  | _ => text = trimEnd token.value

/-- The number of placeholders up to and including a token. -/
def countPlaceholder (index : Nat) (token : Token) : Nat :=
  if token.kind = .placeholder then index + 1 else index

/-- A text that is made of the given tokens, each written once and in order,
with nothing but gaps before, between and after them. -/
inductive Interleaved (style : Style) : Nat → List Token → List Char → Prop
  | nil {index gap} : IsGap gap → Interleaved style index [] gap
  | cons {index token rest gap text later} : IsGap gap → Rendered style index token text →
      Interleaved style (countPlaceholder index token) rest later →
      Interleaved style index (token :: rest) (gap ++ text ++ later)

theorem Rendered.trimmed {style : Style} {index : Nat} {token : Token} {text : List Char}
    (rendered : Rendered style index token text) : trimEnd text = text := by
  unfold Rendered at rendered
  split at rendered
  case h_3 =>
    obtain ⟨depth, rfl⟩ := rendered
    exact trimEnd_trimEnd _
  all_goals rw [rendered, trimEnd_trimEnd]

namespace Interleaved

variable {style : Style} {index : Nat} {tokens : List Token} {text : List Char}

theorem append_gap (layers : Interleaved style index tokens text) {gap : List Char}
    (blank : IsGap gap) : Interleaved style index tokens (text ++ gap) := by
  induction layers with
  | nil first => exact .nil (isGap_append.mpr ⟨first, blank⟩)
  | cons first rendered _ ih =>
    rw [List.append_assoc]
    exact .cons first rendered ih

/-- Trimming never cuts into a token: what it removes stands after the last
token that shows. -/
theorem trimEnd (layers : Interleaved style index tokens text) :
    Interleaved style index tokens (trimEnd text) := by
  induction layers with
  | nil first =>
    rw [trimEnd_eq_nil_iff.mpr first]
    exact .nil isGap_nil
  | @cons index token rest gap written later first rendered _ ih =>
    rw [trimEnd_append]
    split
    · rename_i gone
      rw [gone] at ih
      by_cases empty : written = []
      · subst written
        rw [List.append_nil, trimEnd_eq_nil_iff.mpr first]
        exact .cons isGap_nil rendered ih
      · rw [trimEnd_append_of_visible gap rendered.trimmed empty, ← List.append_nil (gap ++ written)]
        exact .cons first rendered ih
    · exact .cons first rendered ih

theorem snoc (layers : Interleaved style index tokens text) {token : Token} {written : List Char}
    (rendered : Rendered style (tokens.foldl countPlaceholder index) token written) :
    Interleaved style index (tokens ++ [token]) (text ++ written) := by
  induction layers with
  | nil first =>
    rw [← List.append_nil (_ ++ written)]
    exact .cons first rendered (.nil isGap_nil)
  | cons first earlier _ ih =>
    rw [List.append_assoc]
    exact .cons first earlier (ih rendered)

/-- A token may be written together with any blanks at its end. -/
theorem snoc_untrimmed (layers : Interleaved style index tokens text) {token : Token}
    {written : List Char}
    (rendered : Rendered style (tokens.foldl countPlaceholder index) token (QueryLayout.trimEnd written)) :
    Interleaved style index (tokens ++ [token]) (text ++ written) := by
  obtain ⟨gap, blank, split⟩ := trimEnd_append_gap written
  rw [split, ← List.append_assoc]
  exact (layers.snoc rendered).append_gap blank

theorem newLine (layers : Interleaved style index tokens text) (indent : Indent)
    (blankUnit : IsGap style.indentUnit) :
    Interleaved style index tokens (QueryLayout.trimEnd text ++ indent.newLine style.indentUnit) :=
  layers.trimEnd.append_gap (indent.isGap_newLine blankUnit)

theorem spaced (layers : Interleaved style index tokens text) :
    Interleaved style index tokens (text ++ [' ']) :=
  layers.append_gap (isGap_cons.mpr ⟨by decide, isGap_nil⟩)

end Interleaved

/-- A token with no rule of its own is written as it is, whatever is trimmed
before it or broken after it. -/
theorem Layout.interleaved_placePlain {style : Style} {done : List Token} {layout : Layout}
    {token : Token} (blankUnit : IsGap style.indentUnit) (layers : Interleaved style 0 done layout.text)
    (rendered : Rendered style (done.foldl countPlaceholder 0) token (trimEnd token.value)) :
    Interleaved style 0 (done ++ [token]) (layout.placePlain style token).text := by
  have tight := layers.trimEnd.append_gap layout.isGap_tightGap
  have lineFeed : IsGap ['\n'] := isGap_cons.mpr ⟨by decide, isGap_nil⟩
  rw [Layout.text_placePlain, Layout.text_placeComma]
  split
  · have placed := (tight.snoc_untrimmed rendered).spaced
    split
    · exact placed
    · exact placed.newLine layout.indent blankUnit
  split
  · exact (tight.snoc_untrimmed rendered).spaced
  split
  · exact tight.snoc_untrimmed rendered
  split
  · have alone := ((tight.append_gap lineFeed).snoc_untrimmed rendered).append_gap lineFeed
    simpa using alone
  · exact (layers.snoc_untrimmed rendered).spaced

theorem Layout.interleaved_placeOpening {style : Style} {done : List Token} {layout : Layout}
    {token : Token} (blankUnit : IsGap style.indentUnit) (layers : Interleaved style 0 done layout.text)
    (rest : List Token)
    (rendered : Rendered style (done.foldl countPlaceholder 0) token (trimEnd token.value)) :
    Interleaved style 0 (done ++ [token]) (layout.placeOpening style token rest).text := by
  have before : Interleaved style 0 done layout.textBeforeOpening := by
    unfold Layout.textBeforeOpening
    split
    · exact layers
    · exact layers.trimEnd
  have opened := before.snoc_untrimmed rendered
  rw [Layout.text_placeOpening]
  split
  · exact opened
  · exact opened.newLine layout.indent.openNesting blankUnit

theorem Layout.interleaved_placeClosing {style : Style} {done : List Token} {layout : Layout}
    {token : Token} (blankUnit : IsGap style.indentUnit) (layers : Interleaved style 0 done layout.text)
    (rendered : Rendered style (done.foldl countPlaceholder 0) token (trimEnd token.value)) :
    Interleaved style 0 (done ++ [token]) (layout.placeClosing style token).text := by
  rw [Layout.text_placeClosing]
  refine Interleaved.spaced (Interleaved.snoc_untrimmed ?_ rendered)
  split
  · exact layers.trimEnd.append_gap layout.isGap_tightGap
  · exact layers.newLine layout.indent.closeNesting blankUnit

/-- Where the cursor stands once `index` placeholders have been met: it stops
after the last value. -/
def Params.Reached (params : Params) (cursor index : Nat) : Prop :=
  match params with
  | .positional values => cursor = min index values.length
  | _ => True

theorem Params.Reached.resolve {params : Params} {cursor index : Nat}
    (reached : params.Reached cursor index) (token : Token) :
    (params.resolve cursor token).1 = params.textAt index token ∧
      params.Reached (params.resolve cursor token).2 (index + 1) := by
  cases params with
  | absent => exact ⟨rfl, trivial⟩
  | named bindings => exact ⟨rfl, trivial⟩
  | positional values =>
    have atCursor : cursor = min index values.length := reached
    simp only [Params.resolve, Params.textAt, Params.Reached]
    by_cases left : index < values.length
    · have same : cursor = index := by omega
      rw [same, List.getElem?_eq_getElem left]
      exact ⟨rfl, by simp only; omega⟩
    · have same : cursor = values.length := by omega
      rw [same, List.getElem?_eq_none (Nat.le_refl _), List.getElem?_eq_none (by omega)]
      exact ⟨rfl, by simp only; omega⟩

/-- A layout in progress shows the visible tokens placed so far, and its
cursor has passed their placeholders. -/
structure Layout.Shows (style : Style) (done : List Token) (layout : Layout) : Prop where
  layers : Interleaved style 0 done layout.text
  reached : style.params.Reached layout.cursor (done.foldl countPlaceholder 0)

theorem Layout.cursor_place {style : Style} {token : Token} (layout : Layout) (rest : List Token)
    (other : token.kind ≠ .placeholder) :
    (layout.place style token rest).cursor = layout.cursor := by
  unfold Layout.place
  split
  case h_8 isPlaceholder => exact absurd isPlaceholder other
  all_goals
    simp only [Layout.placeLineComment, Layout.placeBlockComment, Layout.placeClause,
      Layout.placeContinuation, Layout.placeOpening, Layout.placeClosing, Layout.placePlain,
      Layout.placeComma, Layout.writeSpaced, Layout.breakLine, Layout.tighten, Layout.write,
      Layout.dropBlanks]
    repeat' split
    all_goals rfl

theorem Params.Reached.step {style : Style} {layout : Layout} {index : Nat}
    (reached : style.params.Reached layout.cursor index) (token : Token) (rest : List Token) :
    style.params.Reached (layout.step style token rest).cursor (countPlaceholder index token) := by
  rw [countPlaceholder]
  split
  · rename_i kind
    have cursor : (layout.step style token rest).cursor =
        (style.params.resolve layout.cursor token).2 := by
      simp only [Layout.step, Layout.place, kind]
      rfl
    rw [cursor]
    exact (reached.resolve token).2
  · rename_i other
    have cursor : (layout.step style token rest).cursor = layout.cursor :=
      Layout.cursor_place layout rest other
    rw [cursor]
    exact reached

theorem Layout.Shows.place {style : Style} {done : List Token} {layout : Layout}
    (shows : layout.Shows style done) (blankUnit : IsGap style.indentUnit) (token : Token)
    (rest : List Token) (visible : token.kind ≠ .blank) :
    Interleaved style 0 (done ++ [token]) (layout.place style token rest).text := by
  have layers := shows.layers
  unfold Layout.place
  split
  case h_1 blank => exact absurd blank visible
  case h_2 kind =>
    rw [Layout.text_placeLineComment]
    exact (layers.snoc_untrimmed (by simp only [Rendered, kind])).newLine _ blankUnit
  case h_3 kind =>
    rw [Layout.text_placeBlockComment]
    refine ((layers.newLine _ blankUnit).snoc_untrimmed ?_).newLine _ blankUnit
    simp only [Rendered, kind]
    exact ⟨layout.indent.depth, rfl⟩
  case h_4 kind =>
    rw [Layout.text_placeClause]
    exact ((layers.newLine _ blankUnit).snoc_untrimmed
      (by simp only [Rendered, kind])).newLine _ blankUnit
  case h_5 kind =>
    rw [Layout.text_placeContinuation]
    exact ((layers.newLine _ blankUnit).snoc_untrimmed (by simp only [Rendered, kind])).spaced
  case h_6 kind =>
    exact Layout.interleaved_placeOpening blankUnit layers rest (by simp only [Rendered, kind])
  case h_7 kind =>
    exact Layout.interleaved_placeClosing blankUnit layers (by simp only [Rendered, kind])
  case h_8 kind =>
    rw [Layout.text_placePlaceholder]
    refine (layers.snoc_untrimmed ?_).spaced
    simp only [Rendered, kind]
    rw [(shows.reached.resolve token).1]
  all_goals
    rename_i kind
    exact Layout.interleaved_placePlain blankUnit layers (by simp only [Rendered, kind])

theorem Layout.Shows.step {style : Style} {done : List Token} {layout : Layout}
    (shows : layout.Shows style done) (blankUnit : IsGap style.indentUnit) (token : Token)
    (rest : List Token) :
    (layout.step style token rest).Shows style (done ++ visibleTokens [token]) := by
  by_cases blank : token.kind = .blank
  · have same : layout.place style token rest = layout := by
      simp only [Layout.place, blank]
    simp only [visibleTokens, blank, Layout.step, same, ne_eq, not_true_eq_false, decide_false,
      List.filter_cons_of_neg, List.filter_nil, List.append_nil, Bool.false_eq_true,
      not_false_eq_true]
    exact ⟨shows.layers, shows.reached⟩
  · have seen : visibleTokens [token] = [token] := by simp [visibleTokens, blank]
    rw [seen]
    refine ⟨shows.place blankUnit token rest blank, ?_⟩
    rw [List.foldl_append, List.foldl_cons, List.foldl_nil]
    exact shows.reached.step token rest

theorem Layout.Shows.run {style : Style} {done : List Token} {layout : Layout}
    (shows : layout.Shows style done) (blankUnit : IsGap style.indentUnit) (tokens : List Token) :
    (Layout.run style layout tokens).Shows style (done ++ visibleTokens tokens) := by
  induction tokens generalizing done layout with
  | nil => simpa [visibleTokens, Layout.run] using shows
  | cons token rest ih =>
    have split : visibleTokens (token :: rest) = visibleTokens [token] ++ visibleTokens rest := by
      simp only [visibleTokens, ← List.filter_append, List.singleton_append]
    rw [split, ← List.append_assoc]
    exact ih (shows.step blankUnit token rest)

theorem Layout.shows_start (style : Style) : ({} : Layout).Shows style [] := by
  refine ⟨.nil isGap_nil, ?_⟩
  unfold Params.Reached
  split
  · simp
  · trivial

/-- Laying a query out changes its blanks and the case of its reserved words
and nothing else: the result is the visible tokens of the query, each written
once, in order and whole, with gaps between them. -/
theorem layoutQuery_interleaved (lexicon : Lexicon) (style : Style)
    (blankUnit : IsGap style.indentUnit) (query : List Char) :
    ∃ text, Interleaved style 0 (visibleTokens (tokenize lexicon.rules query)) text ∧
      layoutQuery lexicon.rules style query = trim text := by
  have shows := (Layout.shows_start style).run blankUnit (tokenize lexicon.rules query)
  exact ⟨_, shows.layers, rfl⟩

/-- The comma takes away the blank at the end of a parameter, and the blanks inside a literal stay. -/
theorem layoutQuery_interleaved_tabs :
    IsGap ['\t'] ∧ ∃ text,
      Interleaved { indentUnit := ['\t'], params := .positional [['7', ' ']] } 0
        (visibleTokens (tokenize standardLexicon.rules "select ?,'a  b'".toList)) text ∧
      layoutQuery standardLexicon.rules { indentUnit := ['\t'], params := .positional [['7', ' ']] }
        "select ?,'a  b'".toList = trim text := by
  have blankUnit : IsGap ['\t'] := isGap_cons.mpr ⟨by decide, isGap_nil⟩
  exact ⟨blankUnit, layoutQuery_interleaved standardLexicon _ blankUnit _⟩

end QueryLayout
