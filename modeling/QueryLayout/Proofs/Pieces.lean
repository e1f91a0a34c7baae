import QueryLayout.Proofs.Display

namespace QueryLayout

/-- The blanks at the end of the text laid out so far. -/
def Layout.tail (layout : Layout) : List Char :=
  layout.text.rtakeWhile isBlank

/-- What separates a token from the one placed before it. -/
def Layout.gapBefore (layout : Layout) (style : Style) (token : Token) : List Char :=
  match token.kind with
  | .blockComment | .continuation => layout.indent.newLine style.indentUnit
  | .clause => layout.indent.closeClause.newLine style.indentUnit
  | .opening => if layout.previous.any (·.kind.keepsSpace) then layout.tail else []
  | .closing =>
    if layout.inline then layout.tightGap else layout.indent.closeNesting.newLine style.indentUnit
  | .word | .literal | .number | .operator | .reserved =>
    if token.value ∈ [[','], [':'], ['.']] then layout.tightGap
    else if token.value = [';'] then layout.tightGap ++ ['\n']
    else layout.tail
  | .blank | .lineComment | .placeholder => layout.tail

/-- What is written for a token, with all the blanks it has at its end. -/
def Layout.written (layout : Layout) (style : Style) (token : Token) : List Char :=
  match token.kind with
  | .clause | .continuation => squeeze token.value
  | .blockComment => reindent (layout.indent.text style.indentUnit) token.value
  | .placeholder => (style.params.resolve layout.cursor token).1
  | _ => token.value

/-- The blanks at the end of the text after a token is placed. -/
def Layout.tailAfter (layout : Layout) (style : Style) (token : Token) (rest : List Token) : List Char :=
  let blanks := (layout.written style token).rtakeWhile isBlank
  match token.kind with
  | .blank => layout.tail
  | .lineComment | .blockComment => layout.indent.newLine style.indentUnit
  | .clause => layout.indent.closeClause.openClause.newLine style.indentUnit
  | .continuation | .closing | .placeholder => blanks ++ [' ']
  | .opening =>
    if staysInline layout.inline style.inlineLimit (token :: rest) then blanks
    else layout.indent.openNesting.newLine style.indentUnit
  | .word | .literal | .number | .operator | .reserved =>
    if token.value = [','] then
      if layout.inline || layout.afterRowLimit style then [' '] else layout.indent.newLine style.indentUnit
    else if token.value = [':'] then [' ']
    else if token.value = ['.'] then []
    else if token.value = [';'] then ['\n']
    else blanks ++ [' ']

/-- A token as it is laid out: the gap before it and the text that it shows. -/
structure Piece where
  token : Token
  gap : List Char
  text : List Char
deriving DecidableEq, Repr

def Layout.piece (layout : Layout) (style : Style) (token : Token) : Piece where
  token := token
  gap := layout.gapBefore style token
  text := trimEnd (layout.written style token)

/-- The pieces that the visible tokens become, one after another. -/
def Layout.pieces (style : Style) : Layout → List Token → List Piece
  | _, [] => []
  | layout, token :: rest =>
    let later := pieces style (layout.step style token rest) rest
    if token.kind = .blank then later else layout.piece style token :: later

/-- What may stand at the end of a layout after a token. -/
structure Trails (piece : Piece) (tail : List Char) : Prop where
  blank : IsGap tail
  lineComment : piece.token.kind = .lineComment → ∃ later, tail = '\n' :: later
  tight : tail = [] → piece.token.kind = .opening ∨ piece.text = ['.']
  period : piece.token.value = ['.'] → piece.token.kind = .operator ∨ piece.token.kind = .word → tail = []

variable {layout : Layout} {style : Style} {token : Token} {rest : List Token}

theorem trimEnd_append_rtakeWhile (text : List Char) : text = trimEnd text ++ text.rtakeWhile isBlank :=
  List.rdropWhile_append_rtakeWhile.symm

theorem isGap_rtakeWhile (text : List Char) : IsGap (text.rtakeWhile isBlank) :=
  fun _ member => List.mem_rtakeWhile_imp member

theorem Layout.text_eq_append_tail (layout : Layout) : layout.text = trimEnd layout.text ++ layout.tail :=
  trimEnd_append_rtakeWhile layout.text

theorem Layout.isGap_tail (layout : Layout) : IsGap layout.tail :=
  isGap_rtakeWhile layout.text

theorem Layout.isGap_gapBefore (blankUnit : IsGap style.indentUnit) : IsGap (layout.gapBefore style token) := by
  have lineFeed : IsGap ['\n'] := isGap_cons.mpr ⟨by decide, isGap_nil⟩
  unfold Layout.gapBefore
  split
  case h_4 =>
    split
    · exact layout.isGap_tail
    · exact isGap_nil
  case h_5 =>
    split
    · exact layout.isGap_tightGap
    · exact Indent.isGap_newLine blankUnit _
  case h_1 | h_2 | h_3 => exact Indent.isGap_newLine blankUnit _
  case h_11 | h_12 | h_13 => exact layout.isGap_tail
  all_goals
    split
    · exact layout.isGap_tightGap
    split
    · exact isGap_append.mpr ⟨layout.isGap_tightGap, lineFeed⟩
    · exact layout.isGap_tail

theorem trimEnd_append_of_ne_nil {text : List Char} (visible : trimEnd text ≠ []) (front : List Char) :
    trimEnd (front ++ text) = front ++ trimEnd text := by
  rw [trimEnd_append, if_neg visible]

theorem Trails.of_newLine {piece : Piece} (blankUnit : IsGap style.indentUnit) (indent : Indent)
    (notPeriod : piece.token.value ≠ ['.'] ∨ piece.token.kind ≠ .operator ∧ piece.token.kind ≠ .word) :
    Trails piece (indent.newLine style.indentUnit) where
  blank := Indent.isGap_newLine blankUnit indent
  lineComment _ := ⟨_, rfl⟩
  tight empty := by cases empty
  period value kind := by
    rcases notPeriod with other | ⟨notOperator, notWord⟩
    · exact absurd value other
    · rcases kind with operator | word
      · exact absurd operator notOperator
      · exact absurd word notWord

theorem Trails.of_spaced {piece : Piece} {gap : List Char} (blank : IsGap gap) {c : Char} (space : isBlank c)
    (notComment : piece.token.kind ≠ .lineComment)
    (notPeriod : piece.token.value ≠ ['.'] ∨ piece.token.kind ≠ .operator ∧ piece.token.kind ≠ .word) :
    Trails piece (gap ++ [c]) where
  blank := isGap_append.mpr ⟨blank, isGap_cons.mpr ⟨space, isGap_nil⟩⟩
  lineComment comment := absurd comment notComment
  tight empty := by simp at empty
  period value kind := by
    rcases notPeriod with other | ⟨notOperator, notWord⟩
    · exact absurd value other
    · rcases kind with operator | word
      · exact absurd operator notOperator
      · exact absurd word notWord

def Kind.isPlain (kind : Kind) : Bool :=
  kind ∈ [.word, .literal, .number, .operator, .reserved]

theorem Layout.gapBefore_plain (layout : Layout) (plain : token.kind.isPlain) :
    layout.gapBefore style token =
      if token.value ∈ [[','], [':'], ['.']] then layout.tightGap
      else if token.value = [';'] then layout.tightGap ++ ['\n']
      else layout.tail := by
  unfold Layout.gapBefore
  cases kind : token.kind with
  | word | literal | number | operator | reserved => rfl
  | _ => simp [kind, Kind.isPlain] at plain

theorem Layout.written_plain (layout : Layout) (plain : token.kind.isPlain) :
    layout.written style token = token.value := by
  unfold Layout.written
  cases kind : token.kind with
  | word | literal | number | operator | reserved => rfl
  | _ => simp [kind, Kind.isPlain] at plain

theorem Layout.tailAfter_plain (layout : Layout) (plain : token.kind.isPlain) :
    layout.tailAfter style token rest =
      if token.value = [','] then
        if layout.inline || layout.afterRowLimit style then [' '] else layout.indent.newLine style.indentUnit
      else if token.value = [':'] then [' ']
      else if token.value = ['.'] then []
      else if token.value = [';'] then ['\n']
      else token.value.rtakeWhile isBlank ++ [' '] := by
  have written : layout.written style token = token.value := layout.written_plain plain
  rw [← written]
  unfold Layout.tailAfter
  cases kind : token.kind with
  | word | literal | number | operator | reserved => simp only [Layout.written, kind]
  | _ => simp [kind, Kind.isPlain] at plain

/-- A token with no rule of its own stands after its gap. -/
theorem Layout.text_placePlain_eq (layout : Layout) (rest : List Token) (plain : token.kind.isPlain) :
    (layout.placePlain style token).text =
      trimEnd layout.text ++ (layout.gapBefore style token ++ trimEnd token.value) ++
        layout.tailAfter style token rest := by
  have gapBefore : layout.gapBefore style token = _ := layout.gapBefore_plain plain
  have marks : trimEnd [','] = [','] ∧ trimEnd [':'] = [':'] ∧ trimEnd ['.'] = ['.'] ∧ trimEnd [';'] = [';'] := by
    decide
  rw [Layout.text_placePlain, Layout.text_placeComma, layout.tailAfter_plain plain]
  split
  · rename_i value
    rw [value, if_pos (by simp)] at gapBefore
    rw [gapBefore, value, marks.1]
    split
    · simp only [List.append_assoc]
    · rw [List.append_assoc (_ ++ _), trimEnd_append_of_ne_nil (by decide)]
      simp only [List.append_assoc]
      rfl
  split
  · rename_i value
    rw [value, if_pos (by simp)] at gapBefore
    rw [gapBefore, value, marks.2.1]
    simp only [List.append_assoc]
  split
  · rename_i value
    rw [value, if_pos (by simp)] at gapBefore
    rw [gapBefore, value, marks.2.2.1]
    simp only [List.append_assoc, List.append_nil]
  rename_i notComma notColon notPeriod
  rw [if_neg (by simp [notComma, notColon, notPeriod])] at gapBefore
  split
  · rename_i value
    rw [if_pos value] at gapBefore
    rw [gapBefore, value, marks.2.2.2]
    simp only [List.append_assoc, List.cons_append, List.nil_append]
  · rename_i notSemicolon
    rw [if_neg notSemicolon] at gapBefore
    rw [gapBefore]
    conv_lhs => rw [layout.text_eq_append_tail, trimEnd_append_rtakeWhile token.value]
    simp only [List.append_assoc]

/-- So does an opening bracket. -/
theorem Layout.text_placeOpening_eq (layout : Layout) (rest : List Token) (opening : token.kind = .opening)
    (visible : trimEnd token.value ≠ []) :
    (layout.placeOpening style token rest).text =
      trimEnd layout.text ++ (layout.gapBefore style token ++ trimEnd token.value) ++
        layout.tailAfter style token rest := by
  have before : layout.textBeforeOpening = trimEnd layout.text ++ layout.gapBefore style token := by
    simp only [Layout.textBeforeOpening, Layout.gapBefore, opening]
    split
    · exact layout.text_eq_append_tail
    · rw [List.append_nil]
  have written : layout.written style token = token.value := by simp only [Layout.written, opening]
  simp only [Layout.tailAfter, opening, written, Layout.text_placeOpening, before]
  split
  · conv_lhs => rw [trimEnd_append_rtakeWhile token.value]
    simp only [List.append_assoc]
  · rw [trimEnd_append_of_ne_nil visible]
    simp only [List.append_assoc]

theorem Layout.text_placeClosing_eq (layout : Layout) (rest : List Token) (closing : token.kind = .closing) :
    (layout.placeClosing style token).text =
      trimEnd layout.text ++ (layout.gapBefore style token ++ trimEnd token.value) ++
        layout.tailAfter style token rest := by
  have before : (if layout.inline then trimEnd layout.text ++ layout.tightGap
      else trimEnd layout.text ++ layout.indent.closeNesting.newLine style.indentUnit) =
      trimEnd layout.text ++ layout.gapBefore style token := by
    simp only [Layout.gapBefore, closing]
    split <;> rfl
  have written : layout.written style token = token.value := by simp only [Layout.written, closing]
  simp only [Layout.tailAfter, closing, written, Layout.text_placeClosing, before]
  conv_lhs => rw [trimEnd_append_rtakeWhile token.value]
  simp only [List.append_assoc]

theorem Layout.trails_plain (layout : Layout) (rest : List Token) (plain : token.kind.isPlain)
    (blankUnit : IsGap style.indentUnit) :
    Trails (layout.piece style token) (layout.tailAfter style token rest) := by
  have space : isBlank ' ' := by decide
  have notComment : token.kind ≠ .lineComment := by
    intro kind
    rw [kind] at plain
    cases plain
  rw [layout.tailAfter_plain plain]
  split
  · rename_i value
    have notPeriod : token.value ≠ ['.'] := by simp [value]
    split
    · exact .of_spaced isGap_nil space notComment (Or.inl notPeriod)
    · exact .of_newLine blankUnit layout.indent (Or.inl notPeriod)
  split
  · rename_i value
    exact .of_spaced isGap_nil space notComment (Or.inl (by simp [Layout.piece, value]))
  split
  · rename_i value
    have text : (layout.piece style token).text = ['.'] := by
      simp only [Layout.piece, layout.written_plain plain, value]
      rfl
    exact ⟨isGap_nil, fun comment => absurd comment notComment, fun _ => Or.inr text, fun _ _ => rfl⟩
  rename_i notPeriod
  split
  · exact .of_spaced isGap_nil (by decide) notComment (Or.inl notPeriod)
  · exact .of_spaced (isGap_rtakeWhile _) space notComment (Or.inl notPeriod)

/-- A token is written behind the visible text, after its gap. -/
theorem Layout.text_place (layout : Layout) (rest : List Token)
    (visible : trimEnd (layout.written style token) ≠ []) (notBlank : token.kind ≠ .blank) :
    (layout.place style token rest).text =
      trimEnd layout.text ++ (layout.gapBefore style token ++ trimEnd (layout.written style token)) ++
        layout.tailAfter style token rest := by
  have whole := trimEnd_append_rtakeWhile (layout.written style token)
  have text := layout.text_eq_append_tail
  cases kind : token.kind with
  | blank => exact absurd kind notBlank
  | lineComment =>
    simp only [Layout.written, Layout.gapBefore, Layout.tailAfter, Layout.place, kind,
      Layout.text_placeLineComment] at visible ⊢
    rw [trimEnd_append_of_ne_nil visible]
    conv_lhs => rw [text]
    simp only [List.append_assoc]
  | blockComment =>
    simp only [Layout.written, Layout.gapBefore, Layout.tailAfter, Layout.place, kind,
      Layout.text_placeBlockComment] at visible ⊢
    rw [trimEnd_append_of_ne_nil visible]
    simp only [List.append_assoc]
  | clause =>
    simp only [Layout.written, Layout.gapBefore, Layout.tailAfter, Layout.place, kind,
      Layout.text_placeClause] at visible ⊢
    rw [trimEnd_append_of_ne_nil visible]
    simp only [List.append_assoc]
  | continuation =>
    simp only [Layout.written, Layout.gapBefore, Layout.tailAfter, Layout.place, kind,
      Layout.text_placeContinuation] at whole ⊢
    conv_lhs => rw [whole]
    simp only [List.append_assoc]
  | opening =>
    have written : layout.written style token = token.value := by simp only [Layout.written, kind]
    rw [written] at visible ⊢
    simp only [Layout.place, kind]
    exact layout.text_placeOpening_eq rest kind visible
  | closing =>
    have written : layout.written style token = token.value := by simp only [Layout.written, kind]
    rw [written]
    simp only [Layout.place, kind]
    exact layout.text_placeClosing_eq rest kind
  | placeholder =>
    simp only [Layout.written, Layout.gapBefore, Layout.tailAfter, Layout.place, kind,
      Layout.text_placePlaceholder] at whole ⊢
    conv_lhs => rw [text, whole]
    simp only [List.append_assoc]
  | word | literal | number | operator | reserved =>
    have plain : token.kind.isPlain := by rw [kind]; rfl
    rw [layout.written_plain plain]
    simp only [Layout.place, kind]
    exact layout.text_placePlain_eq rest plain

/-- What stands at the end of the text after a token, if the unit of indentation is blank. -/
theorem Layout.trails (layout : Layout) (rest : List Token) (notBlank : token.kind ≠ .blank)
    (blankUnit : IsGap style.indentUnit) :
    Trails (layout.piece style token) (layout.tailAfter style token rest) := by
  have space : isBlank ' ' := by decide
  have blank := isGap_rtakeWhile (layout.written style token)
  cases kind : token.kind with
  | blank => exact absurd kind notBlank
  | lineComment | blockComment | clause =>
    have other : token.kind ≠ .operator ∧ token.kind ≠ .word := by simp [kind]
    simp only [Layout.tailAfter, kind]
    exact .of_newLine blankUnit _ (Or.inr other)
  | continuation | closing | placeholder =>
    have other : token.kind ≠ .operator ∧ token.kind ≠ .word := by simp [kind]
    simp only [Layout.tailAfter, kind]
    exact .of_spaced blank space (by simp [Layout.piece, kind]) (Or.inr other)
  | opening =>
    have other : token.kind ≠ .operator ∧ token.kind ≠ .word := by simp [kind]
    simp only [Layout.tailAfter, kind]
    split
    · refine ⟨blank, fun comment => ?_, fun _ => Or.inl kind, fun _ sort => ?_⟩
      · simp [Layout.piece, kind] at comment
      · simp [Layout.piece, kind] at sort
    · exact .of_newLine blankUnit layout.indent.openNesting (Or.inr other)
  | word | literal | number | operator | reserved =>
    exact layout.trails_plain rest (by rw [kind]; rfl) blankUnit

/-- The piece at which a layout ends, apart from blanks. -/
structure Layout.Ends (layout : Layout) (piece : Piece) : Prop where
  visible : layout.visible = some piece.token
  previous : layout.previous = some piece.token ∨ ∃ blank, layout.previous = some blank ∧ blank.kind = .blank
  trails : Trails piece layout.tail

/-- What the layout sees to between two pieces. -/
structure Joined (first second : Piece) : Prop where
  lineComment : first.token.kind = .lineComment → ∃ later, second.gap = '\n' :: later
  tight : second.gap = [] →
    (second.text ∈ [[','], [':'], ['.']] ∨ second.token.kind = .opening ∨ second.token.kind = .closing) ∨
      first.token.kind = .opening ∨ first.text = ['.']
  period : first.token.value = ['.'] → first.token.kind = .operator ∨ first.token.kind = .word →
    second.token.kind = .word → second.token.value ≠ [';'] → second.gap = []

theorem Layout.Ends.tightGap {piece : Piece} (ends : layout.Ends piece) :
    layout.tightGap = if piece.token.kind = .lineComment then ['\n'] else [] := by
  simp [Layout.tightGap, ends.visible]

theorem Layout.Ends.joined_lineComment {piece : Piece} (ends : layout.Ends piece)
    (comment : piece.token.kind = .lineComment) : ∃ later, layout.gapBefore style token = '\n' :: later := by
  obtain ⟨later, tail⟩ := ends.trails.lineComment comment
  have tight : layout.tightGap = ['\n'] := by rw [ends.tightGap, if_pos comment]
  have keeps : layout.previous.any (·.kind.keepsSpace) := by
    rcases ends.previous with same | ⟨blank, same, kind⟩
    · simp [same, comment, Kind.keepsSpace]
    · simp [same, kind, Kind.keepsSpace]
  cases kind : token.kind with
  | word | literal | number | operator | reserved =>
    rw [layout.gapBefore_plain (by rw [kind]; rfl), tight, tail]
    split
    · exact ⟨_, rfl⟩
    split
    · exact ⟨_, rfl⟩
    · exact ⟨_, rfl⟩
  | opening =>
    simp only [Layout.gapBefore, kind, keeps, if_true]
    exact ⟨later, tail⟩
  | closing =>
    simp only [Layout.gapBefore, kind, tight]
    split
    · exact ⟨_, rfl⟩
    · exact ⟨_, rfl⟩
  | blank | lineComment | placeholder =>
    simp only [Layout.gapBefore, kind]
    exact ⟨later, tail⟩
  | blockComment | continuation | clause =>
    simp only [Layout.gapBefore, kind]
    exact ⟨_, rfl⟩

theorem Layout.Ends.joined_tight {piece : Piece} (ends : layout.Ends piece)
    (none : layout.gapBefore style token = []) :
    (trimEnd (layout.written style token) ∈ [[','], [':'], ['.']] ∨ token.kind = .opening ∨ token.kind = .closing) ∨
      piece.token.kind = .opening ∨ piece.text = ['.'] := by
  have before : layout.tail = [] → piece.token.kind = .opening ∨ piece.text = ['.'] := ends.trails.tight
  cases kind : token.kind with
  | word | literal | number | operator | reserved =>
    have plain : token.kind.isPlain := by rw [kind]; rfl
    rw [layout.gapBefore_plain plain] at none
    rw [layout.written_plain plain]
    split at none
    · rename_i mark
      have every : ∀ value ∈ [[','], [':'], ['.']], trimEnd value = value := by decide
      rw [every _ mark]
      exact Or.inl (Or.inl mark)
    split at none
    · simp at none
    · exact Or.inr (before none)
  | opening => simp
  | closing => simp
  | blank | lineComment | placeholder =>
    simp only [Layout.gapBefore, kind] at none
    exact Or.inr (before none)
  | blockComment | continuation | clause =>
    simp only [Layout.gapBefore, kind] at none
    cases none

theorem Layout.Ends.joined {piece : Piece} (ends : layout.Ends piece) (token : Token) :
    Joined piece (layout.piece style token) where
  lineComment := ends.joined_lineComment
  tight := ends.joined_tight
  period value kind word notSemicolon := by
    have tail := ends.trails.period value kind
    have tight : layout.tightGap = [] := by
      rw [ends.tightGap, if_neg]
      rcases kind with operator | word <;> simp_all
    change layout.gapBefore style token = []
    have plain : token.kind.isPlain := by
      rw [show token.kind = .word from word]
      rfl
    rw [layout.gapBefore_plain plain, tight, tail]
    split
    · rfl
    · exact if_neg notSemicolon

/-- A visible token has a value that begins visibly. -/
def Token.Shows (token : Token) : Prop :=
  token.kind ≠ .blank → token.value ≠ [] ∧ begins isBlank token.value = false

/-- What is written for a visible token begins as its value does. -/
theorem Layout.begins_written (layout : Layout) (absent : style.params = .absent)
    (someValue : token.value ≠ []) (visible : begins isBlank token.value = false) :
    trimEnd (layout.written style token) ≠ [] ∧
      ∀ p : Char → Bool, begins p (trimEnd (layout.written style token)) = begins p token.value := by
  obtain ⟨c, tail, value⟩ := List.exists_cons_of_ne_nil someValue
  rw [value] at visible
  have shows : isBlank c = false := visible
  have head : (layout.written style token).head? = some c := by
    unfold Layout.written
    rw [absent]
    split
    case h_1 | h_2 => simp [value, squeeze, squeezeAfter, shows]
    case h_3 => rw [head?_reindent, value, List.head?_cons]
    all_goals simp [value, Params.resolve]
  obtain ⟨later, split⟩ := List.head?_eq_some_iff.mp head
  rw [split, trimEnd_cons_of_visible shows, value]
  exact ⟨by simp, fun p => rfl⟩

theorem Layout.written_visible (layout : Layout) (absent : style.params = .absent)
    (someValue : token.value ≠ []) (visible : begins isBlank token.value = false) :
    trimEnd (layout.written style token) ≠ [] ∧ begins isBlank (trimEnd (layout.written style token)) = false := by
  obtain ⟨someText, same⟩ := layout.begins_written absent someValue visible
  exact ⟨someText, (same isBlank).trans visible⟩

/-- Every visible token but a placeholder shows. -/
theorem Layout.written_visible_of_kind (layout : Layout) (style : Style) (shows : token.Shows)
    (notBlank : token.kind ≠ .blank) (notPlaceholder : token.kind ≠ .placeholder) :
    trimEnd (layout.written style token) ≠ [] ∧ begins isBlank (trimEnd (layout.written style token)) = false := by
  have same : layout.written style token = layout.written { style with params := .absent } token := by
    unfold Layout.written
    cases kind : token.kind with
    | placeholder => exact absurd kind notPlaceholder
    | _ => rfl
  obtain ⟨someValue, visible⟩ := shows notBlank
  rw [same]
  exact layout.written_visible rfl someValue visible

theorem Layout.placeholder_of_hidden (layout : Layout) (shows : token.Shows) (notBlank : token.kind ≠ .blank)
    (unseen : trimEnd (layout.written style token) = []) : token.kind = .placeholder := by
  by_contra kind
  exact (layout.written_visible_of_kind style shows notBlank kind).1 unseen

theorem Layout.step_blank (layout : Layout) (blank : token.kind = .blank) :
    (layout.step style token rest).text = layout.text ∧
      ∀ piece, layout.Ends piece → (layout.step style token rest).Ends piece := by
  have same : layout.place style token rest = layout := by simp only [Layout.place, blank]
  refine ⟨?_, fun piece ends => ⟨?_, Or.inr ⟨token, rfl, blank⟩, ?_⟩⟩
  · simp only [Layout.step, same]
    rfl
  · simp only [Layout.step, blank, if_true]
    exact ends.visible
  · simp only [Layout.step, same]
    exact ends.trails

theorem Layout.step_visible (layout : Layout) (visible : trimEnd (layout.written style token) ≠ [])
    (notBlank : token.kind ≠ .blank) (blankUnit : IsGap style.indentUnit) :
    trimEnd (layout.step style token rest).text =
        trimEnd layout.text ++ (layout.gapBefore style token ++ trimEnd (layout.written style token)) ∧
      (layout.step style token rest).tail = layout.tailAfter style token rest ∧
      (layout.step style token rest).Ends (layout.piece style token) := by
  have trails := layout.trails rest notBlank blankUnit
  have text := layout.text_place rest visible notBlank
  have front : trimEnd (layout.step style token rest).text =
      trimEnd layout.text ++ (layout.gapBefore style token ++ trimEnd (layout.written style token)) := by
    rw [show (layout.step style token rest).text = (layout.place style token rest).text from rfl, text,
      trails.blank.trimEnd_append, ← List.append_assoc, trimEnd_append_of_visible _ (trimEnd_trimEnd _) visible]
  have same : (layout.step style token rest).tail = layout.tailAfter style token rest := by
    have whole := (layout.step style token rest).text_eq_append_tail
    rw [front, show (layout.step style token rest).text = (layout.place style token rest).text from rfl, text]
      at whole
    exact (List.append_cancel_left whole).symm
  refine ⟨front, same, ?_, Or.inl rfl, same ▸ trails⟩
  simp only [Layout.step, if_neg notBlank]
  rfl

/-- A placeholder that does not show adds blanks at the end. -/
theorem Layout.step_hidden (layout : Layout) (isPlaceholder : token.kind = .placeholder)
    (unseen : IsGap (layout.written style token)) :
    trimEnd (layout.step style token rest).text = trimEnd layout.text ∧
      (layout.step style token rest).tail = layout.tail ++ (layout.written style token ++ [' ']) := by
  have blanks : IsGap (layout.written style token ++ [' ']) :=
    isGap_append.mpr ⟨unseen, isGap_cons.mpr ⟨by decide, isGap_nil⟩⟩
  have text : (layout.step style token rest).text = layout.text ++ (layout.written style token ++ [' ']) := by
    change (layout.place style token rest).text = _
    simp only [Layout.place, Layout.written, isPlaceholder, Layout.text_placePlaceholder, List.append_assoc]
  refine ⟨?_, ?_⟩
  · rw [text, blanks.trimEnd_append]
  · have whole := (layout.step style token rest).text_eq_append_tail
    rw [text, blanks.trimEnd_append] at whole
    conv_lhs at whole => rw [layout.text_eq_append_tail]
    rw [List.append_assoc] at whole
    exact (List.append_cancel_left whole).symm

/-- The text that pieces make up, with the gap before the first one. -/
def Piece.join (pieces : List Piece) : List Char :=
  pieces.flatMap fun piece => piece.gap ++ piece.text

theorem Piece.join_cons (piece : Piece) (later : List Piece) :
    Piece.join (piece :: later) = piece.gap ++ piece.text ++ Piece.join later :=
  rfl

theorem Layout.pieces_cons_blank (layout : Layout) (blank : token.kind = .blank) :
    Layout.pieces style layout (token :: rest) = Layout.pieces style (layout.step style token rest) rest := by
  rw [Layout.pieces, if_pos blank]

theorem Layout.pieces_cons_visible (layout : Layout) (notBlank : token.kind ≠ .blank) :
    Layout.pieces style layout (token :: rest) =
      layout.piece style token :: Layout.pieces style (layout.step style token rest) rest := by
  rw [Layout.pieces, if_neg notBlank]

/-- The pieces of a layout that show. -/
def Layout.shownPieces (style : Style) (layout : Layout) (tokens : List Token) : List Piece :=
  (Layout.pieces style layout tokens).filter fun piece => !piece.text.isEmpty

theorem Layout.shownPieces_of_blank (layout : Layout) (rest : List Token) (blank : token.kind = .blank) :
    layout.shownPieces style (token :: rest) = (layout.step style token rest).shownPieces style rest := by
  rw [Layout.shownPieces, layout.pieces_cons_blank blank, Layout.shownPieces]

theorem Layout.shownPieces_of_hidden (layout : Layout) (rest : List Token)
    (unseen : trimEnd (layout.written style token) = []) :
    layout.shownPieces style (token :: rest) = (layout.step style token rest).shownPieces style rest := by
  by_cases blank : token.kind = .blank
  · exact layout.shownPieces_of_blank rest blank
  · rw [Layout.shownPieces, layout.pieces_cons_visible blank, List.filter_cons_of_neg, Layout.shownPieces]
    simp [Layout.piece, unseen]

theorem Layout.shownPieces_of_shown (layout : Layout) (rest : List Token) (notBlank : token.kind ≠ .blank)
    (visible : trimEnd (layout.written style token) ≠ []) :
    layout.shownPieces style (token :: rest) =
      layout.piece style token :: (layout.step style token rest).shownPieces style rest := by
  rw [Layout.shownPieces, layout.pieces_cons_visible notBlank, List.filter_cons_of_pos, Layout.shownPieces]
  simpa [Layout.piece] using visible

/-- The text of a layout is made of the pieces that show. -/
theorem Layout.text_run (blankUnit : IsGap style.indentUnit) {tokens : List Token}
    (shows : ∀ token ∈ tokens, token.Shows) (layout : Layout) :
    trimEnd (Layout.run style layout tokens).text =
      trimEnd layout.text ++ Piece.join (layout.shownPieces style tokens) := by
  induction tokens generalizing layout with
  | nil => simp [Layout.run, Layout.shownPieces, Layout.pieces, Piece.join]
  | cons token rest ih =>
    have visible := shows token List.mem_cons_self
    rw [Layout.run, ih fun other member => shows other (List.mem_cons_of_mem _ member)]
    by_cases blank : token.kind = .blank
    · rw [layout.shownPieces_of_blank rest blank, (layout.step_blank blank).1]
    by_cases unseen : trimEnd (layout.written style token) = []
    · have kind := layout.placeholder_of_hidden visible blank unseen
      rw [layout.shownPieces_of_hidden rest unseen, (layout.step_hidden kind (trimEnd_eq_nil_iff.mp unseen)).1]
    · rw [layout.shownPieces_of_shown rest blank unseen, (layout.step_visible unseen blank blankUnit).1,
        Piece.join_cons, Layout.piece]
      simp only [List.append_assoc]

section Run

variable (absent : style.params = .absent) (blankUnit : IsGap style.indentUnit)
  {tokens : List Token} (shows : ∀ token ∈ tokens, token.Shows)

include absent blankUnit shows

/-- Between any two pieces that follow each other the layout keeps its promises. -/
theorem Layout.isChain_pieces (layout : Layout) {piece : Piece} (ends : layout.Ends piece) :
    (piece :: Layout.pieces style layout tokens).IsChain Joined := by
  induction tokens generalizing layout piece with
  | nil => exact .singleton piece
  | cons token rest ih =>
    have later := fun other member => shows other (List.mem_cons_of_mem token member)
    by_cases blank : token.kind = .blank
    · rw [layout.pieces_cons_blank blank]
      exact ih later _ ((layout.step_blank blank).2 piece ends)
    · obtain ⟨someValue, visible⟩ := shows token List.mem_cons_self blank
      have written := (layout.written_visible absent someValue visible).1
      rw [layout.pieces_cons_visible blank]
      exact .cons_cons (ends.joined token) (ih later _ (layout.step_visible written blank blankUnit).2.2)

/-- The same before any piece is placed. -/
theorem Layout.isChain_pieces_start (layout : Layout) : (Layout.pieces style layout tokens).IsChain Joined := by
  induction tokens generalizing layout with
  | nil => exact .nil
  | cons token rest ih =>
    have later := fun other member => shows other (List.mem_cons_of_mem token member)
    by_cases blank : token.kind = .blank
    · rw [layout.pieces_cons_blank blank]
      exact ih later _
    · obtain ⟨someValue, visible⟩ := shows token List.mem_cons_self blank
      have written := (layout.written_visible absent someValue visible).1
      rw [layout.pieces_cons_visible blank]
      exact Layout.isChain_pieces absent blankUnit later _ (layout.step_visible written blank blankUnit).2.2

end Run

theorem Layout.pieces_token (layout : Layout) (tokens : List Token) :
    (Layout.pieces style layout tokens).map Piece.token = visibleTokens tokens := by
  induction tokens generalizing layout with
  | nil => rfl
  | cons token rest ih =>
    by_cases blank : token.kind = .blank
    · rw [layout.pieces_cons_blank blank, ih, visibleTokens_cons_blank blank]
    · rw [layout.pieces_cons_visible blank, List.map_cons, ih, visibleTokens_cons_visible blank]
      rfl

theorem Layout.rendered_piece (layout : Layout) (absent : style.params = .absent) (token : Token) :
    Rendered style 0 token (layout.piece style token).text := by
  simp only [Rendered, Layout.piece, Layout.written, absent]
  cases token.kind with
  | blockComment => exact ⟨layout.indent.depth, rfl⟩
  | _ => rfl

/-- What holds of the piece for any token holds of all pieces. -/
theorem Layout.forall_pieces {holds : Piece → Prop} (layout : Layout) (tokens : List Token)
    (atPiece : ∀ (layout : Layout) (token : Token), token ∈ tokens → token.kind ≠ .blank →
      holds (layout.piece style token)) :
    ∀ piece ∈ Layout.pieces style layout tokens, holds piece := by
  induction tokens generalizing layout with
  | nil => simp [Layout.pieces]
  | cons token rest ih =>
    have later := ih (layout.step style token rest)
      fun layout other member => atPiece layout other (List.mem_cons_of_mem _ member)
    by_cases blank : token.kind = .blank
    · rw [layout.pieces_cons_blank blank]
      exact later
    · rw [layout.pieces_cons_visible blank]
      intro piece member
      rcases List.mem_cons.mp member with rfl | member
      · exact atPiece layout token List.mem_cons_self blank
      · exact later piece member

/-- The text of pieces that begins with the first of them. -/
def Piece.output : List Piece → List Char
  | [] => []
  | piece :: later => piece.text ++ Piece.join later

theorem layoutTokens_eq_shown (blankUnit : IsGap style.indentUnit) {tokens : List Token}
    (shows : ∀ token ∈ tokens, token.Shows) :
    layoutTokens style tokens = trimStart (Piece.join (({} : Layout).shownPieces style tokens)) := by
  have text := Layout.text_run blankUnit shows {}
  change trimEnd (trimStart _) = _
  rw [← trimStart_trimEnd]
  exact congrArg trimStart text

/-- A layout is the text of its pieces. -/
theorem layoutTokens_eq_output (absent : style.params = .absent) (blankUnit : IsGap style.indentUnit)
    {tokens : List Token} (shows : ∀ token ∈ tokens, token.Shows) :
    layoutTokens style tokens = Piece.output (Layout.pieces style {} tokens) := by
  have visible : ∀ piece ∈ Layout.pieces style {} tokens,
      IsGap piece.gap ∧ piece.text ≠ [] ∧ begins isBlank piece.text = false := by
    refine Layout.forall_pieces {} tokens fun layout token member notBlank => ?_
    obtain ⟨someValue, visible⟩ := shows token member notBlank
    exact ⟨Layout.isGap_gapBefore blankUnit, layout.written_visible absent someValue visible⟩
  have all : ({} : Layout).shownPieces style tokens = Layout.pieces style {} tokens :=
    List.filter_eq_self.mpr fun piece member => by simp [(visible piece member).2.1]
  rw [layoutTokens_eq_shown blankUnit shows, all]
  cases pieces : Layout.pieces style {} tokens with
  | nil => rfl
  | cons piece later =>
    obtain ⟨blankGap, someText, shown⟩ := visible piece (by simp [pieces])
    obtain ⟨c, text, split⟩ := List.exists_cons_of_ne_nil someText
    rw [split] at shown
    have skipped : trimStart piece.gap = [] := List.dropWhile_eq_nil_iff.mpr blankGap
    rw [Piece.join_cons, Piece.output, split, List.append_assoc, List.cons_append, trimStart_append_cons _ shown,
      skipped, List.nil_append]

end QueryLayout
