import QueryLayout.Proofs.LayoutText

namespace QueryLayout

section State

variable (layout : Layout) (style : Style) (token : Token) (rest : List Token)

/-- What a token does to the indentation. -/
theorem Layout.indent_step : (layout.step style token rest).indent =
    match token.kind with
    | .clause => layout.indent.closeClause.openClause
    | .opening =>
      if staysInline layout.inline style.inlineLimit (token :: rest) then layout.indent
      else layout.indent.openNesting
    | .closing => if layout.inline then layout.indent else layout.indent.closeNesting
    | _ => layout.indent := by
  unfold Layout.step Layout.place
  cases token.kind with
  | blank | lineComment | blockComment | clause | continuation | placeholder => rfl
  | opening =>
    simp only [Layout.placeOpening]
    repeat' split
    all_goals rfl
  | closing =>
    simp only [Layout.placeClosing]
    split
    · exact Layout.indent_tighten _
    · rfl
  | word | literal | number | operator | reserved =>
    simp only [Layout.placePlain, Layout.placeComma]
    repeat' split
    all_goals simp [Layout.indent_tighten]

@[simp] theorem Layout.inline_write (text : List Char) : (layout.write text).inline = layout.inline :=
  rfl

@[simp] theorem Layout.inline_writeSpaced (text : List Char) : (layout.writeSpaced text).inline = layout.inline :=
  rfl

@[simp] theorem Layout.inline_breakLine : (layout.breakLine style).inline = layout.inline :=
  rfl

@[simp] theorem Layout.inline_tighten : layout.tighten.inline = layout.inline := by
  unfold Layout.tighten
  split <;> rfl

@[simp] theorem Layout.lastWord_write (text : List Char) : (layout.write text).lastWord = layout.lastWord :=
  rfl

@[simp] theorem Layout.lastWord_writeSpaced (text : List Char) :
    (layout.writeSpaced text).lastWord = layout.lastWord :=
  rfl

@[simp] theorem Layout.lastWord_breakLine : (layout.breakLine style).lastWord = layout.lastWord :=
  rfl

@[simp] theorem Layout.lastWord_tighten : layout.tighten.lastWord = layout.lastWord := by
  unfold Layout.tighten
  split <;> rfl

/-- What a token does to the group on one line that it stands in. -/
theorem Layout.inline_step : (layout.step style token rest).inline =
    match token.kind with
    | .opening => staysInline layout.inline style.inlineLimit (token :: rest)
    | .closing => false
    | _ => layout.inline := by
  unfold Layout.step Layout.place
  cases token.kind with
  | blank | lineComment | blockComment | clause | continuation | placeholder => rfl
  | opening =>
    simp only [Layout.placeOpening]
    repeat' split
    all_goals rfl
  | closing =>
    simp only [Layout.placeClosing]
    split
    · exact Layout.inline_tighten _
    · rename_i outside
      exact Bool.not_eq_true _ ▸ outside
  | word | literal | number | operator | reserved =>
    simp only [Layout.placePlain, Layout.placeComma]
    repeat' split
    all_goals simp

theorem Layout.lastWord_step : (layout.step style token rest).lastWord =
    match token.kind with
    | .clause | .continuation => some token
    | _ => layout.lastWord := by
  unfold Layout.step Layout.place
  cases token.kind with
  | blank | lineComment | blockComment | clause | continuation | placeholder => rfl
  | opening =>
    simp only [Layout.placeOpening]
    repeat' split
    all_goals rfl
  | closing =>
    simp only [Layout.placeClosing]
    split
    · exact Layout.lastWord_tighten _
    · rfl
  | word | literal | number | operator | reserved =>
    simp only [Layout.placePlain, Layout.placeComma]
    repeat' split
    all_goals simp

/-- Of the tokens that follow, only those of a group that opens here matter. -/
theorem Layout.step_ahead {others : List Token}
    (group : isInlineGroup style.inlineLimit (token :: rest) = isInlineGroup style.inlineLimit (token :: others)) :
    layout.step style token rest = layout.step style token others := by
  have same : layout.placeOpening style token rest = layout.placeOpening style token others := by
    unfold Layout.placeOpening staysInline
    rw [group]
  unfold Layout.step Layout.place
  rw [same]

end State

section Groups

variable {limit length : Int} {token : Token} {rest : List Token}

/-- A group that is open goes on with its closing bracket, or with a token that may stand in it. -/
theorem groupCloses_cons (closes : groupCloses limit 1 length (token :: rest)) :
    token.kind = .closing ∨ token.kind ≠ .opening ∧ token.kind.breaksGroup = false ∧ token.value ≠ [';'] ∧
      ∃ longer, groupCloses limit 1 longer rest := by
  rw [groupCloses] at closes
  simp only at closes
  split at closes
  · cases closes
  · cases kind : token.kind with
    | closing => exact Or.inl rfl
    | opening => simp [kind] at closes
    | _ =>
      simp only [kind, Bool.or_eq_true, beq_iff_eq] at closes
      split at closes
      · cases closes
      · rename_i goesOn
        rw [not_or, Bool.not_eq_true] at goesOn
        exact Or.inr ⟨by simp, goesOn.1, goesOn.2, _, closes⟩

/-- A group on one line is open after its opening bracket. -/
theorem groupCloses_of_isInlineGroup (opening : token.kind = .opening)
    (fits : isInlineGroup limit (token :: rest)) : ∃ length, groupCloses limit 1 length rest := by
  rw [isInlineGroup, groupCloses] at fits
  simp only [opening] at fits
  split at fits
  · cases fits
  · exact ⟨_, by simpa using fits⟩

/-- No group goes on past a semicolon. -/
theorem groupCloses_semicolon (limit level length : Int) {semicolon : Token} (kind : semicolon.kind = .operator)
    (value : semicolon.value = [';']) (tokens more : List Token) :
    groupCloses limit level length (tokens ++ semicolon :: more) = groupCloses limit level length tokens := by
  induction tokens generalizing level length with
  | nil =>
    rw [List.nil_append, groupCloses, groupCloses]
    simp only [kind, value, beq_self_eq_true, Bool.or_true, if_true, ite_self]
  | cons token tokens ih =>
    rw [List.cons_append, groupCloses, groupCloses]
    simp only [ih]

end Groups

section Runs

variable {style : Style} {layout : Layout} {token : Token} {rest tokens : List Token}

/-- While a group stays on one line, its end is in sight. -/
def Layout.Closes (style : Style) (layout : Layout) (tokens : List Token) : Prop :=
  layout.inline → ∃ length, groupCloses style.inlineLimit 1 length tokens

theorem Layout.Closes.inline_eq_false (closes : layout.Closes style (token :: rest))
    (breaks : token.kind = .opening ∨ token.kind.breaksGroup ∨ token.value = [';'] ∧ token.kind ≠ .closing) :
    layout.inline = false := by
  by_contra inline
  obtain ⟨_, closes⟩ := closes (Bool.not_eq_false _ ▸ inline)
  rcases groupCloses_cons closes with closing | ⟨notOpening, keeps, notSemicolon, _⟩
  · rcases breaks with opening | breaks | ⟨_, notClosing⟩
    · simp [closing] at opening
    · simp [closing, Kind.breaksGroup] at breaks
    · exact notClosing closing
  · rcases breaks with opening | breaks | ⟨semicolon, _⟩
    · exact notOpening opening
    · simp [keeps] at breaks
    · exact notSemicolon semicolon

theorem Layout.Closes.step (closes : layout.Closes style (token :: rest)) :
    (layout.step style token rest).Closes style rest := by
  intro inline
  rw [layout.inline_step style token rest] at inline
  have goesOn : token.kind ≠ .closing → layout.inline → ∃ length, groupCloses style.inlineLimit 1 length rest := by
    intro notClosing inline
    obtain ⟨_, closes⟩ := closes inline
    rcases groupCloses_cons closes with closing | ⟨_, _, _, later⟩
    · exact absurd closing notClosing
    · exact later
  cases kind : token.kind with
  | opening =>
    have outside := closes.inline_eq_false (Or.inl kind)
    rw [kind] at inline
    simp only [staysInline, outside, Bool.false_or] at inline
    exact groupCloses_of_isInlineGroup kind inline
  | closing => simp [kind] at inline
  | _ =>
    rw [kind] at inline
    exact goesOn (by simp [kind]) inline

/-- The layout after some tokens that others follow. -/
def Layout.upTo (style : Style) (more : List Token) : Layout → List Token → Layout
  | layout, [] => layout
  | layout, token :: rest => upTo style more (layout.step style token (rest ++ more)) rest

theorem Layout.run_append (layout : Layout) (tokens more : List Token) :
    Layout.run style layout (tokens ++ more) = Layout.run style (layout.upTo style more tokens) more := by
  induction tokens generalizing layout with
  | nil => rfl
  | cons token rest ih => rw [List.cons_append, Layout.run, ih, Layout.upTo]

/-- A semicolon hides all that comes after it. -/
theorem Layout.upTo_semicolon (layout : Layout) {semicolon : Token} (kind : semicolon.kind = .operator)
    (value : semicolon.value = [';']) (tokens more : List Token) :
    layout.upTo style (semicolon :: more) tokens = Layout.run style layout tokens := by
  induction tokens generalizing layout with
  | nil => rfl
  | cons token rest ih =>
    have group : isInlineGroup style.inlineLimit (token :: (rest ++ semicolon :: more)) =
        isInlineGroup style.inlineLimit (token :: rest) :=
      groupCloses_semicolon _ _ _ kind value (token :: rest) more
    rw [Layout.upTo, Layout.run, layout.step_ahead style token _ group, ih]

end Runs

/-- An indentation that `depth` brackets have been opened on top of, each of them and the base below them
perhaps with a clause of its own. -/
inductive Indent.Above (base : Indent) : Nat → Indent → Prop
  | base : Above base 0 base
  | clause {depth indent} : Above base depth indent → Above base depth indent.closeClause.openClause
  | nested {depth indent} : Above base depth indent → Above base (depth + 1) indent.openNesting

theorem Indent.closeNesting_closeClause (indent : Indent) :
    indent.closeClause.closeNesting = indent.closeNesting := by
  cases indent with
  | nil => rfl
  | cons mark outer => cases mark <;> rfl

theorem Indent.Above.closeNesting {base indent : Indent} {depth : Nat} (above : base.Above (depth + 1) indent) :
    base.Above depth indent.closeNesting := by
  generalize size : depth + 1 = deeper at above
  induction above with
  | base => cases size
  | @clause _ indent _ ih =>
    rw [Indent.openClause, Indent.closeNesting, indent.closeNesting_closeClause]
    exact ih size
  | nested above =>
    cases size
    exact above

theorem Indent.Above.settled {base indent : Indent} (above : base.Above 0 indent) :
    indent = base ∨ indent = base.closeClause.openClause := by
  generalize size : 0 = depth at above
  induction above with
  | base => exact Or.inl rfl
  | clause _ ih =>
    rcases ih size with rfl | rfl
    · exact Or.inr rfl
    · exact Or.inr rfl
  | nested => cases size

/-- Whether all brackets close again and none closes that is not open, `depth` of them being open. -/
def balanced : Nat → List Token → Bool
  | depth, [] => depth == 0
  | depth, token :: rest =>
    match token.kind, depth with
    | .opening, depth => balanced (depth + 1) rest
    | .closing, 0 => false
    | .closing, depth + 1 => balanced depth rest
    | _, depth => balanced depth rest

/-- A layout inside `depth` brackets. A group on one line is the innermost of them and leaves no mark. -/
def Layout.Inside (base : Indent) (depth : Nat) (layout : Layout) : Prop :=
  ∃ nested, depth = nested + layout.inline.toNat ∧ base.Above nested layout.indent

theorem Layout.Inside.step {style : Style} {base : Indent} {depth : Nat} {layout : Layout} {token : Token}
    {rest later : List Token} (inside : layout.Inside base depth) (closes : layout.Closes style (token :: rest))
    (closed : balanced depth (token :: later)) :
    ∃ deeper, (layout.step style token rest).Inside base deeper ∧ balanced deeper later := by
  obtain ⟨nested, size, above⟩ := inside
  have indent := layout.indent_step style token rest
  have inline := layout.inline_step style token rest
  unfold Layout.Inside
  cases kind : token.kind with
  | opening =>
    have outside := closes.inline_eq_false (Or.inl kind)
    have closed : balanced (depth + 1) later := by simpa only [balanced, kind] using closed
    rw [outside, Bool.toNat_false] at size
    rw [kind] at indent inline
    refine ⟨depth + 1, ?_, closed⟩
    rw [indent, inline]
    cases staysInline layout.inline style.inlineLimit (token :: rest) with
    | true => exact ⟨nested, by simp [size], above⟩
    | false => exact ⟨nested + 1, by simp [size], .nested above⟩
  | closing =>
    rw [kind] at indent inline
    cases depth with
    | zero => simp [balanced, kind] at closed
    | succ depth =>
      have closed : balanced depth later := by simpa only [balanced, kind] using closed
      refine ⟨depth, ?_, closed⟩
      rw [indent, inline]
      cases atEnd : layout.inline with
      | true =>
        rw [atEnd, Bool.toNat_true] at size
        exact ⟨nested, by simp; omega, above⟩
      | false =>
        rw [atEnd, Bool.toNat_false] at size
        have same : nested = depth + 1 := by omega
        subst same
        exact ⟨depth, by simp, above.closeNesting⟩
  | clause =>
    rw [kind] at indent inline
    refine ⟨depth, ?_, by simpa only [balanced, kind] using closed⟩
    rw [indent, inline]
    exact ⟨nested, size, .clause above⟩
  | _ =>
    rw [kind] at indent inline
    refine ⟨depth, ?_, by simpa only [balanced, kind] using closed⟩
    rw [indent, inline]
    exact ⟨nested, size, above⟩

theorem Layout.Inside.upTo {style : Style} {base : Indent} {depth : Nat} {layout : Layout}
    {tokens more : List Token} (inside : layout.Inside base depth)
    (closes : layout.Closes style (tokens ++ more)) (closed : balanced depth tokens) :
    (layout.upTo style more tokens).Inside base 0 := by
  induction tokens generalizing layout depth with
  | nil =>
    have none : depth = 0 := by simpa [balanced] using closed
    rw [none] at inside
    exact inside
  | cons token rest ih =>
    obtain ⟨deeper, inside, closed⟩ := inside.step closes closed
    exact ih inside closes.step closed

/-- Brackets that close again leave nothing behind but a clause. -/
theorem Layout.upTo_balanced (style : Style) (layout : Layout) (outside : layout.inline = false)
    {tokens : List Token} (closed : balanced 0 tokens) (more : List Token) :
    (layout.upTo style more tokens).inline = false ∧
      ((layout.upTo style more tokens).indent = layout.indent ∨
        (layout.upTo style more tokens).indent = layout.indent.closeClause.openClause) := by
  have start : layout.Inside layout.indent 0 := ⟨0, by simp [outside], .base⟩
  have closes : layout.Closes style (tokens ++ more) := by
    intro inline
    rw [outside] at inline
    cases inline
  obtain ⟨nested, size, above⟩ := start.upTo closes closed
  obtain ⟨rfl, inline⟩ := Nat.add_eq_zero_iff.mp size.symm
  exact ⟨by simpa using inline, above.settled⟩

end QueryLayout
