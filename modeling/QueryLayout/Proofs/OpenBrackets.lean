import QueryLayout.Proofs.InlineGroups

namespace QueryLayout

/-- No clause stands directly in another one. -/
def Indent.Spaced (indent : Indent) : Prop :=
  indent.IsChain fun inner outer => ¬(inner = .clause ∧ outer = .clause)

/-- A bracket that is open before the tokens is closed by one of them. -/
def ClosesIn (tokens : List Token) : Prop :=
  ∃ inner closing after, tokens = inner ++ closing :: after ∧ closing.kind = .closing ∧ balanced 0 inner

/-- How many of the tokens close a bracket that is open before them. -/
def closingsOwed : List Token → Nat
  | [] => 0
  | token :: rest =>
    match token.kind with
    | .opening => closingsOwed rest - 1
    | .closing => closingsOwed rest + 1
    | _ => closingsOwed rest

section Closings

variable {tokens inner : List Token} {depth : Nat}

theorem closingsOwed_append (closed : balanced depth inner) (more : List Token) :
    closingsOwed (inner ++ more) = closingsOwed more + depth := by
  induction inner generalizing depth with
  | nil =>
    obtain rfl : depth = 0 := by simpa [balanced] using closed
    rfl
  | cons token rest ih =>
    rw [List.cons_append, closingsOwed]
    cases kind : token.kind with
    | opening =>
      have closed : balanced (depth + 1) rest := by simpa only [balanced, kind] using closed
      simp only [ih closed]
      omega
    | closing =>
      cases depth with
      | zero => simp [balanced, kind] at closed
      | succ depth =>
        have closed : balanced depth rest := by simpa only [balanced, kind] using closed
        simp only [ih closed]
        omega
    | _ => exact ih (by simpa only [balanced, kind] using closed)

/-- Of more closing brackets than there are open brackets, one closes the bracket outside these. -/
theorem exists_closing_of_lt (owed : depth < closingsOwed tokens) :
    ∃ inner closing after, tokens = inner ++ closing :: after ∧ closing.kind = .closing ∧ balanced depth inner := by
  induction tokens generalizing depth with
  | nil => cases owed
  | cons token rest ih =>
    rw [closingsOwed] at owed
    have goesOn : ∀ other, (∀ inner, balanced other inner → balanced depth (token :: inner)) →
        other < closingsOwed rest → ∃ inner closing after, token :: rest = inner ++ closing :: after ∧
          closing.kind = .closing ∧ balanced depth inner := by
      intro other pass owed
      obtain ⟨inner, closing, after, rfl, isClosing, closed⟩ := ih owed
      exact ⟨token :: inner, closing, after, rfl, isClosing, pass inner closed⟩
    cases kind : token.kind with
    | opening =>
      simp only [kind] at owed
      exact goesOn (depth + 1) (fun inner closed => by simpa only [balanced, kind] using closed) (by omega)
    | closing =>
      simp only [kind] at owed
      cases depth with
      | zero => exact ⟨[], token, rest, rfl, kind, rfl⟩
      | succ depth =>
        exact goesOn depth (fun inner closed => by simpa only [balanced, kind] using closed) (by omega)
    | _ =>
      simp only [kind] at owed
      exact goesOn depth (fun inner closed => by simpa only [balanced, kind] using closed) owed

theorem closesIn_iff : ClosesIn tokens ↔ 0 < closingsOwed tokens := by
  constructor
  · rintro ⟨inner, closing, after, rfl, isClosing, closed⟩
    rw [closingsOwed_append closed, closingsOwed, isClosing]
    exact Nat.succ_pos _
  · exact exists_closing_of_lt

instance : Decidable (ClosesIn tokens) :=
  decidable_of_iff _ closesIn_iff.symm

end Closings

/-- How many brackets have been opened by the tokens and not closed yet, with the tokens `more` to follow. Those of
groups on one line do not count. -/
def openBrackets (limit : Int) (more : List Token) : List Token → Nat
  | [] => 0
  | token :: rest =>
    (if token.kind = .opening ∧ ¬isInlineGroup limit (token :: (rest ++ more)) ∧ ¬ClosesIn rest then 1 else 0) +
      openBrackets limit more rest

theorem openBrackets_cons (limit : Int) (more : List Token) (token : Token) (rest : List Token) :
    openBrackets limit more (token :: rest) =
      (if token.kind = .opening ∧ ¬isInlineGroup limit (token :: (rest ++ more)) ∧ closingsOwed rest = 0 then 1
        else 0) + openBrackets limit more rest := by
  simp only [openBrackets, closesIn_iff, Nat.not_lt, Nat.le_zero]

section Marks

variable {indent : Indent}

theorem Indent.count_openClause (indent : Indent) :
    indent.closeClause.openClause.count .nesting = indent.count .nesting := by
  cases indent with
  | nil => rfl
  | cons mark outer => cases mark <;> simp [Indent.closeClause, Indent.openClause]

theorem Indent.openClause_cases (indent : Indent) :
    indent.closeClause.openClause = indent ∨ indent.closeClause.openClause = .clause :: indent := by
  cases indent with
  | nil => exact Or.inr rfl
  | cons mark outer =>
    cases mark with
    | clause => exact Or.inl rfl
    | nesting => exact Or.inr rfl

theorem Indent.count_openNesting (indent : Indent) :
    indent.openNesting.count .nesting = indent.count .nesting + 1 :=
  List.count_cons_self

theorem Indent.count_closeNesting (indent : Indent) :
    indent.closeNesting.count .nesting = indent.count .nesting - 1 := by
  induction indent with
  | nil => rfl
  | cons mark outer ih => cases mark <;> simp [Indent.closeNesting, ih]

theorem Indent.closeNesting_eq_nil (none : indent.count .nesting = 0) : indent.closeNesting = [] := by
  induction indent with
  | nil => rfl
  | cons mark outer ih =>
    cases mark with
    | clause => exact ih (by simpa using none)
    | nesting => simp at none

theorem Indent.Spaced.openClause (spaced : indent.Spaced) : indent.closeClause.openClause.Spaced := by
  cases indent with
  | nil => exact .singleton _
  | cons mark outer =>
    cases mark with
    | clause => exact spaced
    | nesting => exact spaced.cons_cons (by simp)

theorem Indent.Spaced.openNesting (spaced : indent.Spaced) : indent.openNesting.Spaced :=
  List.IsChain.cons spaced (by simp)

theorem Indent.Spaced.closeNesting (spaced : indent.Spaced) : indent.closeNesting.Spaced := by
  induction indent with
  | nil => exact spaced
  | cons mark outer ih =>
    cases mark with
    | clause => exact ih spaced.tail
    | nesting => exact spaced.tail

/-- There is at most one clause inside each bracket, and one outside all of them. -/
theorem Indent.Spaced.depth_le (spaced : indent.Spaced) :
    indent.depth ≤ 2 * indent.count .nesting + (indent.head?.any (· == .clause)).toNat := by
  induction indent with
  | nil => exact Nat.le_refl 0
  | cons mark outer ih =>
    have below := ih spaced.tail
    cases mark with
    | nesting =>
      have one := (outer.head?.any (· == .clause)).toNat_le
      rw [Indent.depth] at below
      rw [Indent.depth, List.length_cons, List.count_cons_self]
      omega
    | clause =>
      have noClause : outer.head?.any (· == .clause) = false := by
        cases outer with
        | nil => rfl
        | cons next _ => cases next <;> simp_all [Indent.Spaced]
      rw [noClause, Bool.toNat_false, Indent.depth] at below
      rw [Indent.depth, List.length_cons, List.count_cons_of_ne (by simp)]
      exact Nat.succ_le_succ below

end Marks

section Steps

variable {style : Style} {layout : Layout} {token : Token} {tokens more : List Token}

theorem Layout.spaced_step (rest : List Token) (spaced : layout.indent.Spaced) :
    (layout.step style token rest).indent.Spaced := by
  rw [layout.indent_step]
  cases token.kind with
  | clause => exact spaced.openClause
  | opening =>
    simp only
    split
    · exact spaced
    · exact spaced.openNesting
  | closing =>
    simp only
    split
    · exact spaced
    · exact spaced.closeNesting
  | _ => exact spaced

/-- The brackets that tokens leave open are added to the marks, and those that they close are taken from them. The
first bracket that they close may be that of a group on one line, which has no mark. -/
theorem Layout.count_upTo (closes : layout.Closes style (tokens ++ more)) :
    (layout.upTo style more tokens).indent.count .nesting = openBrackets style.inlineLimit more tokens +
      (layout.indent.count .nesting - (closingsOwed tokens - layout.inline.toNat)) := by
  induction tokens generalizing layout with
  | nil => simp [Layout.upTo, openBrackets, closingsOwed]
  | cons token rest ih =>
    have indent := layout.indent_step style token (rest ++ more)
    have inline := layout.inline_step style token (rest ++ more)
    have later : (layout.step style token (rest ++ more)).Closes style (rest ++ more) := closes.step
    rw [Layout.upTo, ih later, openBrackets_cons, closingsOwed]
    cases kind : token.kind with
    | opening =>
      have outside := closes.inline_eq_false (Or.inl kind)
      simp only [kind, staysInline, outside, Bool.false_or] at indent inline
      rw [indent, inline, outside]
      cases fits : isInlineGroup style.inlineLimit (token :: (rest ++ more)) with
      | true => simp
      | false =>
        simp only [Bool.false_eq_true, if_false, Indent.count_openNesting, Bool.toNat_false, Nat.sub_zero,
          not_false_eq_true, true_and]
        split <;> omega
    | closing =>
      simp only [kind] at indent inline
      rw [indent, inline]
      cases layout.inline with
      | true => simp
      | false =>
        simp only [Bool.false_eq_true, if_false, Indent.count_closeNesting, Bool.toNat_false, Nat.sub_zero,
          reduceCtorEq, false_and, Nat.zero_add]
        omega
    | clause =>
      simp only [kind] at indent inline
      rw [indent, inline, Indent.count_openClause]
      simp
    | _ =>
      simp only [kind] at indent inline
      rw [indent, inline]
      simp

/-- A group on one line holds no brackets but those around it, nor a clause. -/
theorem Layout.upTo_inline (inline : layout.inline = true) (closes : layout.Closes style (tokens ++ more))
    (closed : balanced 0 tokens) :
    (layout.upTo style more tokens).inline = true ∧ (layout.upTo style more tokens).indent = layout.indent := by
  induction tokens generalizing layout with
  | nil => exact ⟨inline, rfl⟩
  | cons token rest ih =>
    have atIndent := layout.indent_step style token (rest ++ more)
    have atInline := layout.inline_step style token (rest ++ more)
    have later : (layout.step style token (rest ++ more)).Closes style (rest ++ more) := closes.step
    cases kind : token.kind with
    | opening =>
      have outside := closes.inline_eq_false (Or.inl kind)
      simp [inline] at outside
    | closing => simp [balanced, kind] at closed
    | clause =>
      have outside := closes.inline_eq_false (Or.inr (Or.inl (by simp [kind, Kind.breaksGroup])))
      simp [inline] at outside
    | _ =>
      simp only [kind] at atIndent atInline
      have within := ih (atInline.trans inline) later (by simpa only [balanced, kind] using closed)
      exact ⟨within.1, within.2.trans atIndent⟩

/-- A bracket that is closed again leaves the indentation as it was before. -/
theorem Layout.indent_pair (layout : Layout) {opening closing : Token} (isOpening : opening.kind = .opening)
    (isClosing : closing.kind = .closing) (closed : balanced 0 tokens)
    (closes : layout.Closes style (opening :: (tokens ++ closing :: more))) :
    (((layout.step style opening (tokens ++ closing :: more)).upTo style (closing :: more) tokens).step
      style closing more).indent = layout.indent := by
  have outside := closes.inline_eq_false (Or.inl isOpening)
  have indent := layout.indent_step style opening (tokens ++ closing :: more)
  have inline := layout.inline_step style opening (tokens ++ closing :: more)
  rw [isOpening] at indent inline
  rw [Layout.indent_step, isClosing]
  cases stays : staysInline layout.inline style.inlineLimit (opening :: (tokens ++ closing :: more)) with
  | true =>
    rw [stays] at inline
    simp only [stays, if_true] at indent
    obtain ⟨within, same⟩ := Layout.upTo_inline inline closes.step closed
    simp only [within, if_true, same, indent]
  | false =>
    rw [stays] at inline
    simp only [stays, Bool.false_eq_true, if_false] at indent
    obtain ⟨without, same | same⟩ := Layout.upTo_balanced style _ inline closed (closing :: more)
    · simp only [without, Bool.false_eq_true, if_false, same, indent]
      rfl
    · simp only [without, Bool.false_eq_true, if_false, same, indent]
      rfl

end Steps

section Runs

variable (style : Style) (before rest : List Token)

theorem Layout.spaced_reached : (Layout.reached style before rest).indent.Spaced :=
  Layout.upTo_keeps (fun layout => layout.indent.Spaced) (fun _ _ rest _ => Layout.spaced_step rest) .nil

theorem Layout.count_reached :
    (Layout.reached style before rest).indent.count .nesting = openBrackets style.inlineLimit rest before := by
  have closes : ({} : Layout).Closes style (before ++ rest) := fun inline => by cases inline
  have counted := Layout.count_upTo closes
  simpa [Layout.reached] using counted

theorem Layout.depth_reached :
    (Layout.reached style before rest).indent.depth ≤ 2 * openBrackets style.inlineLimit rest before + 1 := by
  have bound := (Layout.spaced_reached style before rest).depth_le
  have one := ((Layout.reached style before rest).indent.head?.any (· == .clause)).toNat_le
  rw [Layout.count_reached] at bound
  omega

theorem Layout.indent_closing {closing : Token} (isClosing : closing.kind = .closing) :
    (Layout.reached style (before ++ [closing]) rest).indent =
      if (Layout.reached style before (closing :: rest)).inline then
        (Layout.reached style before (closing :: rest)).indent
      else (Layout.reached style before (closing :: rest)).indent.closeNesting := by
  rw [Layout.reached_concat, Layout.indent_step, isClosing]

end Runs

/-- After any tokens the indentation has a mark for each open bracket, other than those of groups on one line, and
at most one clause inside each of them and outside all. A closing bracket that ends no such group takes the
innermost of these brackets, or empties the indentation when there is none. Tokens whose brackets match add a clause
at most, and a bracket that is closed again leaves nothing behind. -/
theorem Layout.indent_marks (style : Style) :
    (∀ before rest, (Layout.reached style before rest).indent.Spaced ∧
      (Layout.reached style before rest).indent.count .nesting = openBrackets style.inlineLimit rest before ∧
      (Layout.reached style before rest).indent.depth ≤ 2 * openBrackets style.inlineLimit rest before + 1) ∧
    (∀ before closing rest, closing.kind = .closing →
      (EndsInGroup style.inlineLimit before (closing :: rest) →
        (Layout.reached style (before ++ [closing]) rest).indent =
            (Layout.reached style before (closing :: rest)).indent ∧
          openBrackets style.inlineLimit rest (before ++ [closing]) =
            openBrackets style.inlineLimit (closing :: rest) before) ∧
      (¬EndsInGroup style.inlineLimit before (closing :: rest) →
        openBrackets style.inlineLimit rest (before ++ [closing]) =
            openBrackets style.inlineLimit (closing :: rest) before - 1 ∧
          (openBrackets style.inlineLimit (closing :: rest) before = 0 →
            (Layout.reached style (before ++ [closing]) rest).indent = []))) ∧
    (∀ before tokens rest, balanced 0 tokens → (Layout.reached style before (tokens ++ rest)).inline = false →
      (Layout.reached style (before ++ tokens) rest).indent =
          (Layout.reached style before (tokens ++ rest)).indent ∨
        (Layout.reached style (before ++ tokens) rest).indent =
          .clause :: (Layout.reached style before (tokens ++ rest)).indent) ∧
    ∀ before opening inner closing rest, opening.kind = .opening → closing.kind = .closing → balanced 0 inner →
      (Layout.reached style (before ++ opening :: (inner ++ [closing])) rest).indent =
        (Layout.reached style before (opening :: (inner ++ closing :: rest))).indent := by
  refine ⟨fun before rest => ?_, fun before closing rest isClosing => ?_,
    fun before tokens rest closed outside => ?_,
    fun before opening inner closing rest isOpening isClosing closed => ?_⟩
  · exact ⟨Layout.spaced_reached style before rest, Layout.count_reached style before rest,
      Layout.depth_reached style before rest⟩
  · have after := Layout.indent_closing style before rest isClosing
    rw [← Layout.inline_reached, ← Layout.count_reached, ← Layout.count_reached, after]
    constructor
    · intro inline
      rw [if_pos inline]
      exact ⟨rfl, rfl⟩
    · intro outside
      rw [if_neg outside]
      exact ⟨Indent.count_closeNesting _, Indent.closeNesting_eq_nil⟩
  · have split : Layout.reached style (before ++ tokens) rest =
        (Layout.reached style before (tokens ++ rest)).upTo style rest tokens :=
      Layout.upTo_append {} before tokens rest
    rw [split]
    obtain ⟨_, same | more⟩ := Layout.upTo_balanced style _ outside closed rest
    · exact Or.inl same
    · rw [more]
      exact Indent.openClause_cases _
  · rw [← List.cons_append, ← List.append_assoc, Layout.reached_concat, Layout.reached_append]
    exact Layout.indent_pair _ isOpening isClosing closed (Layout.closes_reached before _)

/-- A subquery that holds a group on one line, and a closing bracket too many behind it. -/
theorem Layout.indent_marks_subquery :
    let opening : Token := ⟨.opening, ['('], ['('], []⟩
    let select : Token := ⟨.clause, ['S', 'E', 'L', 'E', 'C', 'T'], ['s', 'e', 'l', 'e', 'c', 't'], []⟩
    let number : Token := ⟨.number, ['1'], ['1'], []⟩
    let closing : Token := ⟨.closing, [')'], [')'], []⟩
    let style : Style := { inlineLimit := 3 }
    let inner := [select, opening, number, closing]
    closing.kind = .closing ∧ EndsInGroup 3 [select, opening, select, opening, number] [closing, closing, closing] ∧
      (Layout.reached style [select, opening, select, opening, number, closing] [closing, closing]).indent =
        (Layout.reached style [select, opening, select, opening, number] [closing, closing, closing]).indent ∧
      ¬EndsInGroup 3 (select :: opening :: (inner ++ [closing])) [closing] ∧
      openBrackets 3 [closing] (select :: opening :: (inner ++ [closing])) = 0 ∧
      (Layout.reached style ([select] ++ opening :: (inner ++ [closing]) ++ [closing]) []).indent = [] ∧
      balanced 0 inner ∧ (Layout.reached style [select, opening] (inner ++ [closing, closing])).inline = false ∧
      ((Layout.reached style ([select, opening] ++ inner) [closing, closing]).indent =
          (Layout.reached style [select, opening] (inner ++ [closing, closing])).indent ∨
        (Layout.reached style ([select, opening] ++ inner) [closing, closing]).indent =
          .clause :: (Layout.reached style [select, opening] (inner ++ [closing, closing])).indent) ∧
      (Layout.reached style ([select] ++ opening :: (inner ++ [closing])) [closing]).indent =
        (Layout.reached style [select] (opening :: (inner ++ [closing, closing]))).indent := by
  intro opening select number closing style inner
  obtain ⟨_, closings, stretch, pair⟩ := Layout.indent_marks style
  have inGroup : EndsInGroup 3 [select, opening, select, opening, number] [closing, closing, closing] :=
    (Layout.inline_reached style _ _).mp (by decide)
  have outside : ¬EndsInGroup 3 (select :: opening :: (inner ++ [closing])) [closing] :=
    mt (Layout.inline_reached style _ _).mpr (by decide)
  have closed : balanced 0 inner := by decide
  exact ⟨rfl, inGroup, ((closings _ closing _ rfl).1 inGroup).1, outside, by decide,
    ((closings _ closing _ rfl).2 outside).2 (by decide), closed, by decide, stretch _ inner _ closed (by decide),
    pair [select] opening inner closing [closing] rfl rfl closed⟩

end QueryLayout
