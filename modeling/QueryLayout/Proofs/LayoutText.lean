import QueryLayout.Layout
import QueryLayout.Proofs.Gap

namespace QueryLayout

/-- A line break and the indentation of the line it begins. -/
def Indent.newLine (indent : Indent) (unit : List Char) : List Char :=
  '\n' :: indent.text unit

theorem Indent.isGap_newLine {unit : List Char} (blankUnit : IsGap unit) (indent : Indent) :
    IsGap (indent.newLine unit) :=
  isGap_cons.mpr ⟨by decide, blankUnit.replicate_flatten indent.depth⟩

variable (layout : Layout) (style : Style) (token : Token) (rest : List Token)

@[simp] theorem Layout.text_write (text : List Char) :
    (layout.write text).text = layout.text ++ text := by
  simp [Layout.write, Layout.text]

@[simp] theorem Layout.text_writeSpaced (text : List Char) :
    (layout.writeSpaced text).text = layout.text ++ text ++ [' '] := by
  simp [Layout.writeSpaced]

@[simp] theorem Layout.text_dropBlanks : layout.dropBlanks.text = trimEnd layout.text := by
  simp [Layout.dropBlanks, Layout.text, trimEnd]

@[simp] theorem Layout.text_breakLine :
    (layout.breakLine style).text = trimEnd layout.text ++ layout.indent.newLine style.indentUnit := by
  simp [Layout.breakLine, Indent.newLine]

/-- What separates a tightly placed token from the one before: a line comment
keeps its line break. -/
def Layout.tightGap : List Char :=
  if layout.visible.any (·.kind == .lineComment) then ['\n'] else []

theorem Layout.isGap_tightGap : IsGap layout.tightGap := by
  unfold Layout.tightGap
  split
  · exact isGap_cons.mpr ⟨by decide, isGap_nil⟩
  · exact isGap_nil

@[simp] theorem Layout.text_tighten :
    layout.tighten.text = trimEnd layout.text ++ layout.tightGap := by
  unfold Layout.tighten Layout.tightGap
  split <;> simp

/-- The text depends on nothing but the output. -/
@[simp] theorem Layout.text_mk (indent : Indent) (inline : Bool) (cursor : Nat)
    (lastWord previous visible : Option Token) :
    (Layout.mk indent inline cursor lastWord previous visible layout.output).text = layout.text :=
  rfl

@[simp] theorem Layout.tightGap_mk (indent : Indent) (inline : Bool) (cursor : Nat)
    (lastWord previous : Option Token) (output : List Char) :
    (Layout.mk indent inline cursor lastWord previous layout.visible output).tightGap = layout.tightGap :=
  rfl

@[simp] theorem Layout.indent_write (text : List Char) : (layout.write text).indent = layout.indent :=
  rfl

@[simp] theorem Layout.indent_writeSpaced (text : List Char) :
    (layout.writeSpaced text).indent = layout.indent :=
  rfl

@[simp] theorem Layout.indent_breakLine : (layout.breakLine style).indent = layout.indent :=
  rfl

theorem Layout.text_placeLineComment :
    (layout.placeLineComment style token).text =
      trimEnd (layout.text ++ token.value) ++ layout.indent.newLine style.indentUnit := by
  simp [Layout.placeLineComment]

theorem Layout.text_placeBlockComment :
    (layout.placeBlockComment style token).text =
      trimEnd (trimEnd layout.text ++ layout.indent.newLine style.indentUnit ++
        reindent (layout.indent.text style.indentUnit) token.value) ++
      layout.indent.newLine style.indentUnit := by
  simp [Layout.placeBlockComment]

theorem Layout.text_placeClause :
    (layout.placeClause style token).text =
      trimEnd (trimEnd layout.text ++ layout.indent.closeClause.newLine style.indentUnit ++
        squeeze token.value) ++
      layout.indent.closeClause.openClause.newLine style.indentUnit := by
  simp [Layout.placeClause]

theorem Layout.text_placeContinuation :
    (layout.placeContinuation style token).text =
      trimEnd layout.text ++ layout.indent.newLine style.indentUnit ++ squeeze token.value ++ [' '] := by
  simp [Layout.placeContinuation]

/-- The text that an opening bracket is written after. -/
def Layout.textBeforeOpening : List Char :=
  if layout.previous.any (·.kind.keepsSpace) then layout.text else trimEnd layout.text

theorem Layout.text_placeOpening :
    (layout.placeOpening style token rest).text =
      if staysInline layout.inline style.inlineLimit (token :: rest) then
        layout.textBeforeOpening ++ token.value
      else trimEnd (layout.textBeforeOpening ++ token.value) ++
        layout.indent.openNesting.newLine style.indentUnit := by
  have indent : (if layout.previous.any (·.kind.keepsSpace) then layout else layout.dropBlanks).indent =
      layout.indent := by
    split <;> rfl
  have before : (if layout.previous.any (·.kind.keepsSpace) then layout else layout.dropBlanks).text =
      layout.textBeforeOpening := by
    unfold Layout.textBeforeOpening
    split <;> simp
  unfold Layout.placeOpening
  dsimp only
  split <;> simp [indent, before]

theorem Layout.text_placeClosing :
    (layout.placeClosing style token).text =
      (if layout.inline then trimEnd layout.text ++ layout.tightGap
        else trimEnd layout.text ++ layout.indent.closeNesting.newLine style.indentUnit) ++
      token.value ++ [' '] := by
  unfold Layout.placeClosing
  split <;> simp

theorem Layout.text_placePlaceholder :
    (layout.placePlaceholder style token).text =
      layout.text ++ (style.params.resolve layout.cursor token).1 ++ [' '] := by
  simp [Layout.placePlaceholder]

@[simp] theorem Layout.indent_tighten : layout.tighten.indent = layout.indent := by
  unfold Layout.tighten
  split <;> rfl

theorem Layout.text_placeComma :
    (layout.placeComma style token).text =
      if layout.inline || layout.afterRowLimit style then
        trimEnd layout.text ++ layout.tightGap ++ token.value ++ [' ']
      else
        trimEnd (trimEnd layout.text ++ layout.tightGap ++ token.value ++ [' ']) ++
          layout.indent.newLine style.indentUnit := by
  have inline : (layout.tighten.writeSpaced token.value).inline = layout.inline := by
    unfold Layout.tighten
    split <;> rfl
  have limit : (layout.tighten.writeSpaced token.value).afterRowLimit style = layout.afterRowLimit style := by
    unfold Layout.tighten
    split <;> rfl
  unfold Layout.placeComma
  dsimp only
  rw [inline, limit]
  split <;> simp

theorem Layout.text_placePlain :
    (layout.placePlain style token).text =
      if token.value = [','] then (layout.placeComma style token).text
      else if token.value = [':'] then trimEnd layout.text ++ layout.tightGap ++ token.value ++ [' ']
      else if token.value = ['.'] then trimEnd layout.text ++ layout.tightGap ++ token.value
      else if token.value = [';'] then
        trimEnd layout.text ++ layout.tightGap ++ '\n' :: token.value ++ ['\n']
      else layout.text ++ token.value ++ [' '] := by
  unfold Layout.placePlain
  repeat' split
  all_goals simp

end QueryLayout
