import QueryLayout.Proofs.Interleaving

namespace QueryLayout

/-- The same layout behind a text laid out before it, with another cursor and another token placed last. -/
def Layout.recast (layout : Layout) (front : List Char) (cursor : Nat) (previous : Option Token) : Layout :=
  { layout with cursor := cursor, previous := previous, output := layout.output ++ front.reverse }

/-- The same style with other texts for placeholders. -/
def Style.resolving (style : Style) (params : Params) : Style :=
  { style with params := params }

@[simp] theorem Layout.text_recast (layout : Layout) (front : List Char) (cursor : Nat) (previous : Option Token) :
    (layout.recast front cursor previous).text = front ++ layout.text := by
  simp [Layout.recast, Layout.text]

section Recast

variable {front : List Char} {cursor : Nat} {previous : Option Token} (layout : Layout) (style : Style)
  (params : Params) (token : Token)

theorem Layout.recast_mk (indent : Indent) (inline : Bool) (lastWord visible : Option Token) :
    Layout.mk indent inline (layout.recast front cursor previous).cursor lastWord
        (layout.recast front cursor previous).previous visible (layout.recast front cursor previous).output =
      (Layout.mk indent inline layout.cursor lastWord layout.previous visible layout.output).recast
        front cursor previous :=
  rfl

theorem Layout.write_recast (text : List Char) :
    (layout.recast front cursor previous).write text = (layout.write text).recast front cursor previous := by
  simp [Layout.recast, Layout.write]

theorem Layout.writeSpaced_recast (text : List Char) :
    (layout.recast front cursor previous).writeSpaced text =
      (layout.writeSpaced text).recast front cursor previous :=
  layout.write_recast (text ++ [' '])

variable (firm : trimEnd front = front)

include firm

/-- Trimming stops at the last character of a text that has no blanks at its end. -/
theorem Layout.dropBlanks_recast :
    (layout.recast front cursor previous).dropBlanks = layout.dropBlanks.recast front cursor previous := by
  have stays : front.reverse.dropWhile isBlank = front.reverse := List.reverse_eq_iff.mp firm
  simp only [Layout.dropBlanks, Layout.recast, List.dropWhile_append, stays]
  split
  · rename_i empty
    rw [List.isEmpty_iff.mp empty, List.nil_append]
  · rfl

theorem Layout.breakLine_recast :
    (layout.recast front cursor previous).breakLine (style.resolving params) =
      (layout.breakLine style).recast front cursor previous := by
  unfold Layout.breakLine
  rw [layout.dropBlanks_recast firm, Layout.write_recast]
  rfl

theorem Layout.tighten_recast :
    (layout.recast front cursor previous).tighten = layout.tighten.recast front cursor previous := by
  unfold Layout.tighten
  rw [layout.dropBlanks_recast firm, Layout.write_recast, apply_ite (Layout.recast · front cursor previous)]
  rfl

theorem Layout.placeClause_recast :
    (layout.recast front cursor previous).placeClause (style.resolving params) token =
      (layout.placeClause style token).recast front cursor previous := by
  unfold Layout.placeClause
  simp only [Layout.recast_mk, Layout.breakLine_recast _ _ _ firm, Layout.write_recast]
  rfl

theorem Layout.placeContinuation_recast :
    (layout.recast front cursor previous).placeContinuation (style.resolving params) token =
      (layout.placeContinuation style token).recast front cursor previous := by
  unfold Layout.placeContinuation
  simp only [Layout.recast_mk, Layout.breakLine_recast _ _ _ firm, Layout.writeSpaced_recast]
  rfl

theorem Layout.placeClosing_recast :
    (layout.recast front cursor previous).placeClosing (style.resolving params) token =
      (layout.placeClosing style token).recast front cursor previous := by
  unfold Layout.placeClosing
  simp only [Layout.recast_mk, Layout.tighten_recast _ firm, Layout.breakLine_recast _ _ _ firm,
    Layout.writeSpaced_recast]
  rw [apply_ite (Layout.recast · front cursor previous)]
  rfl

theorem Layout.placeComma_recast :
    (layout.recast front cursor previous).placeComma (style.resolving params) token =
      (layout.placeComma style token).recast front cursor previous := by
  unfold Layout.placeComma
  simp only [Layout.tighten_recast _ firm, Layout.breakLine_recast _ _ _ firm, Layout.writeSpaced_recast]
  rw [apply_ite (Layout.recast · front cursor previous)]
  rfl

theorem Layout.placePlain_recast :
    (layout.recast front cursor previous).placePlain (style.resolving params) token =
      (layout.placePlain style token).recast front cursor previous := by
  unfold Layout.placePlain
  simp only [Layout.placeComma_recast _ _ _ _ firm, Layout.tighten_recast _ firm, Layout.write_recast,
    Layout.writeSpaced_recast]
  repeat' split
  all_goals rfl

/-- What an opening bracket sees of the tokens around it. -/
theorem Layout.placeOpening_recast {rest others : List Token}
    (spaced : previous.any (·.kind.keepsSpace) = layout.previous.any (·.kind.keepsSpace))
    (group : isInlineGroup style.inlineLimit (token :: rest) = isInlineGroup style.inlineLimit (token :: others)) :
    (layout.recast front cursor previous).placeOpening (style.resolving params) token rest =
      (layout.placeOpening style token others).recast front cursor previous := by
  have sees : (layout.recast front cursor previous).previous.any (·.kind.keepsSpace) =
      layout.previous.any (·.kind.keepsSpace) := spaced
  have stays : staysInline (layout.recast front cursor previous).inline (style.resolving params).inlineLimit
      (token :: rest) = staysInline layout.inline style.inlineLimit (token :: others) := by
    simp only [staysInline, Style.resolving, group]
    rfl
  unfold Layout.placeOpening
  rw [layout.dropBlanks_recast firm, sees, stays]
  by_cases keeps : layout.previous.any (·.kind.keepsSpace)
  all_goals
    simp only [keeps, if_true, Bool.false_eq_true, if_false, Layout.recast_mk, Layout.write_recast,
      Layout.breakLine_recast _ _ _ firm]
    rw [apply_ite (Layout.recast · front cursor previous)]
    rfl

/-- The text in front of a layout, its cursor, the texts for placeholders and, except for brackets, the
tokens right before and after have no part in how a token is placed. -/
theorem Layout.place_recast {rest others : List Token} (notPlaceholder : token.kind ≠ .placeholder)
    (bracket : token.kind = .opening →
      previous.any (·.kind.keepsSpace) = layout.previous.any (·.kind.keepsSpace) ∧
        isInlineGroup style.inlineLimit (token :: rest) = isInlineGroup style.inlineLimit (token :: others)) :
    (layout.recast front cursor previous).place (style.resolving params) token rest =
      (layout.place style token others).recast front cursor previous := by
  unfold Layout.place
  cases kind : token.kind with
  | blank => rfl
  | placeholder => exact absurd kind notPlaceholder
  | lineComment => simp only [Layout.placeLineComment, Layout.write_recast, Layout.breakLine_recast _ _ _ firm]
  | blockComment =>
    simp only [Layout.placeBlockComment, Layout.write_recast, Layout.breakLine_recast _ _ _ firm]
    rfl
  | clause => exact layout.placeClause_recast style params token firm
  | continuation => exact layout.placeContinuation_recast style params token firm
  | opening => exact layout.placeOpening_recast style params token firm (bracket kind).1 (bracket kind).2
  | closing => exact layout.placeClosing_recast style params token firm
  | word | literal | number | operator | reserved => exact layout.placePlain_recast style params token firm

theorem Layout.step_recast {rest others : List Token} (notPlaceholder : token.kind ≠ .placeholder)
    (bracket : token.kind = .opening →
      previous.any (·.kind.keepsSpace) = layout.previous.any (·.kind.keepsSpace) ∧
        isInlineGroup style.inlineLimit (token :: rest) = isInlineGroup style.inlineLimit (token :: others)) :
    (layout.recast front cursor previous).step (style.resolving params) token rest =
      (layout.step style token others).recast front cursor (some token) := by
  unfold Layout.step
  rw [layout.place_recast style params token firm notPlaceholder bracket]
  rfl

end Recast

/-- A layout that goes on behind a text laid out before it. -/
def Layout.behind (layout : Layout) (front : List Char) : Layout :=
  layout.recast front layout.cursor layout.previous

@[simp] theorem Layout.text_behind (layout : Layout) (front : List Char) :
    (layout.behind front).text = front ++ layout.text :=
  layout.text_recast front _ _

theorem Layout.step_behind {front : List Char} (firm : trimEnd front = front) (layout : Layout) (style : Style)
    (token : Token) (rest : List Token) :
    (layout.behind front).step style token rest = (layout.step style token rest).behind front := by
  by_cases kind : token.kind = .placeholder
  · let resolved := style.params.resolve layout.cursor token
    have placed : (layout.behind front).placePlaceholder style token =
        (layout.placePlaceholder style token).recast front resolved.2 layout.previous :=
      Layout.writeSpaced_recast { layout with cursor := resolved.2 } resolved.1
    simp only [Layout.step, Layout.place, kind]
    rw [placed]
    rfl
  · have cursor : (layout.step style token rest).cursor = layout.cursor := layout.cursor_place rest kind
    unfold Layout.behind
    rw [cursor]
    exact layout.step_recast style style.params token firm kind fun _ => ⟨rfl, rfl⟩

/-- A layout behind a text is the text and the layout by itself. -/
theorem Layout.run_behind {front : List Char} (firm : trimEnd front = front) (layout : Layout) (style : Style)
    (tokens : List Token) :
    Layout.run style (layout.behind front) tokens = (Layout.run style layout tokens).behind front := by
  induction tokens generalizing layout with
  | nil => rfl
  | cons token rest ih => rw [Layout.run, layout.step_behind firm style token rest, ih, Layout.run]

end QueryLayout
