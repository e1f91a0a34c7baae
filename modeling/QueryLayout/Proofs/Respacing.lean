import QueryLayout.Proofs.Front

namespace QueryLayout

/-- All that a layout takes from the blanks of a query: of each opening bracket in turn, whether a blank
stands right before it, and whether its group fits on one line. The first of the tokens follows `previous`. -/
def bracketViews (limit : Int) : Option Token → List Token → List (Bool × Bool)
  | _, [] => []
  | previous, token :: rest =>
    let later := bracketViews limit (some token) rest
    if token.kind = .opening then
      (previous.any (·.kind == .blank), isInlineGroup limit (token :: rest)) :: later
    else later

/-- The token placed last is the last visible one, unless it is a blank. -/
def Recalls (visible previous : Option Token) : Prop :=
  previous = visible ∨ previous.any (·.kind == .blank)

theorem Recalls.keepsSpace {visible previous : Option Token} (recalls : Recalls visible previous) :
    previous.any (·.kind.keepsSpace) = (previous.any (·.kind == .blank) || visible.any (·.kind.keepsSpace)) := by
  cases previous with
  | none =>
    rcases recalls with rfl | blank
    · rfl
    · cases blank
  | some token =>
    simp only [Option.any_some]
    rcases recalls with rfl | blank
    · cases kind : token.kind <;> simp [kind, Kind.keepsSpace]
    · have isBlank : token.kind = .blank := by simpa using blank
      simp [isBlank, Kind.keepsSpace]

variable {style : Style} {layout : Layout} {token : Token}

/-- The same layout with another token placed last. -/
def Layout.recalling (layout : Layout) (previous : Option Token) : Layout :=
  { layout with previous := previous }

/-- Blanks before a token matter to brackets only. -/
theorem Layout.step_recalling {before after : Option Token} {rest others : List Token}
    (bracket : token.kind = .opening → before.any (·.kind.keepsSpace) = after.any (·.kind.keepsSpace) ∧
      isInlineGroup style.inlineLimit (token :: rest) = isInlineGroup style.inlineLimit (token :: others)) :
    (layout.recalling before).step style token rest = (layout.recalling after).step style token others := by
  by_cases kind : token.kind = .placeholder
  · simp only [Layout.step, Layout.place, kind]
    rfl
  · let placed := (layout.recalling after).step style token others
    have cursor : placed.cursor = layout.cursor := (layout.recalling after).cursor_place others kind
    have same : layout.recalling before = (layout.recalling after).recast [] layout.cursor before := by
      simp [Layout.recalling, Layout.recast]
    have step : ((layout.recalling after).recast [] layout.cursor before).step style token rest =
        placed.recast [] layout.cursor (some token) :=
      (layout.recalling after).step_recast style style.params token rfl kind bracket
    rw [same, step, ← cursor]
    simp only [Layout.recast, List.reverse_nil, List.append_nil]
    rfl

/-- Blanks change nothing but the token placed last. -/
theorem Layout.run_blanks (style : Style) (previous : Option Token) {blanks : List Token}
    (blank : ∀ token ∈ blanks, token.kind = .blank) :
    ∃ last, (last = previous ∨ last.any (·.kind == .blank)) ∧ ∀ more,
      Layout.run style (layout.recalling previous) (blanks ++ more) =
        Layout.run style (layout.recalling last) more ∧
      bracketViews style.inlineLimit previous (blanks ++ more) = bracketViews style.inlineLimit last more := by
  induction blanks generalizing previous with
  | nil => exact ⟨previous, Or.inl rfl, fun more => ⟨rfl, rfl⟩⟩
  | cons token blanks ih =>
    have isBlank := blank token List.mem_cons_self
    have notOpening : token.kind ≠ .opening := by simp [isBlank]
    have passed : ∀ rest, (layout.recalling previous).step style token rest = layout.recalling (some token) := by
      intro rest
      simp only [Layout.step, Layout.place, isBlank, if_true]
      rfl
    obtain ⟨last, isLast, same⟩ := ih (some token) fun other member => blank other (List.mem_cons_of_mem _ member)
    refine ⟨last, Or.inr ?_, fun more => ?_⟩
    · rcases isLast with rfl | other
      · simp [isBlank]
      · exact other
    · rw [List.cons_append, Layout.run, passed, bracketViews, if_neg notOpening]
      exact same more

theorem Recalls.of_last {visible previous last : Option Token} (recalls : Recalls visible previous)
    (isLast : last = previous ∨ last.any (·.kind == .blank)) : Recalls visible last := by
  rcases isLast with rfl | blank
  · exact recalls
  · exact Or.inr blank

/-- A visible token is placed alike after different blanks, if the same is known about its bracket. -/
theorem Layout.step_respaced {before after : Option Token} {rest others : List Token}
    (recalls : Recalls layout.visible before) (alsoRecalls : Recalls layout.visible after)
    (views : bracketViews style.inlineLimit before (token :: rest) =
      bracketViews style.inlineLimit after (token :: others)) :
    (layout.recalling before).step style token rest = (layout.recalling after).step style token others ∧
      bracketViews style.inlineLimit (some token) rest = bracketViews style.inlineLimit (some token) others := by
  rw [bracketViews, bracketViews] at views
  by_cases opening : token.kind = .opening
  · rw [if_pos opening, if_pos opening, List.cons.injEq, Prod.mk.injEq] at views
    obtain ⟨⟨spaced, group⟩, views⟩ := views
    refine ⟨Layout.step_recalling fun _ => ⟨?_, group⟩, views⟩
    rw [recalls.keepsSpace, alsoRecalls.keepsSpace, spaced]
  · rw [if_neg opening, if_neg opening] at views
    exact ⟨Layout.step_recalling fun isOpening => absurd isOpening opening, views⟩

/-- Two runs over the same visible tokens write the same, as long as they learn the same about brackets. -/
theorem Layout.output_run_respaced {seen tokens others : List Token} {before after : Option Token}
    (recalls : Recalls layout.visible before) (alsoRecalls : Recalls layout.visible after)
    (visible : visibleTokens tokens = seen) (alsoVisible : visibleTokens others = seen)
    (views : bracketViews style.inlineLimit before tokens = bracketViews style.inlineLimit after others) :
    (Layout.run style (layout.recalling before) tokens).output =
      (Layout.run style (layout.recalling after) others).output := by
  induction seen generalizing layout before after tokens others with
  | nil =>
    have allBlank : ∀ {tokens}, visibleTokens tokens = [] → ∀ token ∈ tokens, token.kind = .blank := by
      intro tokens unseen
      simpa [visibleTokens] using unseen
    obtain ⟨_, _, same⟩ := layout.run_blanks style before (allBlank visible)
    obtain ⟨_, _, alsoSame⟩ := layout.run_blanks style after (allBlank alsoVisible)
    have first := (same []).1
    have second := (alsoSame []).1
    rw [List.append_nil] at first second
    rw [first, second]
    rfl
  | cons token seen ih =>
    obtain ⟨blanks, rest, rfl, blank, isVisible, visible⟩ := List.filter_eq_cons_iff.mp visible
    obtain ⟨otherBlanks, otherRest, rfl, alsoBlank, _, alsoVisible⟩ := List.filter_eq_cons_iff.mp alsoVisible
    have notBlank : token.kind ≠ .blank := by simpa using isVisible
    obtain ⟨last, isLast, same⟩ :=
      layout.run_blanks style before fun token member => by simpa using blank token member
    obtain ⟨otherLast, isOtherLast, alsoSame⟩ :=
      layout.run_blanks style after fun token member => by simpa using alsoBlank token member
    rw [(same _).2, (alsoSame _).2] at views
    obtain ⟨step, views⟩ := Layout.step_respaced (recalls.of_last isLast) (alsoRecalls.of_last isOtherLast) views
    rw [(same _).1, (alsoSame _).1, Layout.run, Layout.run, step]
    -- Both runs have placed the token last, and so they go on from the same layout.
    have placed : ((layout.recalling otherLast).step style token otherRest).visible = some token := by
      simp only [Layout.step, if_neg notBlank]
    have same : (layout.recalling otherLast).step style token otherRest =
        ((layout.recalling otherLast).step style token otherRest).recalling (some token) := rfl
    rw [same]
    exact ih (Or.inl placed.symm) (Or.inl placed.symm) visible alsoVisible views

/-- The blanks of a query have no part in its layout, except for what they mean to its brackets: token
lists with the same visible tokens are laid out in the same text, provided that each opening bracket
follows a blank in both or in none, and that its group fits on one line in both or in none. -/
theorem layoutTokens_respaced (style : Style) {tokens others : List Token}
    (visible : visibleTokens others = visibleTokens tokens)
    (views : bracketViews style.inlineLimit none others = bracketViews style.inlineLimit none tokens) :
    layoutTokens style others = layoutTokens style tokens := by
  have start : ({} : Layout) = ({} : Layout).recalling none := rfl
  unfold layoutTokens Layout.ofTokens Layout.text
  rw [start, Layout.output_run_respaced (Or.inl rfl) (Or.inl rfl) visible rfl views]

/-- Tabs, spaces and line breaks do the same, as long as one of them or none stands before each bracket. -/
theorem layoutTokens_respaced_tab :
    bracketViews 50 none (tokenize ({} : Lexicon).rules "f\t (a ,b)(c)".toList) = [(true, true), (false, true)] ∧
      layoutTokens {} (tokenize ({} : Lexicon).rules "f\t (a ,b)(c)".toList) =
        layoutTokens {} (tokenize ({} : Lexicon).rules "f (a,b)( c ) \n".toList) :=
  ⟨by decide +kernel, layoutTokens_respaced {} (by decide +kernel) (by decide +kernel)⟩

end QueryLayout
