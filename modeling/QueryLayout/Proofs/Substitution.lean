import QueryLayout.Proofs.Front
import QueryLayout.Proofs.Stability

namespace QueryLayout

/-- A text that shows, with no blanks at its two ends. -/
structure Solid (text : List Char) : Prop where
  shows : text ≠ []
  start : begins isBlank text = false
  firm : trimEnd text = text

instance (text : List Char) : Decidable (Solid text) :=
  decidable_of_iff (text ≠ [] ∧ begins isBlank text = false ∧ trimEnd text = text)
    ⟨fun ⟨shows, start, firm⟩ => ⟨shows, start, firm⟩, fun ⟨shows, start, firm⟩ => ⟨shows, start, firm⟩⟩

/-- Whether the texts for placeholders are solid, `index` others being used up before. -/
def Params.Fits (params : Params) : Nat → List Token → Prop
  | _, [] => True
  | index, token :: rest =>
    (token.kind = .placeholder → Solid (params.textAt index token)) ∧
      params.Fits (countPlaceholder index token) rest

instance Params.decidableFits (params : Params) : ∀ index tokens, Decidable (params.Fits index tokens)
  | _, [] => inferInstanceAs (Decidable True)
  | index, token :: rest =>
    have := params.decidableFits (countPlaceholder index token) rest
    inferInstanceAs (Decidable ((token.kind = .placeholder → Solid (params.textAt index token)) ∧ _))

/-- Puts the texts for placeholders in their place. -/
def Params.fill (params : Params) : Nat → List Piece → List Piece
  | _, [] => []
  | index, piece :: later =>
    { piece with
      text := if piece.token.kind = .placeholder then params.textAt index piece.token else piece.text } ::
      params.fill (countPlaceholder index piece.token) later

/-- The layout after a visible token, without the text up to the end of the token. What is put in the
place of a placeholder is not looked at. -/
def Layout.past (layout : Layout) (style : Style) (token : Token) (rest : List Token) : Layout :=
  { layout.step style token rest with
    output := (if token.kind = .placeholder then [' '] else layout.tailAfter style token rest).reverse }

/-- Cuts a layout into the pieces for its visible tokens and the text after the last one. A gap is all
that stands between two tokens, which need not be blank if the unit of indentation is not. -/
def Layout.cut (style : Style) : Layout → List Token → List Piece × List Char
  | layout, [] => ([], layout.text)
  | layout, token :: rest =>
    if token.kind = .blank then cut style (layout.step style token rest) rest
    else
      let later := cut style (layout.past style token rest) rest
      ({ layout.piece style token with gap := trimEnd layout.text ++ layout.gapBefore style token } ::
        later.1, later.2)

variable {style : Style} {token : Token} {rest : List Token}

theorem Layout.recast_recast (layout : Layout) (front outer : List Char) (first cursor : Nat)
    (second previous : Option Token) :
    (layout.recast front first second).recast outer cursor previous =
      layout.recast (outer ++ front) cursor previous := by
  simp [Layout.recast]

/-- A token that shows is firm ground for all that follows. -/
theorem Layout.step_eq_recast_past (layout : Layout) (rest : List Token)
    (notPlaceholder : token.kind ≠ .placeholder) (notBlank : token.kind ≠ .blank)
    (visible : trimEnd (layout.written style token) ≠ []) :
    layout.step style token rest = (layout.past style token rest).recast
      (trimEnd layout.text ++ layout.gapBefore style token ++ trimEnd (layout.written style token))
      layout.cursor (some token) := by
  have cursor : (layout.step style token rest).cursor = layout.cursor := layout.cursor_place rest notPlaceholder
  have text : (layout.step style token rest).text = _ := layout.text_place rest visible notBlank
  have output : (layout.step style token rest).output =
      (layout.tailAfter style token rest).reverse ++
        (trimEnd layout.text ++ layout.gapBefore style token ++ trimEnd (layout.written style token)).reverse := by
    rw [← List.reverse_append, ← List.reverse_inj, List.reverse_reverse]
    simpa [Layout.text] using text
  simp only [Layout.past, if_neg notPlaceholder, Layout.recast, ← output, ← cursor]
  rfl

/-- What is shown for a token, `index` placeholders being passed before. -/
def Layout.shown (layout : Layout) (style : Style) (params : Params) (index : Nat) (token : Token) : List Char :=
  if token.kind = .placeholder then params.textAt index token else trimEnd (layout.written style token)

section Step

variable {front : List Char} (layout : Layout) {params : Params} {index cursor : Nat}

theorem Layout.solid_shown (absent : style.params = .absent) (visible : token.Shows)
    (notBlank : token.kind ≠ .blank) (solid : token.kind = .placeholder → Solid (params.textAt index token)) :
    Solid (layout.shown style params index token) := by
  unfold Layout.shown
  split
  · rename_i kind
    exact solid kind
  · obtain ⟨someValue, visible⟩ := visible notBlank
    obtain ⟨someText, start⟩ := layout.written_visible absent someValue visible
    exact ⟨someText, start, trimEnd_trimEnd _⟩

/-- A token that shows is placed behind the text before it, and what follows is placed behind the token. -/
theorem Layout.step_cut (absent : style.params = .absent) (visible : token.Shows) (notBlank : token.kind ≠ .blank)
    (reached : params.Reached cursor index) (firm : trimEnd front = front) (rest : List Token) :
    ∃ next, params.Reached next (countPlaceholder index token) ∧
      (layout.recast front cursor layout.previous).step (style.resolving params) token rest =
        (layout.past style token rest).recast
          (front ++ (trimEnd layout.text ++ layout.gapBefore style token ++ layout.shown style params index token))
          next (some token) := by
  by_cases kind : token.kind = .placeholder
  · obtain ⟨resolved, passed⟩ := reached.resolve token
    have before : trimEnd layout.text ++ layout.gapBefore style token = layout.text := by
      simp only [Layout.gapBefore, kind]
      exact layout.text_eq_append_tail.symm
    refine ⟨(params.resolve cursor token).2, by rwa [countPlaceholder, if_pos kind], ?_⟩
    rw [before, Layout.shown, if_pos kind, ← resolved]
    simp [Layout.step, Layout.place, kind, Layout.placePlaceholder, Layout.past, Layout.recast, Layout.writeSpaced,
      Layout.write, Layout.text, Style.resolving]
  · obtain ⟨someValue, visible⟩ := visible notBlank
    have written := (layout.written_visible absent someValue visible).1
    refine ⟨cursor, by rwa [countPlaceholder, if_neg kind], ?_⟩
    rw [layout.step_recast style params token firm kind fun _ => ⟨rfl, rfl⟩,
      layout.step_eq_recast_past rest kind notBlank written, Layout.recast_recast, Layout.shown, if_neg kind]

end Step

theorem Params.fill_cons (params : Params) (index : Nat) (piece : Piece) (later : List Piece) :
    Piece.join (params.fill index (piece :: later)) =
      piece.gap ++ (if piece.token.kind = .placeholder then params.textAt index piece.token else piece.text) ++
        Piece.join (params.fill (countPlaceholder index piece.token) later) := by
  rw [Params.fill, Piece.join_cons]

/-- A layout with solid texts for its placeholders is what it is cut into, filled with these texts. -/
theorem Layout.text_run_cut {params : Params} {index cursor : Nat} {front : List Char} {tokens : List Token}
    (absent : style.params = .absent) (shows : ∀ token ∈ tokens, token.Shows)
    (fits : params.Fits index (visibleTokens tokens)) (reached : params.Reached cursor index)
    (firm : trimEnd front = front) (layout : Layout) :
    (Layout.run (style.resolving params) (layout.recast front cursor layout.previous) tokens).text =
      front ++ (Piece.join (params.fill index (layout.cut style tokens).1) ++ (layout.cut style tokens).2) := by
  induction tokens generalizing layout index cursor front with
  | nil => simp [Layout.run, Layout.cut, Params.fill, Piece.join]
  | cons token rest ih =>
    have later : ∀ token ∈ rest, token.Shows := fun other member => shows other (List.mem_cons_of_mem _ member)
    rw [Layout.run]
    by_cases blank : token.kind = .blank
    · rw [visibleTokens_cons_blank blank] at fits
      rw [layout.step_recast style params token firm (by simp [blank]) fun _ => ⟨rfl, rfl⟩, Layout.cut,
        if_pos blank]
      exact ih later fits reached firm (layout.step style token rest)
    rw [visibleTokens_cons_visible blank] at fits
    obtain ⟨solid, fits⟩ := fits
    have visible := shows token List.mem_cons_self
    have shown := layout.solid_shown absent visible blank solid
    obtain ⟨next, passed, step⟩ := layout.step_cut absent visible blank reached firm rest
    have ground : trimEnd (front ++ (trimEnd layout.text ++ layout.gapBefore style token ++
        layout.shown style params index token)) =
        front ++ (trimEnd layout.text ++ layout.gapBefore style token ++
          layout.shown style params index token) := by
      rw [← List.append_assoc]
      exact trimEnd_append_of_visible _ shown.firm shown.shows
    rw [step, Layout.cut, if_neg blank, Params.fill_cons]
    refine (ih later fits passed ground (layout.past style token rest)).trans ?_
    simp only [List.append_assoc]
    rfl

/-- What holds of any piece for one of the tokens holds of all pieces that a layout is cut into. -/
theorem Layout.forall_cut {holds : Piece → Prop} (layout : Layout) (tokens : List Token)
    (atPiece : ∀ (layout : Layout) (token : Token) (gap : List Char), token ∈ tokens → token.kind ≠ .blank →
      holds { layout.piece style token with gap := gap }) :
    ∀ piece ∈ (layout.cut style tokens).1, holds piece := by
  induction tokens generalizing layout with
  | nil => simp [Layout.cut]
  | cons token rest ih =>
    have later := fun layout => ih layout fun layout other gap member =>
      atPiece layout other gap (List.mem_cons_of_mem _ member)
    rw [Layout.cut]
    split
    · exact later _
    · rename_i notBlank
      intro piece member
      rcases List.mem_cons.mp member with rfl | member
      · exact atPiece layout token _ List.mem_cons_self notBlank
      · exact later _ piece member

theorem Layout.cut_token (layout : Layout) (tokens : List Token) :
    (layout.cut style tokens).1.map Piece.token = visibleTokens tokens := by
  induction tokens generalizing layout with
  | nil => rfl
  | cons token rest ih =>
    rw [Layout.cut]
    split
    · rename_i blank
      rw [visibleTokens_cons_blank blank, ih]
    · rename_i notBlank
      rw [visibleTokens_cons_visible notBlank, List.map_cons, ih]
      rfl

/-- Blanks by themselves leave no text. -/
theorem Layout.cut_ending (layout : Layout) {tokens : List Token} (none : (layout.cut style tokens).1 = []) :
    (layout.cut style tokens).2 = layout.text := by
  induction tokens generalizing layout with
  | nil => rfl
  | cons token rest ih =>
    rw [Layout.cut] at none ⊢
    split at none
    · rename_i blank
      rw [if_pos blank, ih _ none, (layout.step_blank blank).1]
    · cases none

theorem Params.solid_fill {params : Params} {index : Nat} {pieces : List Piece}
    (fits : params.Fits index (pieces.map Piece.token))
    (others : ∀ piece ∈ pieces, piece.token.kind ≠ .placeholder → Solid piece.text) :
    ∀ piece ∈ params.fill index pieces, Solid piece.text := by
  induction pieces generalizing index with
  | nil => simp [Params.fill]
  | cons piece later ih =>
    obtain ⟨first, fits⟩ := fits
    intro filled member
    rcases List.mem_cons.mp member with rfl | member
    · change Solid (if piece.token.kind = .placeholder then params.textAt index piece.token else piece.text)
      split
      · rename_i kind
        exact first kind
      · rename_i kind
        exact others piece List.mem_cons_self kind
    · exact ih fits (fun other within => others other (List.mem_cons_of_mem _ within)) filled member

/-- Pieces without the blanks before the first one. -/
def Piece.flush : List Piece → List Piece
  | [] => []
  | piece :: later => { piece with gap := trimStart piece.gap } :: later

theorem Params.fill_flush (params : Params) (index : Nat) (pieces : List Piece) :
    params.fill index (Piece.flush pieces) = Piece.flush (params.fill index pieces) := by
  cases pieces <;> rfl

theorem Piece.join_firm {pieces : List Piece} (solid : ∀ piece ∈ pieces, Solid piece.text) :
    trimEnd (Piece.join pieces) = Piece.join pieces := by
  induction pieces with
  | nil => rfl
  | cons piece later ih =>
    have first := solid piece List.mem_cons_self
    have firm := ih fun other member => solid other (List.mem_cons_of_mem _ member)
    rw [Piece.join_cons]
    exact (trimEnd_append_of_trimmed (trimEnd_append_of_visible _ first.firm first.shows) _).trans (by rw [firm])

/-- Trimming cuts blanks off before the first piece and after the last one. -/
theorem Piece.trim_join {pieces : List Piece} (some : pieces ≠ []) (solid : ∀ piece ∈ pieces, Solid piece.text)
    (ending : List Char) :
    trim (Piece.join pieces ++ ending) = Piece.join (Piece.flush pieces) ++ trimEnd ending := by
  obtain ⟨piece, later, rfl⟩ := List.exists_cons_of_ne_nil some
  have first := solid piece List.mem_cons_self
  have begun : trimStart (Piece.join (piece :: later) ++ ending) =
      Piece.join (Piece.flush (piece :: later)) ++ ending := by
    obtain ⟨c, text, split⟩ := List.exists_cons_of_ne_nil first.shows
    have visible : isBlank c = false := by simpa [split] using first.start
    simp only [Piece.flush, Piece.join_cons, split, List.append_assoc, List.cons_append]
    exact trimStart_append_cons _ visible _
  have flushed : ∀ other ∈ Piece.flush (piece :: later), Solid other.text := by
    intro other member
    rcases List.mem_cons.mp member with rfl | member
    · exact first
    · exact solid other (List.mem_cons_of_mem _ member)
  rw [trim, begun, trimEnd_append_of_trimmed (Piece.join_firm flushed)]

/-- The texts for placeholders have no part in the layout of a query, as long as they are solid: there are
gaps and texts, one for each visible token, that do not depend on them, and the layout is made of these with
the texts for placeholders in their place. -/
theorem Dialect.format_fill (dialect : Dialect) (unit query : List Char) :
    ∃ (pieces : List Piece) (ending : List Char), pieces.map Piece.token = dialect.tokens query ∧
      (∀ piece ∈ pieces, piece.token.kind ≠ .placeholder →
        Rendered (dialect.style unit .absent) 0 piece.token piece.text) ∧
      ∀ params : Params, params.Fits 0 (dialect.tokens query) →
        dialect.format unit params query = Piece.join (params.fill 0 pieces) ++ ending := by
  let style := dialect.style unit .absent
  let tokens := tokenize dialect.rules query
  let cut := ({} : Layout).cut style tokens
  have absent : style.params = .absent := rfl
  have shows := dialect.shows_tokenize query
  have sound : ∀ piece ∈ cut.1, piece.token.kind ≠ .placeholder →
      Rendered style 0 piece.token piece.text ∧ Solid piece.text := by
    refine Layout.forall_cut {} tokens fun layout token gap member notBlank _ => ?_
    obtain ⟨someValue, visible⟩ := shows token member notBlank
    obtain ⟨someText, start⟩ := layout.written_visible absent someValue visible
    exact ⟨layout.rendered_piece absent token, someText, start, trimEnd_trimEnd _⟩
  have seen : cut.1.map Piece.token = dialect.tokens query := ({} : Layout).cut_token tokens
  refine ⟨Piece.flush cut.1, trimEnd cut.2, ?_, ?_, fun params fits => ?_⟩
  · rw [← seen]
    cases cut.1 <;> rfl
  · intro piece member other
    cases pieces : cut.1 with
    | nil => simp [pieces, Piece.flush] at member
    | cons first later =>
      rw [pieces] at member sound
      rcases List.mem_cons.mp member with rfl | member
      · exact (sound first List.mem_cons_self other).1
      · exact (sound piece (List.mem_cons_of_mem _ member) other).1
  · have reached : params.Reached 0 0 := (Layout.shows_start (dialect.style unit params)).reached
    have firm : trimEnd ([] : List Char) = [] := rfl
    have text : (Layout.ofTokens (dialect.style unit params) tokens).text =
        Piece.join (params.fill 0 cut.1) ++ cut.2 :=
      Layout.text_run_cut absent shows fits reached firm {}
    rw [← seen] at fits
    have solid := Params.solid_fill fits fun piece member other => (sound piece member other).2
    change trim (Layout.ofTokens (dialect.style unit params) tokens).text = _
    rw [text, params.fill_flush]
    by_cases none : cut.1 = []
    · have ending : cut.2 = [] := ({} : Layout).cut_ending none
      rw [none, ending]
      rfl
    · refine Piece.trim_join ?_ solid cut.2
      intro empty
      cases pieces : cut.1 with
      | nil => exact none pieces
      | cons => simp [pieces, Params.fill] at empty

/-- Values in sequence and one with a name fill the same pieces. A placeholder that has no value stays as it is. -/
theorem Dialect.format_fill_positional :
    (Params.positional [['7'], "a\n b".toList]).Fits 0 (Dialect.n1ql.tokens "($1\n$2 )".toList) ∧
      ∃ (pieces : List Piece) (ending : List Char),
        Dialect.n1ql.format ['x'] (.positional [['7'], "a\n b".toList]) "($1\n$2 )".toList =
            Piece.join ((Params.positional [['7'], "a\n b".toList]).fill 0 pieces) ++ ending ∧
          Dialect.n1ql.format ['x'] (.named [(['1'], ['8'])]) "($1\n$2 )".toList =
            Piece.join ((Params.named [(['1'], ['8'])]).fill 0 pieces) ++ ending := by
  have fits : (Params.positional [['7'], "a\n b".toList]).Fits 0 (Dialect.n1ql.tokens "($1\n$2 )".toList) := by
    decide +kernel
  have alsoFits : (Params.named [(['1'], ['8'])]).Fits 0 (Dialect.n1ql.tokens "($1\n$2 )".toList) := by
    decide +kernel
  obtain ⟨pieces, ending, _, _, filled⟩ := Dialect.format_fill .n1ql ['x'] "($1\n$2 )".toList
  exact ⟨fits, pieces, ending, filled _ fits, filled _ alsoFits⟩

end QueryLayout
