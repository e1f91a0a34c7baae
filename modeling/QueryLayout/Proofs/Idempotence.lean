import QueryLayout.Proofs.Agreement

namespace QueryLayout

theorem squeezeAfter_squeezeAfter (afterBlank : Bool) (text : List Char) :
    squeezeAfter afterBlank (squeezeAfter afterBlank text) = squeezeAfter afterBlank text := by
  induction text generalizing afterBlank with
  | nil => rfl
  | cons c text ih =>
    have space : isBlank ' ' := by decide
    by_cases blank : isBlank c
    · cases afterBlank with
      | true => simpa [squeezeAfter, blank] using ih true
      | false => simpa [squeezeAfter, blank, space] using ih true
    · simpa [squeezeAfter, blank] using ih false

/-- A reserved word in upper case stays as it is. -/
theorem Raised.upperCase_shown {hyphens : Bool} {phrase : Phrase} {raw shown : List Char}
    (raised : Raised phrase raw shown) (entry : phrase.isEntry hyphens) : upperCase shown = shown := by
  have ofPart : ∀ part spelled, isEntryPart hyphens part → Spells part spelled →
      upperCase (spelled.map raiseCase) = spelled.map raiseCase := by
    intro part spelled isPart spells
    rw [upperCase_spelled isPart (raiseCase_spelled isPart spells).2, List.map_map]
    refine List.map_congr_left fun c member => ?_
    exact (isEntryPart_chars isPart spells c member).1.raiseCase_class.2.1
  induction raised with
  | last spells => exact ofPart _ _ (Phrase.isEntry_singleton entry) spells
  | more spells _ _ isSpace _ _ ih =>
    obtain ⟨first, tail⟩ := Phrase.isEntry_tail entry
    rw [upperCase_append, upperCase_append, upperCase_gap isSpace, ofPart _ _ first spells, ih tail]

variable {dialect : Dialect} {before : Option Token} {token again : Token} {text : List Char}

/-- A string that another token follows is closed, and so no token but the last one may end in blanks. -/
theorem Skims.whole {tokens : List Token} (skims : Skims dialect.rules before text tokens)
    (flat : ∀ token ∈ tokens, token.isFlat) :
    tokens.IsChain fun token _ => token.kind.isPlain → trimEnd token.value = token.value := by
  induction skims with
  | done => exact .nil
  | @next before gap token rest tokens isGap someRaw notBlank read skims ih =>
    have later := ih fun token member => flat token (List.mem_cons_of_mem _ member)
    cases skims with
    | done => exact .singleton _
    | @next _ space next after _ _ someNext =>
      refine .cons_cons (fun plain => ?_) later
      obtain ⟨rule, reads⟩ := Dialect.readFirst?_eq_some_iff.mp read
      rcases Token.sort_of_isFlat (flat token List.mem_cons_self) notBlank with kind | kind
      · exact reads.value_trimmed someRaw kind
      · have isLiteral : token.kind = .literal := by
          simp only [List.mem_cons, List.not_mem_nil, or_false] at kind
          rcases kind with literal | other | other | other | other
          · exact literal
          all_goals
            rw [other] at plain
            cases plain
        exact reads.literal_trimmed someRaw isLiteral (by simp [someNext])

section Again

variable {piece : Piece} {rest : List Char} {rule : Rule} {style : Style}
  (reads : ReadBy dialect before (piece.token.raw ++ rest) piece.token rule)
  (someRaw : piece.token.raw ≠ []) (flat : piece.token.isFlat)
  (rendered : Rendered style 0 piece.token piece.text)
  (value : again.value = if again.kind.isUpperCased then upperCase again.raw else again.raw)
  (repeats : Repeats piece again)

include reads someRaw rendered value repeats

theorem Repeats.word (kind : piece.token.kind = .clause ∨ piece.token.kind = .continuation) :
    squeeze again.value = squeeze piece.token.value := by
  have upper : piece.token.kind.isUpperCased ∧ again.kind ≠ .lineComment := by
    rw [repeats.1.1]
    rcases kind with kind | kind <;> rw [kind] <;> simp [Kind.isUpperCased]
  have text : piece.text = trimEnd (squeeze piece.token.value) := by
    unfold Rendered at rendered
    rcases kind with kind | kind <;> rw [kind] at rendered <;> exact rendered
  have yields := reads.yields (by rcases kind with kind | kind <;> simp [kind])
  obtain ⟨word, entry, raised⟩ := reads.raised someRaw yields
  have squeezed := raised.squeeze entry
  rw [(squeezed.occurs entry).2.trimmed entry] at text
  rw [value, repeats.1.1, if_pos upper.1, repeats.2 upper.2, text, squeezed.upperCase_shown entry]
  exact squeezeAfter_squeezeAfter false _

include flat

theorem Repeats.plain (kind : piece.token.kind.isPlain ∨ piece.token.kind = .blockComment) :
    again.value = trimEnd piece.token.value := by
  have sameKind := repeats.1.1
  have raw := repeats.2
  unfold Rendered at rendered
  rw [sameKind] at value raw
  cases atKind : piece.token.kind with
  | word | literal | number | operator =>
    rw [atKind] at rendered value raw
    rw [show again.value = again.raw from value, raw (by simp)]
    exact rendered
  | blockComment =>
    rw [atKind] at rendered value raw
    obtain ⟨depth, rendered⟩ := rendered
    rw [reindent_eq_self ((Token.isFlat_iff.mp flat).2.2 atKind)] at rendered
    rw [show again.value = again.raw from value, raw (by simp), rendered]
  | reserved =>
    have trimmed := reads.value_trimmed someRaw (by simp [atKind])
    obtain ⟨word, entry, raised⟩ := reads.raised someRaw (reads.yields (by simp [atKind]))
    rw [atKind] at rendered value raw
    rw [show again.value = upperCase again.raw from value, raw (by simp), rendered, trimmed,
      raised.upperCase_shown entry]
  | _ => simp [atKind, Kind.isPlain] at kind

/-- What a piece is read as again retells its token. -/
theorem Repeats.retold (notBlank : piece.token.kind ≠ .blank) : Retold piece.token again where
  kind := repeats.1.1
  plain := Repeats.plain reads someRaw flat rendered value repeats
  marks plain mark isMarked := by
    have same := Repeats.plain reads someRaw flat rendered value repeats (Or.inl plain)
    rcases Token.sort_of_isFlat flat notBlank with kind | kind
    · rw [same, reads.value_trimmed someRaw kind]
    · have unmarked := reads.value_unmarked someRaw kind
      obtain ⟨_, visible⟩ := reads.value_visible someRaw notBlank
      have also : begins isMark again.value = false := by rw [same, begins_trimEnd visible, unmarked]
      have every : ∀ mark ∈ [[','], [':'], ['.'], [';']], begins isMark mark := by decide
      have marked := every mark isMarked
      refine ⟨fun atMark => ?_, fun atMark => ?_⟩
      · rw [atMark, marked] at also
        cases also
      · rw [atMark, marked] at unmarked
        cases unmarked
  word := Repeats.word reads someRaw rendered value repeats
  lineComment comment := by
    have sameKind := repeats.1.1
    unfold Rendered at rendered
    rw [comment] at rendered sameKind
    rw [sameKind] at value
    rw [show again.value = again.raw from value, repeats.1.2]
    exact rendered

end Again

section Query

variable {unit query : List Char} (blankUnit : IsGap unit)
  (flat : ∀ token ∈ tokenize dialect.rules query, token.isFlat)

include blankUnit flat

/-- The layout of a query without brackets is read as its tokens, retold one by one. -/
theorem Dialect.retold_of_flat :
    List.Forall₂ Retold (dialect.tokens query) (dialect.tokens (dialect.format unit .absent query)) := by
  have sound : ∀ piece ∈ dialect.pieces unit query, Rendered (dialect.style unit .absent) 0 piece.token piece.text ∧
      piece.token.isFlat ∧ piece.token.kind ≠ .blank ∧
      piece.token.raw ≠ [] ∧ ∃ before rest rule,
        ReadBy dialect before (piece.token.raw ++ rest) piece.token rule := by
    refine Layout.forall_pieces {} _ fun layout token member notBlank => ?_
    exact ⟨layout.rendered_piece rfl token, flat token member, notBlank, Dialect.reads_of_mem member⟩
  have valued : ∀ again ∈ dialect.tokens (dialect.format unit .absent query),
      again.value = if again.kind.isUpperCased then upperCase again.raw else again.raw := by
    intro again member
    obtain ⟨_, _, _, _, reads⟩ := Dialect.reads_of_mem (List.mem_filter.mp member).1
    exact Rule.read?_value reads.read
  have repeats := dialect.repeats_of_steady blankUnit query (Dialect.steady_of_flat blankUnit flat)
  rw [← dialect.pieces_token unit query, List.forall₂_map_left_iff]
  refine List.forall₂_iff_zip.mpr ⟨repeats.length_eq, fun {piece again} member => ?_⟩
  obtain ⟨inPieces, inTokens⟩ := List.of_mem_zip member
  obtain ⟨rendered, isFlat, notBlank, someRaw, _, _, _, reads⟩ := sound piece inPieces
  exact Repeats.retold reads someRaw isFlat rendered (valued again inTokens)
    ((List.forall₂_iff_zip.mp repeats).2 member) notBlank

end Query

/-- A query without brackets is laid out once and for all: laying its layout out again changes nothing. -/
theorem Dialect.format_format_of_flat (dialect : Dialect) {unit query : List Char} (blankUnit : IsGap unit)
    (flat : ∀ token ∈ tokenize dialect.rules query, token.isFlat) :
    dialect.format unit .absent (dialect.format unit .absent query) = dialect.format unit .absent query := by
  have shows : ∀ text, ∀ token ∈ dialect.tokens text, token.Shows := fun text token member =>
    dialect.shows_tokenize text token (List.mem_filter.mp member).1
  have seen : ∀ token ∈ dialect.tokens query, token.isFlat :=
    fun token member => flat token (List.mem_filter.mp member).1
  have whole := Skims.whole (dialect.lexicon.reading_tokenize query).skims seen
  have same : List.Forall₂ Piece.Same (dialect.pieces unit query)
      (dialect.pieces unit (dialect.format unit .absent query)) :=
    Layout.Agrees.pieces rfl blankUnit (Dialect.retold_of_flat blankUnit flat) seen (shows query) (shows _) whole
      ⟨rfl, rfl, rfl, rfl, rfl⟩ rfl rfl
  rw [dialect.format_eq_output blankUnit (dialect.format unit .absent query), Piece.output_congr same,
    ← dialect.format_eq_output blankUnit query]

/-- Comments, a signed number and a literal that does not end are laid out once and for all. -/
theorem Dialect.format_format_of_flat_unclosed :
    (∀ token ∈ tokenize Dialect.standard.rules "--b  \n- 1/*c*/'d  ".toList, token.isFlat) ∧
      Dialect.standard.format ['\t'] .absent
          (Dialect.standard.format ['\t'] .absent "--b  \n- 1/*c*/'d  ".toList) =
        Dialect.standard.format ['\t'] .absent "--b  \n- 1/*c*/'d  ".toList := by
  have blankUnit : IsGap ['\t'] := isGap_cons.mpr ⟨by decide, isGap_nil⟩
  have flat : ∀ token ∈ tokenize Dialect.standard.rules "--b  \n- 1/*c*/'d  ".toList, token.isFlat := by
    decide +kernel
  exact ⟨flat, Dialect.format_format_of_flat .standard blankUnit flat⟩

end QueryLayout
