import QueryLayout.Proofs.Echo

namespace QueryLayout

/-- The visible tokens of a text. -/
def Dialect.tokens (dialect : Dialect) (text : List Char) : List Token :=
  visibleTokens (tokenize dialect.rules text)

/-- The pieces that the layout of a query is made of. No texts are put in the place of placeholders. -/
def Dialect.pieces (dialect : Dialect) (unit query : List Char) : List Piece :=
  Layout.pieces (dialect.style unit .absent) {} (tokenize dialect.rules query)

/-- Whether the layout of a query is read as the tokens that it shows: none is glued to its neighbour or
cut in two, and none changes its kind. -/
def Dialect.KeepsTokens (dialect : Dialect) (unit query : List Char) : Prop :=
  List.Forall₂ Reproduces (dialect.pieces unit query) (dialect.tokens (dialect.format unit .absent query))

variable {dialect : Dialect} {unit query : List Char}

theorem Dialect.shows_tokenize (dialect : Dialect) (query : List Char) :
    ∀ token ∈ tokenize dialect.rules query, token.Shows := by
  intro token member
  obtain ⟨someRaw, _, _, _, reads⟩ := Dialect.reads_of_mem member
  exact reads.value_visible someRaw

theorem Dialect.pieces_token (dialect : Dialect) (unit query : List Char) :
    (dialect.pieces unit query).map Piece.token = dialect.tokens query :=
  Layout.pieces_token {} (tokenize dialect.rules query)

section Query

variable (dialect) (blankUnit : IsGap unit) (query : List Char)

include blankUnit

theorem Dialect.format_eq_output :
    dialect.format unit .absent query = Piece.output (dialect.pieces unit query) :=
  layoutTokens_eq_output rfl blankUnit (dialect.shows_tokenize query)

theorem Dialect.isChain_pieces : (dialect.pieces unit query).IsChain Joined :=
  Layout.isChain_pieces_start rfl blankUnit (dialect.shows_tokenize query) {}

theorem Dialect.distinct_pieces : ∀ piece ∈ dialect.pieces unit query, piece.Distinct := by
  refine Layout.forall_pieces {} _ fun layout token member notBlank => ?_
  obtain ⟨someValue, visible⟩ := dialect.shows_tokenize query token member notBlank
  exact ⟨Layout.isGap_gapBefore blankUnit, layout.written_visible rfl someValue visible⟩

/-- A query is laid out in its pieces from its first visible token on. -/
theorem Dialect.laid_pieces :
    ∃ gap text, query = gap ++ text ∧ IsGap gap ∧
      Laid dialect (dialect.style unit .absent) (across gap none) text (dialect.pieces unit query) := by
  have skims := (dialect.lexicon.reading_tokenize query).skims
  refine skims.laid (dialect.pieces_token unit query) ?_
  refine Layout.forall_pieces {} _ fun layout token _ _ => ?_
  exact ⟨layout.rendered_piece rfl token, Layout.isGap_gapBefore blankUnit⟩

theorem Dialect.repeats_of_steady (steady : dialect.Steady (dialect.pieces unit query)) :
    List.Forall₂ Repeats (dialect.pieces unit query) (dialect.tokens (dialect.format unit .absent query)) := by
  obtain ⟨gap, text, _, isGap, laid⟩ := dialect.laid_pieces blankUnit query
  have ready : ∀ piece ∈ (dialect.pieces unit query).head?, Ready (across gap none) (across [] none) piece := by
    intro piece _
    refine ⟨fun _ _ => rfl, fun _ period => ?_, fun _ _ => rfl⟩
    cases (followsPeriod_across isGap period).2
  obtain ⟨tokens, skims, reproduced⟩ :=
    laid.reproduced rfl blankUnit (dialect.isChain_pieces blankUnit query) steady isGap_nil ready
  have read : dialect.tokens (Piece.output (dialect.pieces unit query)) = tokens :=
    Lexicon.visibleTokens_eq_iff.mpr skims
  rw [dialect.format_eq_output blankUnit query, read]
  exact reproduced

theorem Dialect.keepsTokens_of_steady (steady : dialect.Steady (dialect.pieces unit query)) :
    dialect.KeepsTokens unit query :=
  (dialect.repeats_of_steady blankUnit query steady).imp fun _ _ repeats => repeats.1

theorem Dialect.steady_of_keepsTokens (keeps : dialect.KeepsTokens unit query) :
    dialect.Steady (dialect.pieces unit query) := by
  have skims := (dialect.lexicon.reading_tokenize (dialect.format unit .absent query)).skims
  rw [dialect.format_eq_output blankUnit query] at skims
  rw [Dialect.KeepsTokens, dialect.format_eq_output blankUnit query] at keeps
  have distinct := dialect.distinct_pieces blankUnit query
  have echoed : Echoed dialect (across [] none) (dialect.pieces unit query) :=
    Skims.echoed isGap_nil skims keeps distinct
  exact echoed.steady (dialect.isChain_pieces blankUnit query) distinct fun _ _ _ => rfl

end Query

theorem Dialect.KeepsTokens.kinds (keeps : dialect.KeepsTokens unit query) :
    (dialect.tokens (dialect.format unit .absent query)).map Token.kind =
      (dialect.tokens query).map Token.kind := by
  rw [← dialect.pieces_token unit query, List.map_map]
  unfold Dialect.KeepsTokens at keeps
  generalize dialect.pieces unit query = pieces at keeps
  generalize dialect.tokens (dialect.format unit .absent query) = tokens at keeps
  induction keeps with
  | nil => rfl
  | cons same _ ih => rw [List.map_cons, List.map_cons, ih, same.1, Function.comp]

/-- The layout of a query is read as the tokens that it shows exactly if its pieces are steady, and then
the kinds of the visible tokens are those of the query. -/
theorem Dialect.keepsTokens_iff_steady (dialect : Dialect) {unit : List Char} (blankUnit : IsGap unit)
    (query : List Char) :
    (dialect.KeepsTokens unit query ↔ dialect.Steady (dialect.pieces unit query)) ∧
      (dialect.Steady (dialect.pieces unit query) →
        (dialect.tokens (dialect.format unit .absent query)).map Token.kind =
          (dialect.tokens query).map Token.kind) :=
  ⟨⟨dialect.steady_of_keepsTokens blankUnit query, dialect.keepsTokens_of_steady blankUnit query⟩,
    fun steady => (dialect.keepsTokens_of_steady blankUnit query steady).kinds⟩

/-- A number may have a blank after its sign, and is read again with it. -/
theorem Dialect.keepsTokens_iff_steady_minus :
    IsGap ['\t'] ∧ Dialect.standard.KeepsTokens ['\t'] "( - 1)".toList ∧
      (Dialect.standard.tokens (Dialect.standard.format ['\t'] .absent "( - 1)".toList)).map Token.kind =
        (Dialect.standard.tokens "( - 1)".toList).map Token.kind := by
  have blankUnit : IsGap ['\t'] := isGap_cons.mpr ⟨by decide, isGap_nil⟩
  have pieces : Dialect.standard.pieces ['\t'] "( - 1)".toList =
      [⟨⟨.opening, ['('], ['('], []⟩, [], ['(']⟩,
        ⟨⟨.number, ['-', ' ', '1'], ['-', ' ', '1'], []⟩, [], ['-', ' ', '1']⟩,
        ⟨⟨.closing, [')'], [')'], []⟩, [], [')']⟩] := by
    decide +kernel
  have steady : Dialect.standard.Steady (Dialect.standard.pieces ['\t'] "( - 1)".toList) := by
    rw [pieces]
    refine ⟨by decide +kernel, ?_, ?_⟩
    · exact .cons_cons (fun _ => by decide +kernel) (.cons_cons (fun _ => by decide +kernel) (.singleton _))
    · intro first second third within whole
      obtain ⟨rfl, _⟩ := List.cons.inj (within.eq_of_length rfl)
      cases whole
  obtain ⟨exact, kinds⟩ := Dialect.keepsTokens_iff_steady .standard blankUnit "( - 1)".toList
  exact ⟨blankUnit, exact.mpr steady, kinds steady⟩

/-- A group on one line may lose its words: `CASExEND` is a name. -/
theorem Dialect.not_keepsTokens_case :
    ¬ Dialect.standard.KeepsTokens [' ', ' '] "case x end".toList ∧
      (Dialect.standard.tokens (Dialect.standard.format [' ', ' '] .absent "case x end".toList)).map Token.kind ≠
        (Dialect.standard.tokens "case x end".toList).map Token.kind := by
  have differ :
      (Dialect.standard.tokens (Dialect.standard.format [' ', ' '] .absent "case x end".toList)).map Token.kind ≠
        (Dialect.standard.tokens "case x end".toList).map Token.kind := by
    simp only [Dialect.tokens, Dialect.format, layoutQuery, ← Dialect.byteRules_eq]
    decide +kernel
  exact ⟨fun keeps => differ keeps.kinds, differ⟩

end QueryLayout
