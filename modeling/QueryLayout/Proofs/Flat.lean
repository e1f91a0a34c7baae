import QueryLayout.Proofs.Seams
import QueryLayout.Proofs.Stability

namespace QueryLayout

/-- A token of a query without brackets and placeholders. A colon or a period by itself and a comment
over several lines do not occur in such a query either. -/
def Token.isFlat (token : Token) : Bool :=
  !([Kind.opening, .closing, .placeholder].contains token.kind || [[':'], ['.']].contains token.value ||
    (token.kind == .blockComment && token.value.contains '\n'))

/-- The characters that stand close to the token before them. -/
def isMark (c : Char) : Bool :=
  [',', ':', '.', ';'].contains c

theorem isMark_eq_false_of_isWordChar {c : Char} (word : isWordChar c) : isMark c = false := by
  have every : ∀ c ∈ [',', ':', '.', ';'], isWordChar c = false := by decide
  by_contra mark
  have nonword := every c (by simpa only [isMark, Bool.not_eq_false, List.contains_iff_mem] using mark)
  rw [word] at nonword
  cases nonword

variable {dialect : Dialect} {before : Option Token} {token : Token} {rest : List Char} {rule : Rule}

section Readers

variable (someRaw : token.raw ≠ []) (reads : ReadBy dialect before (token.raw ++ rest) token rule)

include someRaw reads

/-- Only strings and comments may end in blanks. -/
theorem ReadBy.value_trimmed (kind : token.kind ∈ [.word, .number, .operator, .reserved]) :
    trimEnd token.value = token.value := by
  cases sort : token.kind with
  | word =>
    rw [reads.value_raw (sort ▸ rfl)]
    cases reads.ofKind sort
    exact trimEnd_of_forall fun c member => dialect.isBlank_of_isNameChar ((reads.word someRaw).1 c member)
  | number =>
    rw [reads.value_raw (sort ▸ rfl)]
    cases reads.ofKind sort
    obtain ⟨_, numeral, _⟩ := reads.number someRaw
    obtain ⟨front, c, raw, letter⟩ := numeral.final
    exact trimEnd_of_getLast? (by simp [raw]) (isBlank_eq_false_of_isWordChar letter)
  | operator =>
    rw [reads.value_raw (sort ▸ rfl)]
    cases reads.ofKind sort
    exact trimEnd_of_forall fun c member => (reads.operator_chars someRaw c member).1
  | reserved =>
    obtain ⟨word, entry, raised⟩ := reads.raised someRaw (reads.yields (by simp [sort]))
    exact (raised.occurs entry).2.trimmed entry
  | _ => simp [sort] at kind

/-- A string that ends before its text does is closed. -/
theorem ReadBy.literal_trimmed (isLiteral : token.kind = .literal) (more : rest ≠ []) :
    trimEnd token.value = token.value := by
  rw [reads.value_raw (isLiteral ▸ rfl)]
  cases reads.ofKind isLiteral
  exact (literalExtent?_keep (reads.literal someRaw) (fun _ => rfl) fun _ _ => rfl).2 more

/-- All other tokens without brackets begin with something else than a mark. -/
theorem ReadBy.value_unmarked
    (kind : token.kind ∈ [.literal, .lineComment, .blockComment, .clause, .continuation]) :
    begins isMark token.value = false := by
  have opened : rule.isFixed → rule.rank < 4 → begins isMark token.raw = false := by
    intro fixed low
    obtain ⟨opener, opens, later, split⟩ := reads.opener fixed
    have every : ∀ rule ∈ dialect.lexicon.table, rule.rank < 4 → ∀ opener ∈ rule.openers,
        opener ≠ [] ∧ begins isMark opener = false := by
      cases dialect <;> decide
    obtain ⟨someOpener, unmarked⟩ := every rule (dialect.lexicon.rules_sublist.subset reads.member) low opener opens
    rw [← begins_append someRaw rest, ← split, begins_append someOpener]
    exact unmarked
  cases sort : token.kind with
  | literal | lineComment | blockComment =>
    rw [reads.value_raw (sort ▸ rfl)]
    cases reads.ofKind sort
    exact opened rfl (by simp [Rule.rank])
  | clause | continuation =>
    obtain ⟨word, entry, raised⟩ := reads.raised someRaw (reads.yields (by simp [sort]))
    obtain ⟨c, tail, split, letter, _⟩ := (raised.occurs entry).2.first entry
    rw [split]
    exact isMark_eq_false_of_isWordChar letter
  | _ => simp [sort] at kind

end Readers

theorem Token.isFlat_iff :
    token.isFlat ↔ (token.kind ≠ .opening ∧ token.kind ≠ .closing ∧ token.kind ≠ .placeholder) ∧
      (token.value ≠ [':'] ∧ token.value ≠ ['.']) ∧ (token.kind = .blockComment → '\n' ∉ token.value) := by
  simp [Token.isFlat, and_assoc, imp_iff_not_or]

/-- Visible tokens without brackets are of two sorts. -/
theorem Token.sort_of_isFlat (flat : token.isFlat) (notBlank : token.kind ≠ .blank) :
    token.kind ∈ [.word, .number, .operator, .reserved] ∨
      token.kind ∈ [.literal, .lineComment, .blockComment, .clause, .continuation] := by
  obtain ⟨⟨notOpening, notClosing, notPlaceholder⟩, _⟩ := Token.isFlat_iff.mp flat
  cases kind : token.kind <;> simp_all

/-- A reserved word that is shown like a word for a bracket was spelled like it. -/
theorem Raised.stands {hyphens : Bool} {word : Phrase} {raw shown : List Char} (raised : Raised word raw shown)
    (entry : word.isEntry hyphens) (inParts : shown ∈ dialect.bracketParts)
    (ends : begins isWordChar rest = false) : Stands [shown] (raw ++ rest) := by
  refine ⟨raw, rest, rfl, ?_, ends⟩
  cases raised with
  | last spells =>
    refine .last (List.forall₂_map_left_iff.mpr (List.forall₂_same.mpr fun c member => ?_))
    have cased := (isEntryPart_chars (Phrase.isEntry_singleton entry) spells c member).1
    simp [sameFolded, cased.raiseCase_class.2.2.1]
  | @more _ _ _ _ _ space _ _ _ _ _ isSpace someSpace _ =>
    exfalso
    obtain ⟨c, later, rfl⟩ := List.exists_cons_of_ne_nil someSpace
    obtain ⟨_, _, letters⟩ := Dialect.bracketPart_sort inParts
    have every : ∀ c ∈ bracketLetters, isBlank c = false := by decide
    have visible := every c (letters c (by simp))
    rw [(isGap_cons.mp isSpace).1] at visible
    cases visible

section Pieces

variable {style : Style} (absent : style.params = .absent)

include absent

theorem Layout.flat_text (layout : Layout) (reads : ReadBy dialect before (token.raw ++ rest) token rule)
    (someRaw : token.raw ≠ []) (notBlank : token.kind ≠ .blank) (flat : token.isFlat) :
    (layout.piece style token).text ≠ [':'] ∧ (layout.piece style token).text ≠ ['.'] := by
  rcases Token.sort_of_isFlat flat notBlank with plain | other
  · have same : (layout.piece style token).text = token.value := by
      have isPlain : token.kind.isPlain := by
        simp only [List.mem_cons, List.not_mem_nil, or_false] at plain
        rcases plain with kind | kind | kind | kind <;> rw [kind] <;> rfl
      rw [Layout.piece, layout.written_plain isPlain]
      exact reads.value_trimmed someRaw plain
    rw [same]
    exact (Token.isFlat_iff.mp flat).2.1
  · obtain ⟨someValue, visible⟩ := reads.value_visible someRaw notBlank
    have unmarked : begins isMark (layout.piece style token).text = false :=
      ((layout.begins_written absent someValue visible).2 isMark).trans (reads.value_unmarked someRaw other)
    refine ⟨fun colon => ?_, fun period => ?_⟩
    · rw [colon] at unmarked
      cases unmarked
    · rw [period] at unmarked
      cases unmarked

/-- Without placeholders no word is cut off from the one before it, and so the words for brackets are
always read as brackets. -/
theorem Laid.brackets {text : List Char} {pieces : List Piece} (laid : Laid dialect style before text pieces)
    (bare : ∀ piece ∈ pieces, piece.token.kind ≠ .placeholder)
    (start : ∀ piece ∈ pieces.head?, begins isWordChar piece.token.raw → (lastChar before).any isWordChar = false) :
    ∀ piece ∈ pieces, piece.token.kind ∈ [.reserved, .clause, .continuation] →
      piece.text ∉ dialect.bracketParts := by
  induction laid with
  | done => simp
  | @next before first gap text later someRaw notBlank read rendered isGap isSpace laid ih =>
    obtain ⟨rule, reads⟩ := Dialect.readFirst?_eq_some_iff.mp read
    intro piece member
    rcases List.mem_cons.mp member with rfl | member
    · intro kind inParts
      refine reads.not_stands someRaw kind (start piece rfl) inParts ?_
      have upper : piece.token.kind.isUpperCased := by
        simp only [List.mem_cons, List.not_mem_nil, or_false] at kind
        rcases kind with kind | kind | kind <;> rw [kind] <;> rfl
      have displayed := Dialect.displayed read someRaw notBlank absent rendered
      generalize piece.text = shown at displayed inParts
      cases displayed with
      | raised entry raised ends => exact raised.stands entry inParts ends
      | @symbol side _ _ isBracket =>
        rw [isBracket] at kind
        cases side <;> simp [BracketSide.kind] at kind
      | letters plain | sign plain =>
        rw [upper] at plain
        cases plain
      | national isLiteral =>
        rw [isLiteral] at upper
        cases upper
    · refine ih (fun piece member => bare piece (List.mem_cons_of_mem _ member)) ?_ piece member
      intro next atHead letter
      refine lastChar_across isSpace fun tight => ?_
      by_contra last
      obtain ⟨_, split, someNext, _⟩ := laid.head absent atHead
      have ends := reads.word_ends someRaw (bare first List.mem_cons_self) (by simpa [lastChar] using last)
      rw [tight, List.nil_append, split, begins_append someNext, letter] at ends
      cases ends

end Pieces

section Query

variable {unit query : List Char} (blankUnit : IsGap unit)
  (flat : ∀ token ∈ tokenize dialect.rules query, token.isFlat)

include flat

theorem Dialect.flat_pieces : ∀ piece ∈ dialect.pieces unit query,
    piece.token.isFlat ∧ piece.text ≠ [':'] ∧ piece.text ≠ ['.'] := by
  refine Layout.forall_pieces {} _ fun layout token member notBlank => ?_
  obtain ⟨someRaw, _, _, _, reads⟩ := Dialect.reads_of_mem member
  exact ⟨flat token member, layout.flat_text rfl reads someRaw notBlank (flat token member)⟩

include blankUnit

/-- Only a comma follows another token without a gap. -/
theorem Dialect.flat_tight :
    (dialect.pieces unit query).IsChain fun _ second => second.gap = [] → second.text = [','] := by
  refine (dialect.isChain_pieces blankUnit query).imp_of_mem_imp
    fun first second inFirst inSecond joined tight => ?_
  obtain ⟨flatFirst, _, notPeriod⟩ := Dialect.flat_pieces flat first inFirst
  obtain ⟨flatSecond, otherColon, otherPeriod⟩ := Dialect.flat_pieces flat second inSecond
  obtain ⟨⟨notOpening, _⟩, _⟩ := Token.isFlat_iff.mp flatFirst
  obtain ⟨⟨otherOpening, otherClosing, _⟩, _⟩ := Token.isFlat_iff.mp flatSecond
  simpa [notOpening, notPeriod, otherOpening, otherClosing, otherColon, otherPeriod] using joined.tight tight

/-- A query without brackets is laid out in steady pieces. -/
theorem Dialect.steady_of_flat : dialect.Steady (dialect.pieces unit query) where
  brackets := by
    obtain ⟨gap, text, _, isGap, laid⟩ := dialect.laid_pieces blankUnit query
    refine laid.brackets rfl (fun piece member => ?_) fun _ _ _ => lastChar_across isGap fun _ => rfl
    exact (Token.isFlat_iff.mp (Dialect.flat_pieces flat piece member).1).1.2.2
  pairs := by
    refine (Dialect.flat_tight blankUnit flat).imp fun first second comma tight => ?_
    have nameless : dialect.isNameChar ',' = false := by cases dialect <;> decide
    have sort : isWordChar ',' = false ∧ isKeyChar ',' = false := by decide
    simp [Dialect.fuses, comma tight, nameless, sort]
  fractions first second third within _ _ period := by
    have member : second ∈ dialect.pieces unit query := within.subset (by simp)
    exact absurd period (Dialect.flat_pieces flat second member).2.2

end Query

end QueryLayout
