import QueryLayout.Proofs.Rereading
import QueryLayout.Proofs.Skimming

namespace QueryLayout

variable {dialect : Dialect} {before : Option Token} {token : Token} {rest : List Char} {rule : Rule}

theorem Dialect.isNameChar_of_isBlank {c : Char} (blank : isBlank c) : dialect.isNameChar c = false := by
  by_contra name
  rw [Dialect.isBlank_of_isNameChar (by simpa using name)] at blank
  cases blank

theorem Dialect.isNameChar_slash (dialect : Dialect) : dialect.isNameChar '/' = false := by
  cases dialect <;> decide

theorem Dialect.isNameChar_closing (dialect : Dialect) (style : QuoteStyle) :
    dialect.isNameChar style.closing = false := by
  cases dialect <;> cases style <;> decide

theorem Dialect.isNameChar_symbol {side : BracketSide} {c : Char} (member : c ∈ dialect.lexicon.symbols side) :
    dialect.isNameChar c = false := by
  have every : ∀ side ∈ [BracketSide.opening, .closing], ∀ c ∈ dialect.lexicon.symbols side,
      dialect.isNameChar c = false := by
    cases dialect <;> decide
  exact every side side.mem_all c member

theorem Dialect.isNameChar_positionalMark {c : Char} (member : c ∈ dialect.positionalMarks) :
    dialect.isNameChar c = false := by
  have every : ∀ c ∈ dialect.positionalMarks, dialect.isNameChar c = false := by
    cases dialect <;> decide
  exact every c member

/-- A quoted text that ends before its text does ends in its closing quote. -/
theorem literal_closed {styles : List QuoteStyle} {raw rest : List Char} (more : rest ≠ [])
    (found : literalExtent? styles (raw ++ rest) = some raw.length) :
    ∃ front, ∃ style : QuoteStyle, raw = front ++ [style.closing] := by
  obtain ⟨style, _, body, raw, whole⟩ := literalExtent?_eq_some found
  have closed := closedBody_of_literalBody style.closing style.escapes more body whole
  obtain ⟨front, rfl⟩ := List.getLast?_eq_some_iff.mp closed.getLast?
  exact ⟨style.opening ++ front, style, by simp [raw]⟩

section Ends

variable (someRaw : token.raw ≠ [])

include someRaw

/-- An operator is made of visible characters that belong to no name. -/
theorem ReadBy.operator_chars (reads : ReadBy dialect before (token.raw ++ rest) token .operator) :
    ∀ c ∈ token.raw, isBlank c = false ∧ dialect.isNameChar c = false := by
  obtain ⟨found, nameless⟩ := reads.operator someRaw
  have visible := reads.visible someRaw (by simp [Rule.rank])
  rcases operator_raw found (List.prefix_append _ _) with operator | ⟨c, single⟩
  · have every : ∀ operator ∈ operators, ∀ c ∈ operator, isBlank c = false ∧ dialect.isNameChar c = false := by
      cases dialect <;> decide
    exact every _ operator
  · rw [single] at nameless visible ⊢
    simpa using ⟨visible, nameless⟩

/-- A token that ends in a character of names is a whole word, unless it is a placeholder. -/
theorem ReadBy.name_last (reads : ReadBy dialect before (token.raw ++ rest) token rule)
    (notPlaceholder : token.kind ≠ .placeholder) (last : token.raw.getLast?.any dialect.isNameChar) :
    begins isWordChar rest = false := by
  by_cases more : rest = []
  · rw [more]
    rfl
  have ends : ∀ front c, token.raw = front ++ [c] → dialect.isNameChar c = false →
      begins isWordChar rest = false := by
    intro front c raw nameless
    simp [raw, nameless] at last
  rw [reads.kind] at notPlaceholder
  cases rule with
  | blank =>
    have gap := (reads.blank someRaw).1
    obtain ⟨front, c, raw⟩ := (List.eq_nil_or_concat' token.raw).resolve_left someRaw
    exact ends front c raw (Dialect.isNameChar_of_isBlank (gap c (by simp [raw])))
  | lineComment marks =>
    obtain ⟨mark, _, line, raw, whole⟩ := reads.line someRaw
    obtain ⟨front, c, rfl, blank⟩ := lineLength_final more line whole
    exact ends (mark.flatten ++ front) c (by simp [raw]) (Dialect.isNameChar_of_isBlank blank)
  | blockComment =>
    obtain ⟨body, raw, whole⟩ := reads.blockComment someRaw
    obtain ⟨front, rfl⟩ := commentBody_closed more body whole
    exact ends ('/' :: '*' :: (front ++ ['*'])) '/' (by simp [raw]) dialect.isNameChar_slash
  | literal =>
    obtain ⟨front, style, raw⟩ := literal_closed more (reads.literal someRaw)
    exact ends front style.closing raw (dialect.isNameChar_closing style)
  | bracketSymbol =>
    obtain ⟨c, symbol, raw⟩ := reads.symbol someRaw
    exact ends [] c raw (Dialect.isNameChar_symbol symbol)
  | bracketWord | reserved => exact (reads.phrase someRaw rfl).2.1
  | namedPlaceholder | quotedPlaceholder | positionalPlaceholder => exact absurd rfl notPlaceholder
  | number =>
    obtain ⟨_, _, ends, _⟩ := reads.number someRaw
    exact ends
  | word => exact begins_eq_false_of_imp (fun c => dialect.isNameChar_of_isWordChar) (reads.word someRaw).2
  | operator =>
    obtain ⟨front, c, raw⟩ := (List.eq_nil_or_concat' token.raw).resolve_left someRaw
    exact ends front c raw (reads.operator_chars someRaw c (by simp [raw])).2

theorem ReadBy.word_ends (reads : ReadBy dialect before (token.raw ++ rest) token rule)
    (notPlaceholder : token.kind ≠ .placeholder) (last : token.raw.getLast?.any isWordChar) :
    begins isWordChar rest = false := by
  obtain ⟨front, c, raw⟩ := (List.eq_nil_or_concat' token.raw).resolve_left someRaw
  refine reads.name_last someRaw notPlaceholder ?_
  rw [raw, List.getLast?_concat] at last ⊢
  exact dialect.isNameChar_of_isWordChar last

end Ends

end QueryLayout
