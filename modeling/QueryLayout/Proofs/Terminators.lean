import QueryLayout.Proofs.Glyphs
import QueryLayout.Proofs.Lossless
import QueryLayout.Proofs.Readers

namespace QueryLayout

/-- What a line can end in: a line break that is read as far as it goes, or the end of the text. -/
inductive LineEnding : List Char → List Char → Prop
  | feed {rest} : LineEnding ['\n'] rest
  | pair {rest} : LineEnding ['\r', '\n'] rest
  | carriage {rest} : rest.head? ≠ some '\n' → LineEnding ['\r'] rest
  | none : LineEnding [] []

/-- A text is one line, with the line break that ends it. -/
def WholeLine (raw rest : List Char) : Prop :=
  ∃ line ending, raw = line ++ ending ∧ (∀ c ∈ line, isLineEnd c = false) ∧ LineEnding ending rest

/-- A block comment goes through the first `*/` after its opening, and to the end of the text where there
is none. -/
def WholeComment (raw rest : List Char) : Prop :=
  ∃ body, raw = '/' :: '*' :: body ∧
    ((∃ front, body = front ++ ['*', '/'] ∧ ¬ ['*', '/'] <:+: front ++ ['*']) ∨
      (rest = [] ∧ ¬ ['*', '/'] <:+: body))

/-- A reader of a quoted text comes to a closing quote that it cannot step over. -/
def QuoteStyle.ClosesBefore (style : QuoteStyle) (text rest : List Char) : Prop :=
  (∃ glyphs, style.Scans text glyphs (style.closing :: rest)) ∧ style.Stops (style.closing :: rest)

/-- A literal goes through the one closing quote that stops a reader who begins after the opening quote, and
to the end of the text where there is none. -/
def QuoteStyle.WholeLiteral (style : QuoteStyle) (raw rest : List Char) : Prop :=
  ∃ body, raw = style.opening ++ body ∧
    ((∃ front, body = front ++ [style.closing] ∧ ∀ later, style.ClosesBefore (body ++ rest) later ↔ later = rest) ∨
      (rest = [] ∧ ∀ later, ¬ style.ClosesBefore body later))

theorem lineLength_eq_zero {text : List Char} (zero : lineLength text = 0) : text = [] := by
  fun_cases lineLength text <;> simp [lineLength] at zero ⊢

theorem lineLength_carriage {text : List Char} (apart : text.head? ≠ some '\n') :
    lineLength ('\r' :: text) = 1 := by
  cases text with
  | nil => rfl
  | cons c text =>
    rw [lineLength]
    rintro _ ⟨rfl, _⟩
    exact apart rfl

theorem wholeLine_of_lineLength {line rest : List Char} (whole : lineLength (line ++ rest) = line.length) :
    WholeLine line rest := by
  induction line with
  | nil =>
    obtain rfl := lineLength_eq_zero whole
    exact ⟨[], [], rfl, by simp, .none⟩
  | cons c line ih =>
    rw [List.cons_append, List.length_cons] at whole
    by_cases feed : c = '\n'
    · subst c
      obtain rfl : line = [] := List.length_eq_zero_iff.mp (by simpa [lineLength] using whole.symm)
      exact ⟨[], ['\n'], rfl, by simp, .feed⟩
    by_cases carriage : c = '\r'
    · subst c
      by_cases next : (line ++ rest).head? = some '\n'
      · obtain ⟨later, split⟩ := List.head?_eq_some_iff.mp next
        rw [split, lineLength, Nat.succ_inj] at whole
        obtain ⟨d, rfl⟩ := List.length_eq_one_iff.mp whole.symm
        obtain rfl : d = '\n' := (List.cons.inj split).1
        exact ⟨[], ['\r', '\n'], rfl, by simp, .pair⟩
      · rw [lineLength_carriage next] at whole
        obtain rfl : line = [] := List.length_eq_zero_iff.mp (by omega)
        exact ⟨[], ['\r'], rfl, by simp, .carriage next⟩
    · have inner : isLineEnd c = false := by simp [isLineEnd, feed, carriage]
      have later := lineLength_append (show ∀ d ∈ [c], isLineEnd d = false by simpa using inner) (line ++ rest)
      simp only [List.singleton_append, List.length_singleton] at later
      rw [later] at whole
      obtain ⟨front, ending, rfl, plain, ends⟩ := ih (by omega)
      exact ⟨c :: front, ending, rfl, by simpa [inner] using plain, ends⟩

theorem WholeLine.append {line rest : List Char} (ends : WholeLine line rest) {lead : List Char}
    (plain : ∀ c ∈ lead, isLineEnd c = false) : WholeLine (lead ++ line) rest := by
  obtain ⟨front, ending, rfl, inner, atEnd⟩ := ends
  exact ⟨lead ++ front, ending, (List.append_assoc _ _ _).symm, List.forall_mem_append.mpr ⟨plain, inner⟩, atEnd⟩

theorem QuoteStyle.wholeLiteral_of_literalBody {style : QuoteStyle} {body rest : List Char}
    (whole : literalBody style.closing style.escapes (body ++ rest) = body.length) :
    style.WholeLiteral (style.opening ++ body) rest := by
  refine ⟨body, rfl, ?_⟩
  rcases scans_of_literalBody whole with ⟨front, split, single, scans⟩ | ⟨atEnd, scans⟩
  · have stops : style.Stops (style.closing :: rest) := stops_iff.mpr (Or.inr ⟨rest, rfl, single⟩)
    refine Or.inl ⟨front, split, fun later => ⟨?_, ?_⟩⟩
    · -- two readers of one text stop at the same place
      rintro ⟨⟨glyphs, toClosing⟩, stopsToo⟩
      exact (List.cons.inj (scans.unique stops toClosing stopsToo).2).2.symm
    · rintro rfl
      exact ⟨⟨_, scans⟩, stops⟩
  · refine Or.inr ⟨atEnd, ?_⟩
    rintro later ⟨⟨glyphs, toClosing⟩, stops⟩
    cases (scans.unique (stops_iff.mpr (Or.inl rfl)) toClosing stops).2

section Ends

variable {dialect : Dialect} {before : Option Token} {token : Token} {rest : List Char} {rule : Rule}

theorem Dialect.lineCommentMarks_plain (dialect : Dialect) :
    ∀ mark ∈ phrases dialect.lexicon.lineCommentMarks, ∀ c ∈ mark.flatten, isLineEnd c = false := by
  cases dialect <;> decide

variable (someRaw : token.raw ≠ [])

include someRaw

theorem ReadBy.wholeLine {marks : List Phrase}
    (reads : ReadBy dialect before (token.raw ++ rest) token (.lineComment marks)) : WholeLine token.raw rest := by
  obtain ⟨mark, inMarks, line, raw, whole⟩ := reads.line someRaw
  rw [raw]
  exact (wholeLine_of_lineLength whole).append (dialect.lineCommentMarks_plain mark inMarks)

theorem ReadBy.wholeComment (reads : ReadBy dialect before (token.raw ++ rest) token .blockComment) :
    WholeComment token.raw rest := by
  obtain ⟨body, raw, whole⟩ := reads.blockComment someRaw
  exact ⟨body, raw, commentBody_first body whole⟩

theorem ReadBy.wholeLiteral {styles : List QuoteStyle}
    (reads : ReadBy dialect before (token.raw ++ rest) token (.literal styles)) :
    ∃ style ∈ dialect.lexicon.quoteStyles, style.WholeLiteral token.raw rest := by
  obtain ⟨style, enabled, body, raw, whole⟩ := literalExtent?_eq_some (reads.literal someRaw)
  rw [raw]
  exact ⟨style, enabled, style.wholeLiteral_of_literalBody whole⟩

end Ends

/-- Comments and literals end exactly at their terminators. -/
theorem Dialect.tokenize_terminated (dialect : Dialect) (text : List Char) {before after : List Token}
    {token : Token} (split : tokenize dialect.rules text = before ++ token :: after) :
    let rest := (after.map Token.raw).flatten
    (token.kind = .blockComment → WholeComment token.raw rest) ∧
      (token.kind = .lineComment → WholeLine token.raw rest) ∧
      (token.kind = .literal → ∃ style ∈ dialect.lexicon.quoteStyles, style.WholeLiteral token.raw rest) := by
  intro rest
  obtain ⟨someRaw, _, rule, reads⟩ := Dialect.reads_at split
  refine ⟨fun comment => ?_, fun comment => ?_, fun literal => ?_⟩
  · cases reads.ofKind comment
    exact reads.wholeComment someRaw
  · cases reads.ofKind comment
    exact reads.wholeLine someRaw
  · cases reads.ofKind literal
    exact reads.wholeLiteral someRaw

/-- The comment ends in a line break of two characters, the literal behind a doubled and an escaped quote, and
`/*/` closes no comment. -/
theorem Dialect.tokenize_terminated_mixed :
    let line := "-- a\r\n".toList
    let literal := "N'it''s \\' b'".toList
    let comment := "/*/ c".toList
    tokenize Dialect.standard.rules (line ++ literal ++ comment) =
        [⟨.lineComment, line, line, []⟩, ⟨.literal, literal, literal, []⟩, ⟨.blockComment, comment, comment, []⟩] ∧
      WholeLine line (literal ++ comment) ∧
      (∃ style ∈ Dialect.standard.lexicon.quoteStyles, style.WholeLiteral literal comment) ∧
      WholeComment comment [] := by
  intro line literal comment
  have split : tokenize Dialect.standard.rules (line ++ literal ++ comment) =
      [⟨.lineComment, line, line, []⟩, ⟨.literal, literal, literal, []⟩,
        ⟨.blockComment, comment, comment, []⟩] := by
    decide +kernel
  have first := (@Dialect.tokenize_terminated .standard _ [] _ _ split).2.1 rfl
  have second := (@Dialect.tokenize_terminated .standard _ [_] _ _ split).2.2 rfl
  have third := (@Dialect.tokenize_terminated .standard _ [_, _] _ _ split).1 rfl
  exact ⟨split, first, second, third⟩

end QueryLayout
