import QueryLayout.Proofs.Entries
import QueryLayout.Proofs.Lexemes
import QueryLayout.Proofs.Tracking

namespace QueryLayout

/-- A character that names of a dialect are made of. -/
def Dialect.isNameChar (dialect : Dialect) (c : Char) : Bool :=
  isWordChar c || dialect.lexicon.extraWordChars.contains c

/-- The characters that begin a named placeholder. -/
def Dialect.marks (dialect : Dialect) : List Char :=
  (phrases dialect.lexicon.namedMarks).flatten.flatten

/-- The characters that may follow a token without a blank between them: all others only stand right
after a period or an opening bracket. -/
def Dialect.isInert (dialect : Dialect) (c : Char) : Bool :=
  isBlank c || [',', ':', '.'].contains c || (dialect.lexicon.symbols .opening).contains c ||
    (dialect.lexicon.symbols .closing).contains c || (isWordChar c && c != 'N' && !isAsciiDigit c)

theorem Dialect.isNameChar_of_isWordChar {dialect : Dialect} {c : Char} (word : isWordChar c) :
    dialect.isNameChar c := by
  simp [Dialect.isNameChar, word]

theorem Dialect.isNameChar_hyphen (dialect : Dialect) : dialect.isNameChar '-' = false := by
  cases dialect <;> decide

theorem Dialect.isBlank_of_isNameChar {dialect : Dialect} {c : Char} (name : dialect.isNameChar c) :
    isBlank c = false := by
  have every : ∀ c ∈ dialect.lexicon.extraWordChars, isBlank c = false := by
    cases dialect <;> decide
  simp only [Dialect.isNameChar, Bool.or_eq_true, List.contains_iff_mem] at name
  rcases name with word | extra
  · exact isBlank_eq_false_of_isWordChar word
  · exact every c extra

theorem Dialect.isNameChar_mark {dialect : Dialect} {c : Char} (mark : c ∈ dialect.marks) :
    dialect.isNameChar c = false := by
  have every : ∀ c ∈ dialect.marks, dialect.isNameChar c = false := by
    cases dialect <;> decide
  exact every c mark

theorem Dialect.phrases_namedMarks (dialect : Dialect) :
    phrases dialect.lexicon.namedMarks = singleMarks dialect.marks := by
  cases dialect <;> decide

/-- The characters that begin a positional placeholder. -/
def Dialect.positionalMarks (dialect : Dialect) : List Char :=
  (phrases dialect.lexicon.positionalMarks).flatten.flatten

theorem Dialect.phrases_positionalMarks (dialect : Dialect) :
    phrases dialect.lexicon.positionalMarks = singleMarks dialect.positionalMarks := by
  cases dialect <;> decide

theorem Dialect.exclusive_lineCommentMarks (dialect : Dialect) :
    exclusiveMarks (phrases dialect.lexicon.lineCommentMarks) := by
  cases dialect <;> decide

theorem Dialect.lineCommentMarks_slash (dialect : Dialect) :
    ∀ mark ∈ phrases dialect.lexicon.lineCommentMarks, begins (· == '/') mark.flatten = false := by
  cases dialect <;> decide

theorem Dialect.symbol_sort {dialect : Dialect} {side : BracketSide} {c : Char}
    (member : c ∈ dialect.lexicon.symbols side) : isWordChar c = false ∧ isBlank c = false ∧ c ≠ '.' := by
  have every : ∀ side ∈ [BracketSide.opening, .closing], ∀ c ∈ dialect.lexicon.symbols side,
      isWordChar c = false ∧ isBlank c = false ∧ c ≠ '.' := by
    cases dialect <;> decide
  exact every side side.mem_all c member

theorem Dialect.mark_sort {dialect : Dialect} {c : Char} (member : c ∈ dialect.marks ++ dialect.positionalMarks) :
    isWordChar c = false ∧ isBlank c = false ∧ c ≠ '.' := by
  have every : ∀ c ∈ dialect.marks ++ dialect.positionalMarks,
      isWordChar c = false ∧ isBlank c = false ∧ c ≠ '.' := by
    cases dialect <;> decide
  exact every c member

theorem Dialect.isInert_closing {dialect : Dialect} {style : QuoteStyle}
    (member : style ∈ dialect.lexicon.quoteStyles) : dialect.isInert style.closing = false := by
  have every : ∀ style ∈ dialect.lexicon.quoteStyles, dialect.isInert style.closing = false := by
    cases dialect <;> decide
  exact every style member

theorem Dialect.isAsciiDigit_of_isInert {dialect : Dialect} {c : Char} (inert : dialect.isInert c) :
    isAsciiDigit c = false := by
  by_contra digit
  have digit : isAsciiDigit c := by simpa using digit
  have word := isWordChar_of_isAsciiDigit digit
  simp only [Dialect.isInert, Bool.or_eq_true, Bool.and_eq_true, List.contains_iff_mem, digit, Bool.not_true,
    Bool.false_eq_true, and_false, or_false] at inert
  rcases inert with ((blank | mark) | opening) | closing
  · rw [isWordChar_eq_false_of_isBlank blank] at word
    cases word
  · simp only [List.mem_cons, List.not_mem_nil, or_false] at mark
    rcases mark with rfl | rfl | rfl <;> exact absurd digit (by decide)
  · rw [(Dialect.symbol_sort opening).1] at word
    cases word
  · rw [(Dialect.symbol_sort closing).1] at word
    cases word

/-- The only operator that an inert character can make longer is a colon. -/
theorem Dialect.isInert_operator {dialect : Dialect} {operator first : List Char} {c : Char}
    (member : operator ∈ operators) (starts : first ++ [c] <+: operator) (someFirst : first ≠ [])
    (inert : dialect.isInert c) : first = [':'] ∧ c = ':' := by
  have every : ∀ operator ∈ operators, ∀ c ∈ operator.tail, dialect.isInert c = false ∨ operator = [':', ':'] := by
    cases dialect <;> decide
  obtain ⟨d, tail, rfl⟩ := List.exists_cons_of_ne_nil someFirst
  obtain ⟨rest, rfl⟩ := starts
  rcases every _ member c (by simp) with hot | pair
  · rw [inert] at hot
    cases hot
  · cases tail with
    | nil => simp_all
    | cons e tail => simp at pair

/-- A fixed beginning that no inert character continues. Only that of a national string begins with a
word character. -/
def Dialect.isSafeOpener (dialect : Dialect) : List Char → Bool
  | [] => false
  | c :: tail =>
    !isBlank c && (!isWordChar c || (c :: tail) == ['N', '\x27']) && tail.all (fun d => !dialect.isInert d) &&
      (tail.isEmpty || !('.' :: dialect.lexicon.symbols .opening).contains c)

theorem Dialect.isSafeOpener_of_mem {dialect : Dialect} {rule : Rule} (member : rule ∈ dialect.rules)
    {opener : List Char} (opens : opener ∈ rule.openers) : dialect.isSafeOpener opener := by
  have every : ∀ opener ∈ dialect.lexicon.table.flatMap Rule.openers, dialect.isSafeOpener opener := by
    cases dialect <;> decide
  exact every opener (List.mem_flatMap.mpr ⟨rule, dialect.lexicon.rules_sublist.subset member, opens⟩)

theorem Dialect.isOpener_of_isFixed {dialect : Dialect} {rule : Rule} (member : rule ∈ dialect.rules)
    (fixed : rule.isFixed) : rule.isOpener := by
  have every : ∀ rule ∈ dialect.lexicon.table, rule.isFixed → rule.isOpener := by
    cases dialect <;> decide
  exact every rule (dialect.lexicon.rules_sublist.subset member) fixed

section Membership

variable {dialect : Dialect}

theorem Dialect.lineComment_mem {marks : List Phrase} (member : Rule.lineComment marks ∈ dialect.rules) :
    marks = phrases dialect.lexicon.lineCommentMarks := by
  simpa [Lexicon.table] using dialect.lexicon.rules_sublist.subset member

theorem Dialect.literal_mem {styles : List QuoteStyle} (member : Rule.literal styles ∈ dialect.rules) :
    styles = dialect.lexicon.quoteStyles := by
  simpa [Lexicon.table] using dialect.lexicon.rules_sublist.subset member

theorem Dialect.bracketSymbol_mem {side : BracketSide} {symbols : List Char}
    (member : Rule.bracketSymbol side symbols ∈ dialect.rules) : symbols = dialect.lexicon.symbols side := by
  have found := dialect.lexicon.rules_sublist.subset member
  cases side <;> simpa [Lexicon.table] using found

theorem Dialect.named_mem {mark : Char} (isMark : mark ∈ dialect.marks) :
    Rule.namedPlaceholder (singleMarks dialect.marks) ∈ dialect.rules := by
  have some : singleMarks dialect.marks ≠ [] := by
    simpa [singleMarks] using List.ne_nil_of_mem isMark
  simp [Dialect.rules, Lexicon.rules, placeholderRules, unlessEmpty, Dialect.phrases_namedMarks, some]

theorem Dialect.namedPlaceholder_mem {marks : List Phrase} (member : Rule.namedPlaceholder marks ∈ dialect.rules) :
    marks = singleMarks dialect.marks := by
  rw [← Dialect.phrases_namedMarks]
  simpa [Lexicon.table] using dialect.lexicon.rules_sublist.subset member

theorem Dialect.quotedPlaceholder_mem {marks : List Phrase} {styles : List QuoteStyle}
    (member : Rule.quotedPlaceholder marks styles ∈ dialect.rules) :
    marks = singleMarks dialect.marks ∧ styles = dialect.lexicon.quoteStyles := by
  rw [← Dialect.phrases_namedMarks]
  simpa [Lexicon.table] using dialect.lexicon.rules_sublist.subset member

theorem Dialect.positionalPlaceholder_mem {marks : List Phrase}
    (member : Rule.positionalPlaceholder marks ∈ dialect.rules) : marks = singleMarks dialect.positionalMarks := by
  rw [← Dialect.phrases_positionalMarks]
  simpa [Lexicon.table] using dialect.lexicon.rules_sublist.subset member

theorem Dialect.word_mem {extra : List Char} (member : Rule.word extra ∈ dialect.rules) :
    extra = dialect.lexicon.extraWordChars := by
  simpa [Lexicon.table] using dialect.lexicon.rules_sublist.subset member

end Membership

end QueryLayout
