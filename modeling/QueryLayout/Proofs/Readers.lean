import QueryLayout.Proofs.Lossless
import QueryLayout.Proofs.Passing

namespace QueryLayout

variable {dialect : Dialect} {before : Option Token} {token : Token} {rest text : List Char} {rule : Rule}

/-- The rule that reads a token, while no rule before it reads anything. -/
structure ReadBy (dialect : Dialect) (before : Option Token) (text : List Char) (token : Token) (rule : Rule) :
    Prop where
  member : rule ∈ dialect.rules
  read : rule.read? before text = some token
  failed : ∀ earlier ∈ dialect.rules, earlier.rank < rule.rank → earlier.read? before text = none

theorem Dialect.readFirst?_eq_some_iff :
    readFirst? dialect.rules before text = some token ↔ ∃ rule, ReadBy dialect before text token rule := by
  refine Lexicon.readFirst?_eq_some_iff.trans ⟨?_, ?_⟩
  · rintro ⟨rule, member, read, failed⟩
    exact ⟨rule, member, read, failed⟩
  · rintro ⟨rule, member, read, failed⟩
    exact ⟨rule, member, read, failed⟩

theorem ReadBy.first (reads : ReadBy dialect before text token rule) :
    readFirst? dialect.rules before text = some token :=
  Dialect.readFirst?_eq_some_iff.mpr ⟨rule, reads⟩

/-- A token of a text is read by a rule where it stands, given the token before it. -/
theorem Dialect.reads_at {front back : List Token} (split : tokenize dialect.rules text = front ++ token :: back) :
    token.raw ≠ [] ∧ text = (front.map Token.raw).flatten ++ (token.raw ++ (back.map Token.raw).flatten) ∧
      ∃ rule, ReadBy dialect front.getLast? (token.raw ++ (back.map Token.raw).flatten) token rule := by
  have reading : Reading dialect.rules none text (tokenize dialect.rules text) :=
    dialect.lexicon.reading_tokenize text
  rw [split] at reading
  obtain ⟨someRaw, whole, read⟩ := reading.read_at
  rw [Option.or_none] at read
  exact ⟨someRaw, whole, Dialect.readFirst?_eq_some_iff.mp read⟩

theorem Dialect.reads_of_mem (member : token ∈ tokenize dialect.rules text) :
    token.raw ≠ [] ∧ ∃ before rest rule, ReadBy dialect before (token.raw ++ rest) token rule := by
  obtain ⟨front, back, split⟩ := List.append_of_mem member
  obtain ⟨someRaw, _, rule, reads⟩ := Dialect.reads_at split
  exact ⟨someRaw, _, _, rule, reads⟩

/-- The words that a rule for words reads. -/
def Rule.words : Rule → List Phrase
  | .bracketWord _ words | .reserved _ words => words
  | _ => []

theorem Dialect.isEntry_of_mem_words (member : rule ∈ dialect.rules) :
    ∀ word ∈ rule.words, word.isEntry dialect.hyphens := by
  cases rule with
  | bracketWord => exact fun word inWords => (Dialect.bracketWord_of_mem member inWords).1
  | reserved => exact fun word inWords => Dialect.isEntry_of_mem_reserved member inWords
  | _ => nofun

section Placeholders

variable {last : Option Char} {marks : List Phrase} {mark : Char} {name digits : List Char}

/-- A mark with a name is read where the name ends. -/
theorem Dialect.named_match? (member : Rule.namedPlaceholder marks ∈ dialect.rules) (isMark : mark ∈ dialect.marks)
    (someName : name ≠ []) (keys : ∀ c ∈ name, isKeyChar c) (ends : begins isKeyChar rest = false) :
    (Rule.namedPlaceholder marks).match? last (mark :: (name ++ rest)) = some ⟨(mark :: name).length, name⟩ := by
  have keyed : begins isKeyChar (name ++ rest) := by
    obtain ⟨c, tail, rfl⟩ := List.exists_cons_of_ne_nil someName
    exact keys c List.mem_cons_self
  rw [Rule.match?, Dialect.namedPlaceholder_mem member, namedMatch?_cons, if_pos ⟨isMark, keyed⟩,
    takeWhile_run keys ends, List.length_cons, Nat.add_comm]

theorem Dialect.quoted_match? {styles : List QuoteStyle}
    (member : Rule.quotedPlaceholder marks styles ∈ dialect.rules) (isMark : mark ∈ dialect.marks)
    (found : literalExtent? dialect.lexicon.quoteStyles (name ++ rest) = some name.length) :
    (Rule.quotedPlaceholder marks styles).match? last (mark :: (name ++ rest)) =
      some ⟨(mark :: name).length, unquote name⟩ := by
  obtain ⟨sortedMarks, sortedStyles⟩ := Dialect.quotedPlaceholder_mem member
  rw [Rule.match?, sortedMarks, sortedStyles, quotedMatch?_cons, if_pos isMark, found, Option.map_some,
    List.take_left, List.length_cons, Nat.add_comm]

theorem Dialect.positional_match? (member : Rule.positionalPlaceholder marks ∈ dialect.rules)
    (isMark : mark ∈ dialect.positionalMarks) (all : ∀ c ∈ digits, isAsciiDigit c)
    (ends : begins isAsciiDigit rest = false) :
    (Rule.positionalPlaceholder marks).match? last (mark :: (digits ++ rest)) =
      some ⟨(mark :: digits).length, digits⟩ := by
  rw [Rule.match?, Dialect.positionalPlaceholder_mem member, positionalMatch?_cons, if_pos isMark,
    takeWhile_run all ends, List.length_cons, Nat.add_comm]

end Placeholders

theorem Dialect.blank_mem (dialect : Dialect) : Rule.blank ∈ dialect.rules := by
  simp [Dialect.rules, Lexicon.rules]

theorem Dialect.number_mem (dialect : Dialect) : Rule.number ∈ dialect.rules := by
  simp [Dialect.rules, Lexicon.rules]

theorem Dialect.extra_mem (dialect : Dialect) : Rule.word dialect.lexicon.extraWordChars ∈ dialect.rules := by
  simp [Dialect.rules, Lexicon.rules]

theorem ReadBy.kind (reads : ReadBy dialect before text token rule) : token.kind = rule.kind :=
  Rule.read?_kind reads.read

theorem ReadBy.ofKind (reads : ReadBy dialect before text token rule) {kind : Kind} (same : token.kind = kind) :
    rule.OfKind kind :=
  reads.kind.symm.trans same ▸ rule.ofKind

theorem ReadBy.value_raw (reads : ReadBy dialect before text token rule) (plain : token.kind.isUpperCased = false) :
    token.value = token.raw := by
  rw [Rule.read?_value reads.read, plain]
  rfl

theorem Rule.isUpperCased_of_yields (yields : rule.yieldsToPeriod) : rule.kind.isUpperCased := by
  cases rule with
  | bracketWord side => cases side <;> rfl
  | reserved reservedClass => cases reservedClass <;> rfl
  | _ => cases yields

theorem Rule.exists_reserved_of_kind (kind : rule.kind ∈ [.reserved, .clause, .continuation]) :
    ∃ reservedClass words, rule = .reserved reservedClass words := by
  cases rule with
  | reserved reservedClass words => exact ⟨reservedClass, words, rfl⟩
  | bracketSymbol side | bracketWord side => cases side <;> simp [Rule.kind, BracketSide.kind] at kind
  | _ => simp [Rule.kind] at kind

theorem ReadBy.yields (reads : ReadBy dialect before text token rule)
    (isWord : token.kind ∈ [.reserved, .clause, .continuation]) : rule.yieldsToPeriod := by
  obtain ⟨reservedClass, words, rfl⟩ := Rule.exists_reserved_of_kind (reads.kind ▸ isWord)
  rfl

section Shape

variable (someRaw : token.raw ≠ [])

include someRaw

/-- What a rule other than that for blanks reads begins visibly. -/
theorem ReadBy.visible (reads : ReadBy dialect before (token.raw ++ rest) token rule) (notBlank : rule.rank ≠ 0) :
    begins isBlank token.raw = false := by
  have failed := reads.failed .blank dialect.blank_mem (Nat.pos_of_ne_zero notBlank)
  rwa [blank_read?_eq_none_iff, begins_append someRaw] at failed

theorem ReadBy.blank (reads : ReadBy dialect before (token.raw ++ rest) token .blank) :
    IsGap token.raw ∧ begins isBlank rest = false := by
  obtain ⟨_, key, matched, _⟩ := Rule.match?_of_read? someRaw reads.read
  exact runLength_append_iff.mp (congrArg Match.length (Option.some.inj matched))

theorem ReadBy.lineComment {marks : List Phrase}
    (reads : ReadBy dialect before (token.raw ++ rest) token (.lineComment marks)) :
    ∃ lead, markExtent? (phrases dialect.lexicon.lineCommentMarks) (token.raw ++ rest) = some lead ∧
      lead + lineLength ((token.raw ++ rest).drop lead) = token.raw.length := by
  obtain ⟨_, key, matched, _⟩ := Rule.match?_of_read? someRaw reads.read
  obtain ⟨lead, found, size⟩ := Option.map_eq_some_iff.mp matched
  exact ⟨lead, Dialect.lineComment_mem reads.member ▸ found, congrArg Match.length size⟩

/-- A line comment is a mark with the rest of its line. -/
theorem ReadBy.line {marks : List Phrase}
    (reads : ReadBy dialect before (token.raw ++ rest) token (.lineComment marks)) :
    ∃ mark ∈ phrases dialect.lexicon.lineCommentMarks, ∃ line, token.raw = mark.flatten ++ line ∧
      lineLength (line ++ rest) = line.length := by
  obtain ⟨lead, found, whole⟩ := reads.lineComment someRaw
  obtain ⟨mark, member, line, raw, _, ends⟩ := lineComment_split dialect.exclusive_lineCommentMarks found whole
  exact ⟨mark, member, line, raw, ends⟩

theorem ReadBy.literal {styles : List QuoteStyle}
    (reads : ReadBy dialect before (token.raw ++ rest) token (.literal styles)) :
    literalExtent? dialect.lexicon.quoteStyles (token.raw ++ rest) = some token.raw.length := by
  obtain ⟨_, key, matched, _⟩ := Rule.match?_of_read? someRaw reads.read
  obtain ⟨length, found, size⟩ := Option.map_eq_some_iff.mp matched
  cases size
  rwa [Dialect.literal_mem reads.member] at found

theorem ReadBy.blockComment (reads : ReadBy dialect before (token.raw ++ rest) token .blockComment) :
    ∃ body, token.raw = '/' :: '*' :: body ∧ commentBody (body ++ rest) = body.length := by
  obtain ⟨_, key, matched, _⟩ := Rule.match?_of_read? someRaw reads.read
  simp only [Rule.match?] at matched
  split at matched
  case h_2 => cases matched
  rename_i text split
  have size : 2 + commentBody text = token.raw.length := congrArg Match.length (Option.some.inj matched)
  rcases raw : token.raw with _ | ⟨c, _ | ⟨d, body⟩⟩
  · exact absurd raw someRaw
  · rw [raw, List.length_singleton] at size
    omega
  · rw [raw] at split size
    simp only [List.cons_append, List.cons.injEq] at split
    obtain ⟨rfl, rfl, rfl⟩ := split
    simp only [List.length_cons] at size
    exact ⟨body, rfl, by omega⟩

theorem ReadBy.symbol {side : BracketSide} {symbols : List Char}
    (reads : ReadBy dialect before (token.raw ++ rest) token (.bracketSymbol side symbols)) :
    ∃ c ∈ dialect.lexicon.symbols side, token.raw = [c] := by
  obtain ⟨_, key, matched, _⟩ := Rule.match?_of_read? someRaw reads.read
  simp only [Rule.match?] at matched
  split at matched
  case isFalse => cases matched
  rename_i symbol
  have size : 1 = token.raw.length := congrArg Match.length (Option.some.inj matched)
  obtain ⟨c, raw⟩ : ∃ c, token.raw = [c] := List.length_eq_one_iff.mp size.symm
  rw [raw] at symbol
  exact ⟨c, by simpa [Dialect.bracketSymbol_mem reads.member] using symbol, raw⟩

theorem ReadBy.named {marks : List Phrase}
    (reads : ReadBy dialect before (token.raw ++ rest) token (.namedPlaceholder marks)) :
    ∃ mark ∈ dialect.marks, ∃ name, token.raw = mark :: name ∧ name ≠ [] ∧ (∀ c ∈ name, isKeyChar c) ∧
      begins isKeyChar rest = false := by
  obtain ⟨_, key, matched, _⟩ := Rule.match?_of_read? someRaw reads.read
  obtain ⟨mark, name, raw⟩ := List.exists_cons_of_ne_nil someRaw
  rw [raw, List.cons_append] at matched
  simp only [Rule.match?, Dialect.namedPlaceholder_mem reads.member, namedMatch?_cons] at matched
  split at matched
  case isFalse => cases matched
  rename_i conditions
  obtain ⟨isMark, keyed⟩ := conditions
  have size : 1 + runLength isKeyChar (name ++ rest) = (mark :: name).length :=
    congrArg Match.length (Option.some.inj matched)
  rw [List.length_cons, Nat.add_comm, Nat.add_right_cancel_iff, runLength_append_iff] at size
  refine ⟨mark, isMark, name, raw, ?_, size⟩
  rintro rfl
  rw [List.nil_append, size.2] at keyed
  cases keyed

theorem ReadBy.quoted {marks : List Phrase} {styles : List QuoteStyle}
    (reads : ReadBy dialect before (token.raw ++ rest) token (.quotedPlaceholder marks styles)) :
    ∃ mark ∈ dialect.marks, ∃ name, token.raw = mark :: name ∧
      literalExtent? dialect.lexicon.quoteStyles (name ++ rest) = some name.length := by
  obtain ⟨_, key, matched, _⟩ := Rule.match?_of_read? someRaw reads.read
  obtain ⟨sortedMarks, sortedStyles⟩ := Dialect.quotedPlaceholder_mem reads.member
  obtain ⟨mark, name, raw⟩ := List.exists_cons_of_ne_nil someRaw
  rw [raw, List.cons_append] at matched
  simp only [Rule.match?, sortedMarks, sortedStyles, quotedMatch?_cons] at matched
  split at matched
  case isFalse => cases matched
  rename_i isMark
  obtain ⟨length, found, size⟩ := Option.map_eq_some_iff.mp matched
  have fits : length = name.length := by
    have total := congrArg Match.length size
    simp only [List.length_cons] at total
    omega
  exact ⟨mark, isMark, name, raw, fits ▸ found⟩

theorem ReadBy.positional {marks : List Phrase}
    (reads : ReadBy dialect before (token.raw ++ rest) token (.positionalPlaceholder marks)) :
    ∃ mark ∈ dialect.positionalMarks, ∃ digits, token.raw = mark :: digits ∧ (∀ c ∈ digits, isAsciiDigit c) ∧
      begins isAsciiDigit rest = false := by
  obtain ⟨_, key, matched, _⟩ := Rule.match?_of_read? someRaw reads.read
  obtain ⟨mark, digits, raw⟩ := List.exists_cons_of_ne_nil someRaw
  rw [raw, List.cons_append] at matched
  simp only [Rule.match?, Dialect.positionalPlaceholder_mem reads.member, positionalMatch?_cons] at matched
  split at matched
  case isFalse => cases matched
  rename_i isMark
  have size : 1 + runLength isAsciiDigit (digits ++ rest) = (mark :: digits).length :=
    congrArg Match.length (Option.some.inj matched)
  rw [List.length_cons, Nat.add_comm, Nat.add_right_cancel_iff, runLength_append_iff] at size
  exact ⟨mark, isMark, digits, raw, size⟩

/-- A placeholder begins with a mark. -/
theorem ReadBy.placeholder (reads : ReadBy dialect before (token.raw ++ rest) token rule)
    (placeholder : token.kind = .placeholder) :
    ∃ mark ∈ dialect.marks ++ dialect.positionalMarks, ∃ name, token.raw = mark :: name := by
  cases reads.ofKind placeholder with
  | named =>
    obtain ⟨mark, isMark, name, raw, _⟩ := reads.named someRaw
    exact ⟨mark, List.mem_append_left _ isMark, name, raw⟩
  | quoted =>
    obtain ⟨mark, isMark, name, raw, _⟩ := reads.quoted someRaw
    exact ⟨mark, List.mem_append_left _ isMark, name, raw⟩
  | positional =>
    obtain ⟨mark, isMark, digits, raw, _⟩ := reads.positional someRaw
    exact ⟨mark, List.mem_append_right _ isMark, digits, raw⟩

theorem ReadBy.number (reads : ReadBy dialect before (token.raw ++ rest) token .number) :
    ∃ whole, Numeral whole token.raw ∧ begins isWordChar rest = false ∧
      (whole = true → fractionAt rest = false) := by
  obtain ⟨_, key, matched, _⟩ := Rule.match?_of_read? someRaw reads.read
  obtain ⟨length, found, size⟩ := Option.map_eq_some_iff.mp matched
  cases size
  obtain ⟨whole, raw, later, split, size, numeral, ends⟩ := numberExtent?_eq_some_iff.mp found
  obtain ⟨rfl, rfl⟩ := List.append_inj split size.symm
  exact ⟨whole, numeral, ends⟩

theorem ReadBy.word {extra : List Char} (reads : ReadBy dialect before (token.raw ++ rest) token (.word extra)) :
    (∀ c ∈ token.raw, dialect.isNameChar c) ∧ begins dialect.isNameChar rest = false := by
  obtain ⟨_, key, matched, _⟩ := Rule.match?_of_read? someRaw reads.read
  rw [Dialect.word_match? reads.member] at matched
  exact runLength_append_iff.mp (congrArg Match.length (Option.some.inj matched))

/-- What is left for the rule for operators begins no name. -/
theorem ReadBy.operator (reads : ReadBy dialect before (token.raw ++ rest) token .operator) :
    operatorExtent (token.raw ++ rest) = token.raw.length ∧ begins dialect.isNameChar token.raw = false := by
  obtain ⟨_, key, matched, _⟩ := Rule.match?_of_read? someRaw reads.read
  have failed := reads.failed _ dialect.extra_mem (by simp [Rule.rank])
  rw [Dialect.word_read?_eq_none_iff dialect.extra_mem, begins_append someRaw] at failed
  exact ⟨congrArg Match.length (Option.some.inj matched), failed⟩

theorem ReadBy.reserved {reservedClass : ReservedClass} {words : List Phrase}
    (reads : ReadBy dialect before (token.raw ++ rest) token (.reserved reservedClass words)) :
    followsPeriod before = false ∧
      wordExtent? words (lastChar before) (token.raw ++ rest) = some token.raw.length := by
  obtain ⟨free, key, matched, _⟩ := Rule.match?_of_read? someRaw reads.read
  obtain ⟨length, found, size⟩ := Option.map_eq_some_iff.mp matched
  cases size
  exact ⟨free, found⟩

theorem ReadBy.bracketWord {side : BracketSide} {words : List Phrase}
    (reads : ReadBy dialect before (token.raw ++ rest) token (.bracketWord side words)) :
    followsPeriod before = false ∧ boundaryAt (lastChar before) (token.raw ++ rest) 0 ∧
      wordExtent? words (lastChar before) (token.raw ++ rest) = some token.raw.length := by
  obtain ⟨free, key, matched, _⟩ := Rule.match?_of_read? someRaw reads.read
  simp only [Rule.match?] at matched
  split at matched
  case isFalse => cases matched
  rename_i boundary
  obtain ⟨length, found, size⟩ := Option.map_eq_some_iff.mp matched
  cases size
  exact ⟨free, boundary, found⟩

/-- A reserved word or a word for a bracket is read only where no period stands before it and no word
character after it. -/
theorem ReadBy.phrase_mem (reads : ReadBy dialect before (token.raw ++ rest) token rule)
    (yields : rule.yieldsToPeriod) :
    followsPeriod before = false ∧ begins isWordChar rest = false ∧ ∃ word ∈ rule.words, Occurs word token.raw := by
  have matched : followsPeriod before = false ∧
      wordExtent? rule.words (lastChar before) (token.raw ++ rest) = some token.raw.length := by
    cases rule with
    | bracketWord =>
      obtain ⟨free, _, found⟩ := reads.bracketWord someRaw
      exact ⟨free, found⟩
    | reserved => exact reads.reserved someRaw
    | _ => cases yields
  obtain ⟨free, found⟩ := matched
  obtain ⟨ends, _, word, _, split, occurs, _⟩ :=
    (wordExtent?_eq_some_iff (Dialect.isEntry_of_mem_words reads.member)).mp found
  exact ⟨free, ends, word, by simp [split], occurs⟩

theorem ReadBy.phrase (reads : ReadBy dialect before (token.raw ++ rest) token rule)
    (yields : rule.yieldsToPeriod) :
    followsPeriod before = false ∧ begins isWordChar rest = false ∧
      ∃ word : Phrase, word.isEntry dialect.hyphens ∧ Occurs word token.raw := by
  obtain ⟨free, ends, word, inWords, occurs⟩ := reads.phrase_mem someRaw yields
  exact ⟨free, ends, word, Dialect.isEntry_of_mem_words reads.member word inWords, occurs⟩

/-- A reserved word and a word for a bracket have their letters in upper case as their value. -/
theorem ReadBy.raised (reads : ReadBy dialect before (token.raw ++ rest) token rule)
    (yields : rule.yieldsToPeriod) :
    ∃ word : Phrase, word.isEntry dialect.hyphens ∧ Raised word token.raw token.value := by
  obtain ⟨_, _, word, entry, occurs⟩ := reads.phrase someRaw yields
  rw [Rule.read?_value reads.read, if_pos (reads.kind ▸ Rule.isUpperCased_of_yields yields)]
  exact ⟨word, entry, occurs.raised_upperCase entry⟩

/-- What is shown in upper case and begins with a letter is no symbol. -/
theorem ReadBy.yields_of_letter (reads : ReadBy dialect before (token.raw ++ rest) token rule)
    (upper : token.kind.isUpperCased) (letter : begins isWordChar token.raw) : rule.yieldsToPeriod := by
  rw [reads.kind] at upper
  cases rule with
  | bracketSymbol =>
    obtain ⟨c, symbol, raw⟩ := reads.symbol someRaw
    rw [raw, begins_cons, (Dialect.symbol_sort symbol).1] at letter
    cases letter
  | bracketWord | reserved => rfl
  | _ => cases upper

/-- A bracket is a symbol or a word. -/
theorem ReadBy.bracket (reads : ReadBy dialect before (token.raw ++ rest) token rule)
    (bracket : token.kind = .opening ∨ token.kind = .closing) :
    (∃ side c, c ∈ dialect.lexicon.symbols side ∧ token.raw = [c]) ∨ rule.yieldsToPeriod := by
  rw [reads.kind] at bracket
  cases rule with
  | bracketSymbol side =>
    obtain ⟨c, symbol, raw⟩ := reads.symbol someRaw
    exact Or.inl ⟨side, c, symbol, raw⟩
  | bracketWord | reserved => exact Or.inr rfl
  | _ => rcases bracket with kind | kind <;> cases kind

theorem ReadBy.phrase_begins (reads : ReadBy dialect before (token.raw ++ rest) token rule)
    (yields : rule.yieldsToPeriod) : begins isWordChar token.raw := by
  obtain ⟨_, _, word, entry, occurs⟩ := reads.phrase someRaw yields
  obtain ⟨c, tail, raw, letter, _⟩ := occurs.first entry
  rw [raw]
  exact letter

end Shape

end QueryLayout
