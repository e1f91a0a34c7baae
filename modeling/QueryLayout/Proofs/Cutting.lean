import QueryLayout.Proofs.Lossless
import QueryLayout.Proofs.Raws
import QueryLayout.Proofs.Seams

namespace QueryLayout

section Extents

theorem begins_of_append {p : Char → Bool} {first second : List Char} (none : begins p (first ++ second) = false) :
    begins p first = false := by
  cases first with
  | nil => rfl
  | cons c first => exact none

/-- A line that ends within a text does so whatever follows the text. -/
theorem lineLength_cut (more : List Char) : ∀ text : List Char, lineLength (text ++ more) ≤ text.length →
    lineLength text = lineLength (text ++ more)
  | [], short => (Nat.le_zero.mp short).symm
  | c :: text, short => by
    cases ends : isLineEnd c with
    | false =>
      have passes := lineLength_append (show ∀ d ∈ [c], isLineEnd d = false by simpa using ends)
      have here := passes text
      have there := passes (text ++ more)
      simp only [List.singleton_append, List.length_singleton] at here there
      rw [List.cons_append, there, List.length_cons] at short
      have later := lineLength_cut more text (by omega)
      rw [List.cons_append, here, there, later]
    | true =>
      simp only [isLineEnd, Bool.or_eq_true, beq_iff_eq] at ends
      rcases ends with rfl | rfl
      · rfl
      · cases text with
        | cons d text =>
          by_cases feed : d = '\n'
          · rw [feed]
            rfl
          · rw [List.cons_append, List.cons_append, lineLength, lineLength] <;> simp [feed]
        | nil =>
          -- a line feed after the text would make the line longer
          cases more with
          | nil => rfl
          | cons d more =>
            by_cases feed : d = '\n'
            · simp [feed, lineLength] at short
            · rw [List.cons_append, List.nil_append, lineLength, lineLength] <;> simp [feed]

theorem commentBody_cut (more : List Char) : ∀ text : List Char, commentBody (text ++ more) ≤ text.length →
    commentBody text = commentBody (text ++ more)
  | [], short => (Nat.le_zero.mp short).symm
  | c :: text, short => by
    by_cases closes : ∃ later, c :: text = '*' :: '/' :: later
    · obtain ⟨later, split⟩ := closes
      rw [split]
      rfl
    by_cases crossing : ∃ later, c :: (text ++ more) = '*' :: '/' :: later
    · obtain ⟨later, split⟩ := crossing
      -- the closing pair would end behind the text
      cases text with
      | nil =>
        rw [List.cons_append, split] at short
        simp [commentBody] at short
      | cons d text =>
        obtain ⟨star, slash⟩ := List.cons.inj split
        exact absurd ⟨text, by rw [star, (List.cons.inj slash).1]⟩ closes
    · have here := commentBody_cons fun later same => closes ⟨later, same⟩
      have there := commentBody_cons fun later same => crossing ⟨later, same⟩
      rw [List.cons_append, there, List.length_cons] at short
      rw [List.cons_append, here, there, commentBody_cut more text (by omega)]

theorem literalBody_cut (closing : Char) (escapes : Bool) (more : List Char) :
    ∀ text : List Char, literalBody closing escapes (text ++ more) ≤ text.length →
      literalBody closing escapes text = literalBody closing escapes (text ++ more)
  | [], short => (Nat.le_zero.mp short).symm
  | [c], short => by
    have size := literalBody_pos closing escapes (show [c] ++ more ≠ [] by simp)
    exact (Nat.le_antisymm short size).symm
  | c :: next :: text, short => by
    simp only [List.cons_append, literalBody, List.length_cons] at short ⊢
    by_cases ends : c = closing
    · by_cases doubled : next = closing
      · simp only [ends, doubled, if_true] at short ⊢
        rw [literalBody_cut closing escapes more text (by omega)]
      · simp [ends, doubled]
    by_cases escape : escapes && c == '\\'
    · simp only [ends, if_false, escape, if_true] at short ⊢
      rw [literalBody_cut closing escapes more text (by omega)]
    · simp only [ends, if_false, escape, Bool.false_eq_true] at short ⊢
      rw [literalBody_cut closing escapes more (next :: text) (by rw [List.cons_append, List.length_cons]; omega)]
      rfl

theorem literalExtent?_cut {styles : List QuoteStyle} {raw kept cut : List Char}
    (found : literalExtent? styles (raw ++ (kept ++ cut)) = some raw.length) :
    literalExtent? styles (raw ++ kept) = some raw.length := by
  obtain ⟨style, member, body, rfl, whole⟩ := literalExtent?_eq_some found
  rw [← List.append_assoc] at whole
  have same := literalBody_cut style.closing style.escapes cut (body ++ kept)
    (by rw [whole, List.length_append]; omega)
  rw [List.append_assoc, literalExtent?_opening member, same, whole, List.length_append]

theorem operatorExtent_cut {raw kept cut : List Char} (found : operatorExtent (raw ++ (kept ++ cut)) = raw.length) :
    operatorExtent (raw ++ kept) = raw.length := by
  refine operatorExtent_of_absent found fun operator _ none starts => none (starts.trans ⟨cut, by simp⟩)

end Extents

/-- A character that may stand in a keyword or a number. -/
def isPlainChar (c : Char) : Bool :=
  isWordChar c || isBlank c || c == '-' || c == '.'

theorem Occurs.plain {hyphens : Bool} {phrase : Phrase} {raw : List Char} (occurs : Occurs phrase raw)
    (entry : phrase.isEntry hyphens) : ∀ c ∈ raw, isPlainChar c := by
  have ofPart : ∀ {part spelled}, isEntryPart hyphens part → Spells part spelled →
      ∀ c ∈ spelled, isPlainChar c := by
    intro part spelled isPart spells c member
    have sort := (isEntryPart_chars isPart spells c member).2.2
    simp only [Bool.or_eq_true, Bool.and_eq_true] at sort
    rcases sort with word | ⟨_, hyphen⟩
    · simp [isPlainChar, word]
    · simp [isPlainChar, hyphen]
  induction occurs with
  | last spells => exact ofPart (Phrase.isEntry_singleton entry) spells
  | more spells gap _ _ ih =>
    obtain ⟨first, later⟩ := Phrase.isEntry_tail entry
    intro c member
    rcases List.mem_append.mp member with member | inLater
    · rcases List.mem_append.mp member with inFirst | inGap
      · exact ofPart first spells c inFirst
      · simp [isPlainChar, gap c inGap]
    · exact ih later c inLater

theorem Digits.plain {isDigit : Char → Bool} {digits : List Char} (all : Digits isDigit digits)
    (isWord : ∀ c, isDigit c → isWordChar c) : ∀ c ∈ digits, isPlainChar c := by
  intro c member
  simp [isPlainChar, isWord c (all.2 c member)]

theorem Numeral.plain {whole : Bool} {raw : List Char} (numeral : Numeral whole raw) :
    ∀ c ∈ raw, isPlainChar c := by
  have ofShape : ∀ {raw}, PlainNumeral whole raw → ∀ c ∈ raw, isPlainChar c := by
    intro raw shape
    cases shape with
    | whole all => exact all.plain fun _ => isWordChar_of_isAsciiDigit
    | fraction all decimals =>
      have period : isPlainChar '.' := by decide
      have first := all.plain fun _ => isWordChar_of_isAsciiDigit
      have second := decimals.plain fun _ => isWordChar_of_isAsciiDigit
      simpa [or_imp, forall_and] using ⟨first, period, second⟩
  have hyphen : isPlainChar '-' := by decide
  have base : isPlainChar '0' ∧ isPlainChar 'x' ∧ isPlainChar 'b' := by decide
  cases numeral with
  | decimal shape => exact ofShape shape
  | @negative _ gap _ blank shape =>
    have blanks : ∀ c ∈ gap, isPlainChar c := fun c member => by simp [isPlainChar, blank c member]
    simpa [or_imp, forall_and] using ⟨hyphen, blanks, ofShape shape⟩
  | hexadecimal all =>
    simpa [or_imp, forall_and] using ⟨base.1, base.2.1, all.plain fun _ => isWordChar_of_isHexDigit⟩
  | binary all => simpa [or_imp, forall_and] using ⟨base.1, base.2.2, all.plain fun _ => isWordChar_of_isBit⟩

/-- A number is read where one is spelled out and no word character follows, if perhaps a longer one. -/
theorem numberExtent?_numeral {whole : Bool} {raw rest : List Char} (numeral : Numeral whole raw)
    (ends : begins isWordChar rest = false) : numberExtent? (raw ++ rest) ≠ none := by
  cases numeral with
  | decimal shape =>
    rw [numberExtent?_unsigned (shape.unsigned rest)]
    simp [shape.decimalExtent?_ne_none ends]
  | @negative _ gap raw blank shape =>
    rw [List.cons_append, List.append_assoc, numberExtent?_signed blank (shape.starts_visible rest)]
    simpa using shape.decimalExtent?_ne_none ends
  | hexadecimal all =>
    rw [(Numeral.hexadecimal all).numberExtent? ends nofun]
    simp
  | binary all =>
    rw [(Numeral.binary all).numberExtent? ends nofun]
    simp

variable {dialect : Dialect} {first second : List Char}

theorem Dialect.not_isPlainChar_mark {c : Char} (mark : c ∈ dialect.marks ++ dialect.positionalMarks) :
    isPlainChar c = false := by
  have every : ∀ c ∈ dialect.marks ++ dialect.positionalMarks, isPlainChar c = false := by
    cases dialect <;> decide
  exact every c mark

/-- A text may be cut off here: if a run of word characters goes on behind the cut, there is the mark of a
placeholder before it. -/
def Dialect.Cuts (dialect : Dialect) (first second : List Char) : Prop :=
  first.getLast?.any isWordChar → begins isWordChar second →
    ∃ c ∈ first, c ∈ dialect.marks ++ dialect.positionalMarks

theorem Dialect.Cuts.ends (cuts : dialect.Cuts first second) (last : first.getLast?.any isWordChar)
    (plain : ∀ c ∈ first, isPlainChar c) : begins isWordChar second = false := by
  by_contra goesOn
  obtain ⟨c, member, mark⟩ := cuts last (by simpa using goesOn)
  have marked := Dialect.not_isPlainChar_mark mark
  rw [plain c member] at marked
  cases marked

/-- What is spelled in plain characters and ends in a word character ends before the cut only if it also does
where the text goes on. -/
theorem Dialect.Cuts.ends_append {raw rest : List Char} (cuts : dialect.Cuts (raw ++ rest) second)
    (last : raw.getLast?.any isWordChar) (plain : ∀ c ∈ raw, isPlainChar c)
    (ends : begins isWordChar rest = false) : begins isWordChar (rest ++ second) = false := by
  cases rest with
  | cons c rest => exact ends
  | nil =>
    rw [List.append_nil] at cuts
    exact cuts.ends last plain

theorem Dialect.Cuts.stands (cuts : dialect.Cuts first second) {word : Phrase}
    (entry : word.isEntry dialect.hyphens) (stands : Stands word first) : Stands word (first ++ second) := by
  obtain ⟨raw, rest, rfl, occurs, ends⟩ := stands
  obtain ⟨lead, c, split, letter⟩ := occurs.final entry
  have last : raw.getLast?.any isWordChar := by simpa [split] using letter
  exact ⟨raw, rest ++ second, by simp, occurs, cuts.ends_append last (occurs.plain entry) ends⟩

theorem Dialect.Cuts.number (cuts : dialect.Cuts first second)
    (noNumber : numberExtent? (first ++ second) = none) : numberExtent? first = none := by
  by_contra something
  obtain ⟨length, found⟩ := Option.ne_none_iff_exists'.mp something
  obtain ⟨whole, raw, rest, rfl, _, numeral, ends, _⟩ := numberExtent?_eq_some_iff.mp found
  obtain ⟨front, c, split, letter⟩ := numeral.final
  have last : raw.getLast?.any isWordChar := by simpa [split] using letter
  rw [List.append_assoc] at noNumber
  exact numberExtent?_numeral numeral (cuts.ends_append last numeral.plain ends) noNumber

/-- A rule that reads nothing in a text reads nothing in what is left of it. -/
theorem Dialect.Cuts.read?_eq_none (cuts : dialect.Cuts first second) {rule : Rule} (member : rule ∈ dialect.rules)
    (notOperator : rule.rank < 16) (someFirst : first ≠ []) {previous : Option Token}
    (failed : rule.read? previous (first ++ second) = none) : rule.read? previous first = none := by
  have fixed : rule.isFixed → rule.read? previous first = none := by
    intro fixed
    have opener := Dialect.isOpener_of_isFixed member fixed
    rw [Rule.read?_eq_none_iff_openers opener] at failed ⊢
    exact fun text opens starts => failed text opens (starts.trans (List.prefix_append _ _))
  cases rule with
  | blank => rwa [blank_read?_eq_none_iff, begins_append someFirst, ← blank_read?_eq_none_iff] at failed
  | bracketWord side words =>
    rw [Dialect.bracketWord_read?_eq_none_iff member] at failed ⊢
    exact fun word inWords stands =>
      failed word inWords (cuts.stands (Dialect.bracketWord_of_mem member inWords).1 stands)
  | reserved reservedClass words =>
    rw [Dialect.reserved_read?_eq_none_iff member] at failed ⊢
    exact fun word inWords stands =>
      failed word inWords (cuts.stands (Dialect.isEntry_of_mem_reserved member inWords) stands)
  | namedPlaceholder marks =>
    obtain ⟨c, tail, rfl⟩ := List.exists_cons_of_ne_nil someFirst
    rw [List.cons_append, Dialect.named_read?_eq_none_iff member] at failed
    exact (Dialect.named_read?_eq_none_iff member).mpr fun mark => begins_of_append (failed mark)
  | number => exact number_read?_eq_none_iff.mpr (cuts.number (number_read?_eq_none_iff.mp failed))
  | word extra =>
    rw [Dialect.word_read?_eq_none_iff member] at failed ⊢
    exact begins_of_append failed
  | operator => simp [Rule.rank] at notOperator
  | _ => exact fixed rfl

section Reads

variable {before : Option Token} {token : Token} {rule : Rule} {kept cut : List Char}

/-- A number without a fraction gets none because what follows is cut short. -/
theorem Dialect.Cuts.fractionAt (cuts : dialect.Cuts (first ++ kept) cut) (plain : ∀ c ∈ first, isPlainChar c)
    (noFraction : fractionAt (kept ++ cut) = false) : fractionAt kept = false := by
  by_contra fraction
  have fraction : QueryLayout.fractionAt kept := by simpa using fraction
  obtain ⟨text, rfl⟩ : ∃ text, kept = '.' :: text := by
    by_contra other
    have apart : begins (· == '.') kept = false := by
      cases kept with
      | nil => rfl
      | cons c text => simpa using fun same : c = '.' => other ⟨text, by rw [same]⟩
    rw [fractionAt_eq_false apart] at fraction
    cases fraction
  obtain ⟨digits, later, rfl, all, ends⟩ := fractionAt_iff.mp fraction
  have period : isPlainChar '.' := by decide
  have whole : ∀ c ∈ first ++ '.' :: digits, isPlainChar c := by
    have decimals := all.plain fun _ => isWordChar_of_isAsciiDigit
    simpa [or_imp, forall_and] using ⟨plain, period, decimals⟩
  obtain ⟨front, c, split, digit⟩ := all.final
  have last : (first ++ '.' :: digits).getLast?.any isWordChar := by
    rw [split, ← List.cons_append, ← List.append_assoc, List.getLast?_concat]
    exact isWordChar_of_isAsciiDigit digit
  have goesOn : QueryLayout.fractionAt ('.' :: (digits ++ (later ++ cut))) := by
    refine fractionAt_iff.mpr ⟨digits, later ++ cut, rfl, all, ?_⟩
    have cuts : dialect.Cuts (first ++ '.' :: digits ++ later) cut := by simpa using cuts
    exact cuts.ends_append last whole ends
  rw [List.cons_append, List.append_assoc, goesOn] at noFraction
  cases noFraction

/-- The first reserved word that stands in a text is the first one in what is left of it. -/
theorem Dialect.Cuts.wordExtent? {raw : List Char} (cuts : dialect.Cuts (raw ++ kept) cut) {words : List Phrase}
    (entries : ∀ word ∈ words, word.isEntry dialect.hyphens) {last : Option Char}
    (found : wordExtent? words last (raw ++ (kept ++ cut)) = some raw.length) :
    wordExtent? words last (raw ++ kept) = some raw.length := by
  obtain ⟨ends, earlier, word, later, split, occurs, failed⟩ := (wordExtent?_eq_some_iff entries).mp found
  refine (wordExtent?_eq_some_iff entries).mpr
    ⟨begins_of_append ends, earlier, word, later, split, occurs, fun other inEarlier stands => ?_⟩
  have again := cuts.stands (entries other (by simp [split, inEarlier])) stands
  rw [List.append_assoc] at again
  exact failed other inEarlier again

section Comments

variable (someRaw : token.raw ≠ []) {last : Option Char}

include someRaw

theorem ReadBy.lineComment_cut {marks : List Phrase}
    (reads : ReadBy dialect before (token.raw ++ (kept ++ cut)) token (.lineComment marks)) :
    (Rule.lineComment marks).extent? last (token.raw ++ kept) = some token.raw.length := by
  obtain ⟨mark, member, line, raw, whole⟩ := reads.line someRaw
  rw [← List.append_assoc] at whole
  have same := lineLength_cut cut (line ++ kept) (by rw [whole, List.length_append]; omega)
  rw [raw, List.append_assoc, Rule.extent?, Rule.match?, Dialect.lineComment_mem reads.member,
    markExtent?_exclusive dialect.exclusive_lineCommentMarks member]
  simp only [Option.map_some, List.drop_left, same, whole, List.length_append]

theorem ReadBy.blockComment_cut (reads : ReadBy dialect before (token.raw ++ (kept ++ cut)) token .blockComment) :
    Rule.blockComment.extent? last (token.raw ++ kept) = some token.raw.length := by
  obtain ⟨body, raw, whole⟩ := reads.blockComment someRaw
  rw [← List.append_assoc] at whole
  have same := commentBody_cut cut (body ++ kept) (by rw [whole, List.length_append]; omega)
  rw [raw, Rule.extent?]
  simp only [List.cons_append, Rule.match?, Option.map_some, same, whole, List.length_cons, Option.some.injEq]
  omega

end Comments

/-- A rule reaches as far where the text behind its token is cut short. -/
theorem ReadBy.extent?_cut (reads : ReadBy dialect before (token.raw ++ (kept ++ cut)) token rule)
    (someRaw : token.raw ≠ []) (cuts : dialect.Cuts (token.raw ++ kept) cut) :
    rule.extent? (lastChar before) (token.raw ++ kept) = some token.raw.length := by
  cases rule with
  | blank =>
    obtain ⟨gap, ends⟩ := reads.blank someRaw
    exact congrArg some (runLength_append gap (begins_of_append ends))
  | lineComment => exact reads.lineComment_cut someRaw
  | blockComment => exact reads.blockComment_cut someRaw
  | literal styles =>
    have again := literalExtent?_cut (reads.literal someRaw)
    rw [Rule.extent?, Rule.match?, Dialect.literal_mem reads.member, again]
    rfl
  | bracketSymbol side symbols =>
    obtain ⟨c, symbol, raw⟩ := reads.symbol someRaw
    rw [Rule.extent?, Rule.match?, Dialect.bracketSymbol_mem reads.member, raw]
    simp [symbol]
  | bracketWord side words =>
    obtain ⟨_, boundary, atWord⟩ := reads.bracketWord someRaw
    obtain ⟨c, tail, raw⟩ := List.exists_cons_of_ne_nil someRaw
    have start : boundaryAt (lastChar before) (token.raw ++ kept) 0 := by
      rw [raw] at boundary ⊢
      exact boundary
    have entries : ∀ word ∈ words, word.isEntry dialect.hyphens := Dialect.isEntry_of_mem_words reads.member
    rw [Rule.extent?, Rule.match?, if_pos start, cuts.wordExtent? entries atWord]
    rfl
  | namedPlaceholder marks =>
    obtain ⟨mark, isMark, name, raw, someName, keys, ends⟩ := reads.named someRaw
    rw [Rule.extent?, raw, List.cons_append,
      Dialect.named_match? reads.member isMark someName keys (begins_of_append ends)]
    rfl
  | quotedPlaceholder marks styles =>
    obtain ⟨mark, isMark, name, raw, atLiteral⟩ := reads.quoted someRaw
    rw [Rule.extent?, raw, List.cons_append,
      Dialect.quoted_match? reads.member isMark (literalExtent?_cut atLiteral)]
    rfl
  | positionalPlaceholder marks =>
    obtain ⟨mark, isMark, digits, raw, all, ends⟩ := reads.positional someRaw
    rw [Rule.extent?, raw, List.cons_append,
      Dialect.positional_match? reads.member isMark all (begins_of_append ends)]
    rfl
  | number =>
    obtain ⟨whole, numeral, ends, noFraction⟩ := reads.number someRaw
    rw [Rule.extent?, Rule.match?, numeral.numberExtent? (begins_of_append ends) fun isWhole =>
      cuts.fractionAt numeral.plain (noFraction isWhole)]
    rfl
  | reserved reservedClass words =>
    obtain ⟨_, atWord⟩ := reads.reserved someRaw
    have entries : ∀ word ∈ words, word.isEntry dialect.hyphens := Dialect.isEntry_of_mem_words reads.member
    rw [Rule.extent?, Rule.match?, cuts.wordExtent? entries atWord]
    rfl
  | word extra =>
    obtain ⟨names, ends⟩ := reads.word someRaw
    rw [Rule.extent?, Dialect.word_match? reads.member, runLength_append names (begins_of_append ends)]
    rfl
  | operator =>
    obtain ⟨atOperator, _⟩ := reads.operator someRaw
    exact congrArg some (operatorExtent_cut atOperator)

/-- A token is read again where the text behind it is cut short. -/
theorem ReadBy.cut_short (reads : ReadBy dialect before (token.raw ++ (kept ++ cut)) token rule)
    (someRaw : token.raw ≠ []) (cuts : dialect.Cuts (token.raw ++ kept) cut) :
    ReadBy dialect before (token.raw ++ kept) token rule where
  member := reads.member
  read := by
    obtain ⟨free, _, made⟩ := (Dialect.read?_eq_some_iff reads.member someRaw).mp reads.read
    exact (Dialect.read?_eq_some_iff reads.member someRaw).mpr ⟨free, reads.extent?_cut someRaw cuts, made⟩
  failed := by
    intro earlier member lower
    have failed := reads.failed earlier member lower
    have last : rule.rank ≤ 16 := by
      unfold Rule.rank
      split <;> omega
    rw [← List.append_assoc] at failed
    exact cuts.read?_eq_none member (by omega) (by simp [someRaw]) failed

/-- Between two tokens a text may be cut: only a placeholder ends inside a run of word characters. -/
theorem Reading.cuts {text : List Char} {front back : List Token}
    (reading : Reading dialect.rules before text (front ++ back)) :
    dialect.Cuts (front.map Token.raw).flatten (back.map Token.raw).flatten := by
  rcases List.eq_nil_or_concat' front with rfl | ⟨init, token, rfl⟩
  · intro last
    cases last
  rw [List.append_assoc, List.singleton_append] at reading
  obtain ⟨someRaw, _, read⟩ := reading.read_at
  obtain ⟨rule, reads⟩ := Dialect.readFirst?_eq_some_iff.mp read
  intro last goesOn
  have ending : token.raw.getLast?.any isWordChar := by
    obtain ⟨body, c, raw⟩ := (List.eq_nil_or_concat' token.raw).resolve_left someRaw
    simpa [raw] using last
  have placeholder : token.kind = .placeholder := by
    by_contra other
    rw [reads.word_ends someRaw other ending] at goesOn
    cases goesOn
  obtain ⟨mark, isMark, name, raw⟩ := reads.placeholder someRaw placeholder
  exact ⟨mark, by simp [raw], isMark⟩

/-- The tokens before a cut are read as if nothing had been cut off. -/
theorem Reading.take {text : List Char} {front back : List Token}
    (reading : Reading dialect.rules before text (front ++ back)) :
    Reading dialect.rules before (front.map Token.raw).flatten front := by
  induction front generalizing before text with
  | nil => exact .done
  | cons token later ih =>
    have cuts := reading.cuts
    cases reading with
    | @next _ _ rest _ someRaw read tail =>
      have tail : Reading dialect.rules (some token) rest (later ++ back) := tail
      have split := tail.flatten_raw
      rw [List.map_append, List.flatten_append] at split
      obtain ⟨rule, reads⟩ := Dialect.readFirst?_eq_some_iff.mp read
      rw [← split] at reads
      exact .next someRaw (Dialect.readFirst?_eq_some_iff.mpr ⟨rule, reads.cut_short someRaw cuts⟩) (ih tail)

end Reads

/-- Cutting off a text after some token does not change how what is left is read: the tokens are the same in
all their parts. -/
theorem Dialect.tokenize_take (dialect : Dialect) (text : List Char) (count : Nat) :
    tokenize dialect.rules (((tokenize dialect.rules text).take count).map Token.raw).flatten =
      (tokenize dialect.rules text).take count := by
  have reading : Reading dialect.rules none text (tokenize dialect.rules text) :=
    dialect.lexicon.reading_tokenize text
  rw [← List.take_append_drop count (tokenize dialect.rules text)] at reading
  exact Lexicon.tokenize_eq_iff.mpr reading.take

end QueryLayout
