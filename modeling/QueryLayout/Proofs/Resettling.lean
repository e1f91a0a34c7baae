import QueryLayout.Proofs.Interleaving
import QueryLayout.Proofs.Readers

namespace QueryLayout

/-- A token that was read in one text, and the place where it is written in another. `before` and `after`
are the tokens in front of it, `rest` and `other` what follows it, and `shown` is how it is written. -/
structure Resettled (dialect : Dialect) (before after : Option Token) (token : Token)
    (rest shown other : List Char) : Prop where
  someRaw : token.raw ≠ []
  atEnd : rest = [] → other = []
  settled : dialect.settles other ∨ shown = ['.'] ∨ token.kind = .opening
  tracks : Tracks dialect.hyphens (token.raw ++ rest) (shown ++ other)
  wordEnds : shown.getLast?.any isWordChar → begins isWordChar other = false
  nameEnds : token.kind = .word → begins dialect.isNameChar other = false
  keyEnds : ∀ mark ∈ dialect.marks, ∀ key, shown = mark :: key → (∀ c ∈ key, isKeyChar c) →
    begins isKeyChar other = false
  colonEnds : shown = [':'] → begins (· == ':') other = false
  fraction : token.kind = .number → Numeral true shown → fractionAt other = false
  minus : shown = ['-'] → numberExtent? ('-' :: rest) = none → numberExtent? ('-' :: other) = none
  lineEnds : token.kind = .lineComment → other = [] ∨ ∃ later, other = '\n' :: later
  notPeriod : token.kind.isUpperCased → begins isWordChar shown → followsPeriod after = false
  period : token.kind = .word → followsPeriod before → followsPeriod after
  apart : token.kind = .opening ∨ token.kind = .closing → begins isWordChar shown →
    (lastChar after).any isWordChar = false
  notBracket : token.kind = .reserved ∨ token.kind = .clause ∨ token.kind = .continuation →
    shown ∉ dialect.bracketParts

variable {dialect : Dialect} {before after : Option Token} {token : Token} {rest shown other : List Char}

/-- The rules that do not read a token where it was first read do not read it where it is written either,
as long as it is written as it was read. -/
theorem Resettled.passes (settled : Resettled dialect before after token rest shown other) {rule : Rule}
    (member : rule ∈ dialect.rules) {tail : List Char} (split : token.raw ++ rest = shown ++ tail)
    (someShown : shown ≠ []) (failed : rule.read? before (token.raw ++ rest) = none)
    (single : dialect.settles other ∨ ∃ c ∈ '.' :: dialect.lexicon.symbols .opening, shown = [c])
    (number : rule = .number → numberExtent? (shown ++ tail) = none → numberExtent? (shown ++ other) = none)
    (words : rule.yieldsToPeriod → rule.read? after (shown ++ other) = none) (notLast : rule.rank < 16) :
    rule.read? after (shown ++ other) = none := by
  rw [split] at failed
  cases rule with
  | blank =>
    rw [blank_read?_eq_none_iff, begins_append someShown] at failed ⊢
    exact failed
  | bracketWord | reserved => exact words rfl
  | number =>
    rw [number_read?_eq_none_iff] at failed ⊢
    exact number rfl failed
  | namedPlaceholder marks =>
    refine Dialect.named_passes member failed someShown fun mark inMarks same => ?_
    exact settled.keyEnds mark inMarks [] same (by simp)
  | word extra =>
    rw [Dialect.word_read?_eq_none_iff member, begins_append someShown] at failed ⊢
    exact failed
  | operator => simp [Rule.rank] at notLast
  | _ => exact Dialect.fixed_passes member rfl failed someShown single

theorem Rule.rank_of_yields {rule : Rule} (yields : rule.yieldsToPeriod) : 5 ≤ rule.rank := by
  cases rule with
  | bracketWord side => cases side <;> simp [Rule.rank]
  | reserved reservedClass => cases reservedClass <;> simp [Rule.rank]
  | _ => cases yields

/-- A token of some kind and text is read at the start of a text. -/
def ReadAgain (dialect : Dialect) (after : Option Token) (kind : Kind) (raw text : List Char) : Prop :=
  ∃ again, again.kind = kind ∧ again.raw = raw ∧ readFirst? dialect.rules after text = some again

theorem ReadAgain.of_match? {rule : Rule} (member : rule ∈ dialect.rules) {raw later : List Char} (key : List Char)
    (someRaw : raw ≠ []) (free : (rule.yieldsToPeriod && followsPeriod after) = false)
    (matched : rule.match? (lastChar after) (raw ++ later) = some ⟨raw.length, key⟩)
    (passed : ∀ earlier ∈ dialect.rules, earlier.rank < rule.rank → earlier.read? after (raw ++ later) = none) :
    ReadAgain dialect after rule.kind raw (raw ++ later) :=
  ⟨Token.ofRaw rule.kind raw key, rfl, rfl, Dialect.readFirst?_eq_some_iff.mpr
    ⟨rule, member, Rule.read?_of_match? free someRaw matched, passed⟩⟩

theorem Resettled.settles (settled : Resettled dialect before after token rest shown other)
    (notPeriod : shown ≠ ['.']) (notOpening : token.kind ≠ .opening) : dialect.settles other := by
  rcases settled.settled with inert | period | opening
  · exact inert
  · exact absurd period notPeriod
  · exact absurd opening notOpening

theorem Dialect.begins_of_settles {text : List Char} (settles : dialect.settles text) {p : Char → Bool}
    (hot : ∀ c, dialect.isInert c → p c = false) : begins p text = false := by
  cases text with
  | nil => rfl
  | cons c text => exact hot c settles

theorem begins_trimEnd {p : Char → Bool} {text : List Char} (visible : begins isBlank text = false) :
    begins p (trimEnd text) = begins p text := by
  cases text with
  | nil => rfl
  | cons c text =>
    rw [trimEnd_cons_of_visible visible]
    rfl

theorem trimEnd_ne_nil {text : List Char} (someText : text ≠ []) (visible : begins isBlank text = false) :
    trimEnd text ≠ [] := by
  intro none
  have gap := trimEnd_eq_nil_iff.mp none
  obtain ⟨c, tail, rfl⟩ := List.exists_cons_of_ne_nil someText
  have blank := (isGap_cons.mp gap).1
  rw [show isBlank c = false from visible] at blank
  cases blank

section Passing

variable (settled : Resettled dialect before after token rest shown other) {rule : Rule}
  (member : rule ∈ dialect.rules) {tail : List Char} (split : token.raw ++ rest = shown ++ tail)
  (someShown : shown ≠ []) (failed : rule.read? before (token.raw ++ rest) = none)
  (single : dialect.settles other ∨ ∃ c ∈ '.' :: dialect.lexicon.symbols .opening, shown = [c])

include settled member split someShown failed single

/-- Before the rules for brackets there are no rules for words or numbers. -/
theorem Resettled.passes_early (early : rule.rank < 5) : rule.read? after (shown ++ other) = none := by
  refine settled.passes member split someShown failed single ?_ ?_ (by omega)
  · rintro rfl
    simp [Rule.rank] at early
  · intro yields
    have high := Rule.rank_of_yields yields
    omega

/-- Before the rule for numbers only words for brackets can be read where a word begins. -/
theorem Resettled.passes_nonword (early : rule.rank < 11)
    (apart : begins isWordChar shown = false ∨ begins isAsciiDigit shown) :
    rule.read? after (shown ++ other) = none := by
  refine settled.passes member split someShown failed single ?_ ?_ (by omega)
  · rintro rfl
    simp [Rule.rank] at early
  · intro yields
    rw [← begins_append someShown other, ← begins_append someShown other] at apart
    exact Dialect.words_pass member yields apart

end Passing

/-- No closing quote of the dialect is inert. -/
theorem Dialect.closing_ends {text : List Char} (settles : dialect.settles text) :
    ∀ style ∈ dialect.lexicon.quoteStyles, begins (· == style.closing) text = false := by
  intro style inStyles
  refine Dialect.begins_of_settles settles fun c inert => ?_
  have hot := Dialect.isInert_closing inStyles
  by_contra closes
  rw [show c = style.closing by simpa using closes, hot] at inert
  cases inert

theorem Resettled.literal (settled : Resettled dialect before after token rest shown other)
    {styles : List QuoteStyle} (reads : ReadBy dialect before (token.raw ++ rest) token (.literal styles))
    (rendered : shown = trimEnd token.raw) : ReadAgain dialect after .literal shown (shown ++ other) := by
  have kind : token.kind = .literal := reads.kind
  have visible := reads.visible settled.someRaw (by simp [Rule.rank])
  have someShown : shown ≠ [] := rendered ▸ trimEnd_ne_nil settled.someRaw visible
  have found := reads.literal settled.someRaw
  have opens : shown ≠ ['.'] := by
    intro period
    obtain ⟨style, _, body, split, _⟩ := literalExtent?_eq_some found
    have first := begins_trimEnd (p := (· == '.')) visible
    rw [← rendered, period, split] at first
    cases style <;> cases first
  have settles := settled.settles opens (by simp [kind])
  have kept := (literalExtent?_keep found settled.atEnd (Dialect.closing_ends settles)).1
  obtain ⟨gap, _, whole⟩ := trimEnd_append_gap token.raw
  have split : token.raw ++ rest = shown ++ (gap ++ rest) := by
    rw [rendered, ← List.append_assoc, ← whole]
  refine ReadAgain.of_match? reads.member [] someShown (by rfl) ?_ fun earlier member lower => ?_
  · simp only [Rule.match?, Dialect.literal_mem reads.member, rendered, kept]
    rfl
  · exact settled.passes_early member split someShown (reads.failed earlier member lower) (Or.inl settles)
      (Nat.lt_trans lower (by simp [Rule.rank]))

theorem Resettled.lineComment (settled : Resettled dialect before after token rest shown other)
    {marks : List Phrase} (reads : ReadBy dialect before (token.raw ++ rest) token (.lineComment marks))
    (rendered : shown = trimEnd token.raw) :
    ReadAgain dialect after .lineComment (shown ++ other.take 1) (shown ++ other) := by
  obtain ⟨lead, found, whole⟩ := reads.lineComment settled.someRaw
  have kind : token.kind = .lineComment := reads.kind
  have visible := reads.visible settled.someRaw (by simp [Rule.rank])
  have someShown : shown ≠ [] := rendered ▸ trimEnd_ne_nil settled.someRaw visible
  have ending : other.take 1 = [] ∨ other.take 1 = ['\n'] := by
    rcases settled.lineEnds kind with rfl | ⟨later, rfl⟩
    · exact Or.inl rfl
    · exact Or.inr rfl
  have last : other.take 1 = [] → other.drop 1 = [] := by
    intro none
    rcases settled.lineEnds kind with rfl | ⟨later, rfl⟩
    · rfl
    · cases none
  obtain ⟨again, foundAgain, sizeAgain⟩ :=
    lineComment_keep dialect.exclusive_lineCommentMarks found whole ending (other.drop 1) last
  rw [← rendered, List.take_append_drop] at foundAgain sizeAgain
  have cut : shown ++ other = shown ++ other.take 1 ++ other.drop 1 := by
    rw [List.append_assoc, List.take_append_drop]
  rw [cut] at foundAgain sizeAgain ⊢
  refine ReadAgain.of_match? reads.member [] (by simp [someShown]) (by rfl) ?_ fun earlier member lower => ?_
  · rw [Rule.match?, Dialect.lineComment_mem reads.member, foundAgain, Option.map_some, sizeAgain]
  · obtain rfl : earlier = .blank := Rule.rank_eq_zero (Nat.lt_one_iff.mp lower)
    rw [← cut, blank_read?_eq_none_iff, begins_append someShown, rendered, begins_trimEnd visible]
    exact visible

theorem Resettled.blockComment (settled : Resettled dialect before after token rest shown other)
    (reads : ReadBy dialect before (token.raw ++ rest) token .blockComment) {indent : List Char}
    (blank : IsGap indent) (rendered : shown = trimEnd (reindent indent token.raw)) :
    ReadAgain dialect after .blockComment shown (shown ++ other) := by
  obtain ⟨body, opens, whole⟩ := reads.blockComment settled.someRaw
  have kept := (blockComment_keep blank whole settled.atEnd).1
  have front : shown = '/' :: '*' :: trimEnd (reindent indent body) := by
    have visible : trimEnd ['/', '*'] = ['/', '*'] := by decide
    rw [rendered, opens]
    exact trimEnd_append_of_trimmed visible (reindent indent body)
  have someShown : shown ≠ [] := by simp [front]
  refine ReadAgain.of_match? reads.member [] someShown (by rfl) ?_ fun earlier member lower => ?_
  · rw [front]
    simp only [Rule.match?, List.cons_append, kept, List.length_cons, Option.some.injEq, Match.mk.injEq, and_true]
    omega
  · rw [front]
    exact Dialect.slash_pass member lower _

theorem Resettled.bracketSymbol (settled : Resettled dialect before after token rest shown other)
    {side : BracketSide} {symbols : List Char}
    (reads : ReadBy dialect before (token.raw ++ rest) token (.bracketSymbol side symbols))
    (rendered : shown = token.raw) : ReadAgain dialect after side.kind shown (shown ++ other) := by
  have kind : token.kind = side.kind := reads.kind
  obtain ⟨c, symbol, raw⟩ := reads.symbol settled.someRaw
  have inSymbols : c ∈ symbols := Dialect.bracketSymbol_mem reads.member ▸ symbol
  obtain ⟨nonword, _, notPeriod⟩ := Dialect.symbol_sort symbol
  rw [raw] at rendered
  have someShown : shown ≠ [] := by simp [rendered]
  have single : dialect.settles other ∨ ∃ c ∈ '.' :: dialect.lexicon.symbols .opening, shown = [c] := by
    cases side with
    | opening => exact Or.inr ⟨c, by simp [symbol], rendered⟩
    | closing => exact Or.inl (settled.settles (by simp [rendered, notPeriod]) (by simp [kind, BracketSide.kind]))
  refine ReadAgain.of_match? reads.member [] someShown (by rfl) ?_ fun earlier member lower => ?_
  · simp [Rule.match?, rendered, inSymbols]
  · have low : (Rule.bracketSymbol side symbols).rank < 11 := by cases side <;> simp [Rule.rank]
    exact settled.passes_nonword member (by rw [raw, rendered]) someShown (reads.failed earlier member lower)
      single (Nat.lt_trans lower low) (Or.inl (by simpa [rendered] using nonword))

theorem Resettled.namedPlaceholder (settled : Resettled dialect before after token rest shown other)
    {marks : List Phrase} (reads : ReadBy dialect before (token.raw ++ rest) token (.namedPlaceholder marks))
    (rendered : shown = trimEnd token.raw) : ReadAgain dialect after .placeholder shown (shown ++ other) := by
  have kind : token.kind = .placeholder := reads.kind
  obtain ⟨c, mark, name, raw, someName, keys, _⟩ := reads.named settled.someRaw
  obtain ⟨nonword, visible, notPeriod⟩ := Dialect.mark_sort (List.mem_append_left _ mark)
  have written : shown = c :: name := by
    rw [rendered, raw, trimEnd_of_forall]
    intro d member
    rcases List.mem_cons.mp member with rfl | member
    · exact visible
    · exact isBlank_eq_false_of_isKeyChar (keys d member)
  have settles := settled.settles (by simp [written, notPeriod]) (by simp [kind])
  have ends := settled.keyEnds c mark name written keys
  have someShown : shown ≠ [] := by simp [written]
  refine ReadAgain.of_match? reads.member name someShown (by rfl) ?_ fun earlier member lower => ?_
  · rw [written]
    exact Dialect.named_match? reads.member mark someName keys ends
  · exact settled.passes_nonword member (by rw [raw, written]) someShown (reads.failed earlier member lower)
      (Or.inl settles) (Nat.lt_trans lower (by simp [Rule.rank])) (Or.inl (by simpa [written] using nonword))

theorem Resettled.quotedPlaceholder (settled : Resettled dialect before after token rest shown other)
    {marks : List Phrase} {styles : List QuoteStyle}
    (reads : ReadBy dialect before (token.raw ++ rest) token (.quotedPlaceholder marks styles))
    (rendered : shown = trimEnd token.raw) : ReadAgain dialect after .placeholder shown (shown ++ other) := by
  have kind : token.kind = .placeholder := reads.kind
  obtain ⟨c, mark, name, raw, found⟩ := reads.quoted settled.someRaw
  obtain ⟨nonword, visible, notPeriod⟩ := Dialect.mark_sort (List.mem_append_left _ mark)
  have written : shown = c :: trimEnd name := by
    rw [rendered, raw, trimEnd_cons_of_visible visible]
  have settles := settled.settles (by simp [written, notPeriod]) (by simp [kind])
  have kept := (literalExtent?_keep found settled.atEnd (Dialect.closing_ends settles)).1
  have someShown : shown ≠ [] := by simp [written]
  obtain ⟨gap, _, whole⟩ := trimEnd_append_gap name
  have split : token.raw ++ rest = shown ++ (gap ++ rest) := by
    rw [raw, written, List.cons_append, List.cons_append, ← List.append_assoc, ← whole]
  refine ReadAgain.of_match? reads.member (unquote (trimEnd name)) someShown (by rfl) ?_
    fun earlier member lower => ?_
  · rw [written]
    exact Dialect.quoted_match? reads.member mark kept
  · exact settled.passes_nonword member split someShown (reads.failed earlier member lower)
      (Or.inl settles) (Nat.lt_trans lower (by simp [Rule.rank])) (Or.inl (by simpa [written] using nonword))

theorem Resettled.positionalPlaceholder (settled : Resettled dialect before after token rest shown other)
    {marks : List Phrase}
    (reads : ReadBy dialect before (token.raw ++ rest) token (.positionalPlaceholder marks))
    (rendered : shown = trimEnd token.raw) : ReadAgain dialect after .placeholder shown (shown ++ other) := by
  have kind : token.kind = .placeholder := reads.kind
  obtain ⟨c, mark, digits, raw, all, _⟩ := reads.positional settled.someRaw
  obtain ⟨nonword, visible, notPeriod⟩ := Dialect.mark_sort (List.mem_append_right _ mark)
  have written : shown = c :: digits := by
    rw [rendered, raw, trimEnd_of_forall]
    intro d member
    rcases List.mem_cons.mp member with rfl | member
    · exact visible
    · exact isBlank_eq_false_of_isAsciiDigit (all d member)
  have settles := settled.settles (by simp [written, notPeriod]) (by simp [kind])
  have ends := Dialect.begins_of_settles settles fun c => Dialect.isAsciiDigit_of_isInert
  have someShown : shown ≠ [] := by simp [written]
  refine ReadAgain.of_match? reads.member digits someShown (by rfl) ?_ fun earlier member lower => ?_
  · rw [written]
    exact Dialect.positional_match? reads.member mark all ends
  · exact settled.passes_nonword member (by rw [raw, written]) someShown (reads.failed earlier member lower)
      (Or.inl settles) (Nat.lt_trans lower (by simp [Rule.rank])) (Or.inl (by simpa [written] using nonword))

theorem Resettled.number (settled : Resettled dialect before after token rest shown other)
    (reads : ReadBy dialect before (token.raw ++ rest) token .number) (rendered : shown = trimEnd token.raw) :
    ReadAgain dialect after .number shown (shown ++ other) := by
  have kind : token.kind = .number := reads.kind
  obtain ⟨whole, numeral, _⟩ := reads.number settled.someRaw
  obtain ⟨front, final, atEnd, letter⟩ := numeral.final
  have written : shown = token.raw := by
    rw [rendered, atEnd, trimEnd_concat, isBlank_eq_false_of_isWordChar letter]
    rfl
  have wordEnds : begins isWordChar other = false := by
    apply settled.wordEnds
    rw [written, atEnd]
    simpa using letter
  rw [← written] at numeral
  have foundAgain := numeral.numberExtent? wordEnds fun isWhole => settled.fraction kind (isWhole ▸ numeral)
  obtain ⟨c, tail, atHead, sort⟩ := numeral.begins
  have someShown : shown ≠ [] := by simp [atHead]
  have apart : begins isWordChar shown = false ∨ begins isAsciiDigit shown := by
    rw [atHead]
    rcases sort with digit | rfl
    · exact Or.inr digit
    · exact Or.inl (show isWordChar '-' = false by decide)
  refine ReadAgain.of_match? reads.member [] someShown (by rfl) ?_ fun earlier member lower => ?_
  · simp only [Rule.match?, foundAgain, Option.map_some]
  · exact settled.passes_nonword member (by rw [written]) someShown (reads.failed earlier member lower)
      (Or.inl (settled.settles numeral.ne_period (by simp [kind]))) lower apart

theorem operator_raw {text raw : List Char} (found : operatorExtent text = raw.length) (starts : raw <+: text) :
    raw ∈ operators ∨ ∃ c, raw = [c] := by
  unfold operatorExtent at found
  split at found
  · rename_i operator first
    have isPrefix := List.find?_some first
    have prefixes := List.isPrefixOf_iff_prefix.mp isPrefix
    have same := (List.prefix_of_prefix_length_le prefixes starts (Nat.le_of_eq found)).eq_of_length found
    exact Or.inl (same ▸ List.mem_of_find?_eq_some first)
  · exact Or.inr (List.length_eq_one_iff.mp found.symm)

/-- Outside of brackets a token settles what follows it, unless it is a period. -/
theorem Resettled.single (settled : Resettled dialect before after token rest shown other)
    (notOpening : token.kind ≠ .opening) :
    dialect.settles other ∨ ∃ c ∈ '.' :: dialect.lexicon.symbols .opening, shown = [c] := by
  rcases settled.settled with settles | period | opening
  · exact Or.inl settles
  · exact Or.inr ⟨'.', by simp, period⟩
  · exact absurd opening notOpening

theorem Resettled.operatorExtent (settled : Resettled dialect before after token rest shown other)
    (notOpening : token.kind ≠ .opening) (written : shown = token.raw)
    (found : operatorExtent (token.raw ++ rest) = token.raw.length) :
    operatorExtent (shown ++ other) = shown.length := by
  rw [written]
  refine operatorExtent_keep found fun operator member c atHead starts => ?_
  rcases settled.settled with settles | period | opening
  · have inert : dialect.isInert c := by simpa [Dialect.settles, atHead] using settles
    obtain ⟨colon, rfl⟩ := Dialect.isInert_operator member starts settled.someRaw inert
    have ends := settled.colonEnds (written.trans colon)
    simp [begins, atHead] at ends
  · have every : ∀ operator ∈ operators, begins (· == '.') operator = false := by decide
    have none := every operator member
    rw [← written, period] at starts
    obtain ⟨later, rfl⟩ := starts
    cases none
  · exact absurd opening notOpening

/-- No number begins with an operator, but for a minus sign. -/
theorem Dialect.numberExtent?_operator {raw text : List Char} (shape : raw ∈ operators ∨ ∃ c, raw = [c])
    (nameless : begins dialect.isNameChar raw = false) (notMinus : raw ≠ ['-']) (someRaw : raw ≠ []) :
    numberExtent? (raw ++ text) = none := by
  obtain ⟨c, tail, rfl⟩ := List.exists_cons_of_ne_nil someRaw
  by_cases hyphen : c = '-'
  · subst hyphen
    rcases shape with operator | ⟨d, single⟩
    · -- the only other operators of this form are arrows
      have every : ∀ operator ∈ operators, ∀ tail, operator = '-' :: tail →
          operator = ['-'] ∨ begins (· == '>') tail := by
        simp [operators]
      obtain minus | arrow := every _ operator tail rfl
      · exact absurd minus notMinus
      obtain ⟨later, rfl⟩ : ∃ later, tail = '>' :: later := by
        cases tail with
        | nil => cases arrow
        | cons d later => exact ⟨later, by simpa using arrow⟩
      have visible : begins isBlank ('>' :: (later ++ text)) = false := show isBlank '>' = false by decide
      have notDigit : begins isAsciiDigit ('>' :: (later ++ text)) = false :=
        show isAsciiDigit '>' = false by decide
      have signed := numberExtent?_signed isGap_nil visible
      rw [List.nil_append, decimalExtent?_eq_none notDigit] at signed
      exact signed
    · obtain ⟨rfl, rfl⟩ := List.cons.inj single
      exact absurd rfl notMinus
  · refine numberExtent?_eq_none_of_begins ?_ hyphen
    by_contra digit
    have name := dialect.isNameChar_of_isWordChar (isWordChar_of_isAsciiDigit (by simpa using digit))
    rw [begins_cons, name] at nameless
    cases nameless

theorem Resettled.operator (settled : Resettled dialect before after token rest shown other)
    (reads : ReadBy dialect before (token.raw ++ rest) token .operator) (rendered : shown = trimEnd token.raw) :
    ReadAgain dialect after .operator shown (shown ++ other) := by
  have kind : token.kind = .operator := reads.kind
  obtain ⟨found, nameless⟩ := reads.operator settled.someRaw
  have visible := reads.visible settled.someRaw (by simp [Rule.rank])
  have shape := operator_raw found (List.prefix_append _ _)
  have written : shown = token.raw := by
    rw [rendered]
    rcases shape with operator | ⟨c, single⟩
    · have every : ∀ operator ∈ operators, trimEnd operator = operator := by decide
      exact every _ operator
    · rw [single] at visible ⊢
      exact trimEnd_of_forall (by simpa using visible)
  rw [← written] at nameless shape
  have nonword := begins_eq_false_of_imp (fun c => dialect.isNameChar_of_isWordChar) nameless
  have notOpening : token.kind ≠ .opening := by simp [kind]
  have kept := settled.operatorExtent notOpening written found
  have someShown : shown ≠ [] := written ▸ settled.someRaw
  refine ReadAgain.of_match? reads.member [] someShown (by rfl) ?_ fun earlier member lower => ?_
  · simp only [Rule.match?, kept]
  · refine settled.passes member (by rw [written]) someShown (reads.failed earlier member lower)
      (settled.single notOpening) ?_ ?_ lower
    · rintro rfl noNumber
      by_cases minus : shown = ['-']
      · rw [minus] at noNumber ⊢
        exact settled.minus minus noNumber
      · exact Dialect.numberExtent?_operator shape nameless minus someShown
    · intro yields
      exact Dialect.words_pass member yields (Or.inl (by rwa [begins_append someShown]))

end QueryLayout
