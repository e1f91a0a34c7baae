import QueryLayout.Proofs.Rereading
import QueryLayout.Proofs.Skimming

namespace QueryLayout

/-- The ways in which a visible token can be shown. `symbol` is a bracket of one character, `raised` a
reserved word, `letters` a name or a number that begins like one, and `national` a string such as `N'…'`.
All other tokens begin with a sign that is part of no word. -/
inductive Displayed (dialect : Dialect) (token : Token) (rest : List Char) : List Char → Prop
  | symbol {side c} : c ∈ dialect.lexicon.symbols side → token.kind = side.kind → token.raw = [c] →
      Displayed dialect token rest [c]
  | raised {word shown} : word.isEntry dialect.hyphens → Raised word token.raw shown →
      begins isWordChar rest = false → token.kind.isUpperCased →
      (token.kind = .opening ∨ token.kind = .closing → shown ∈ dialect.bracketParts) →
      Displayed dialect token rest shown
  | letters : token.kind.isUpperCased = false → token.raw ≠ [] → (∀ c ∈ token.raw, isBlank c = false) →
      begins isWordChar rest = false → token.kind = .word ∨ token.raw.getLast?.any isWordChar →
      (begins isAsciiDigit token.raw →
        (token.kind = .number ∧ ∃ whole, PlainNumeral whole token.raw) ∨ RunsIntoWord token.raw) →
      Displayed dialect token rest token.raw
  | national {body shown} : token.kind = .literal → token.raw = 'N' :: '\x27' :: body →
      Displayed dialect token rest ('N' :: '\x27' :: shown)
  | sign {shown} : token.kind.isUpperCased = false → shown ≠ [] → begins isBlank shown = false →
      begins isWordChar token.raw = false → begins isWordChar shown = false →
      Displayed dialect token rest shown

variable {dialect : Dialect} {before : Option Token} {token : Token} {rest shown : List Char}

theorem ReadBy.opener {rule : Rule} {text : List Char} (reads : ReadBy dialect before text token rule)
    (fixed : rule.isFixed) : ∃ opener ∈ rule.openers, opener <+: text := by
  by_contra absent
  push Not at absent
  have failed : rule.read? before text = none :=
    (Rule.read?_eq_none_iff_openers (Dialect.isOpener_of_isFixed reads.member fixed)).mpr absent
  rw [reads.read] at failed
  cases failed

/-- What a rule with fixed beginnings reads begins with one of them. -/
theorem ReadBy.opener_cons {rule : Rule} {c : Char} {tail : List Char}
    (reads : ReadBy dialect before (c :: tail) token rule) (fixed : rule.isFixed) :
    ∃ later, c :: later ∈ rule.openers ∧ later <+: tail := by
  by_contra absent
  push Not at absent
  have failed : rule.read? before (c :: tail) = none := Dialect.fixed_read?_eq_none reads.member fixed absent
  rw [reads.read] at failed
  cases failed

theorem Dialect.national_opener {rule : Rule} (member : rule ∈ dialect.rules)
    (opens : ['N', '\x27'] ∈ rule.openers) : rule = .literal dialect.lexicon.quoteStyles := by
  have every : ∀ rule ∈ dialect.lexicon.table, ['N', '\x27'] ∈ rule.openers →
      rule = .literal dialect.lexicon.quoteStyles := by
    cases dialect <;> decide
  exact every rule (dialect.lexicon.rules_sublist.subset member) opens

/-- What a rule with fixed beginnings reads begins with a sign, except for a national string. -/
theorem ReadBy.nonword_of_isFixed {rule : Rule} {text : List Char} (reads : ReadBy dialect before text token rule)
    (fixed : rule.isFixed) :
    begins isWordChar text = false ∨
      rule = .literal dialect.lexicon.quoteStyles ∧ ['N', '\x27'] <+: text := by
  obtain ⟨opener, opens, starts⟩ := reads.opener fixed
  have safe := Dialect.isSafeOpener_of_mem reads.member opens
  cases opener with
  | nil => cases safe
  | cons c tail =>
    simp only [Dialect.isSafeOpener, Bool.and_eq_true, Bool.or_eq_true, Bool.not_eq_true', beq_iff_eq] at safe
    obtain ⟨later, rfl⟩ := starts
    rcases safe.1.1.2 with nonword | national
    · exact Or.inl nonword
    · rw [national] at opens ⊢
      exact Or.inr ⟨Dialect.national_opener reads.member opens, List.prefix_append _ _⟩

theorem Displayed.of_nonword {rule : Rule} (someRaw : token.raw ≠ [])
    (reads : ReadBy dialect before (token.raw ++ rest) token rule) (high : rule.rank ≠ 0)
    (plain : rule.kind.isUpperCased = false) (nonword : begins isWordChar token.raw = false) :
    Displayed dialect token rest (trimEnd token.raw) := by
  have visible := reads.visible someRaw high
  have kind := reads.kind
  refine .sign (by rwa [kind]) (trimEnd_ne_nil someRaw visible) ?_ nonword ?_
  · rwa [begins_trimEnd visible]
  · rwa [begins_trimEnd visible]

theorem Displayed.of_isFixed {rule : Rule} (someRaw : token.raw ≠ [])
    (reads : ReadBy dialect before (token.raw ++ rest) token rule) (fixed : rule.isFixed)
    (plain : rule.kind.isUpperCased = false) (notLiteral : rule.kind ≠ .literal) :
    Displayed dialect token rest (trimEnd token.raw) := by
  have high : rule.rank ≠ 0 := by
    intro zero
    rw [Rule.rank_eq_zero zero] at fixed
    cases fixed
  refine .of_nonword someRaw reads high plain ?_
  rcases reads.nonword_of_isFixed fixed with nonword | ⟨rfl, _⟩
  · rwa [begins_append someRaw] at nonword
  · exact absurd rfl notLiteral

theorem Displayed.of_literal {styles : List QuoteStyle} (someRaw : token.raw ≠ [])
    (reads : ReadBy dialect before (token.raw ++ rest) token (.literal styles)) :
    Displayed dialect token rest (trimEnd token.raw) := by
  have kind := reads.kind
  obtain ⟨style, _, body, split, _⟩ := literalExtent?_eq_some (reads.literal someRaw)
  by_cases national : style = .national
  · subst style
    have shown : trimEnd token.raw = 'N' :: '\x27' :: trimEnd body := by
      rw [split, trimEnd_append_of_trimmed QuoteStyle.national.trimEnd_opening]
      rfl
    rw [shown]
    exact .national kind split
  · refine .of_nonword someRaw reads (by simp [Rule.rank]) rfl ?_
    have nonword : style ≠ .national → begins isWordChar style.opening = false := by
      cases style <;> decide
    have someOpening : style.opening ≠ [] := by cases style <;> decide
    rw [split, begins_append someOpening]
    exact nonword national

theorem Displayed.of_blockComment (someRaw : token.raw ≠ [])
    (reads : ReadBy dialect before (token.raw ++ rest) token .blockComment) (indent : List Char) :
    Displayed dialect token rest (trimEnd (reindent indent token.raw)) := by
  obtain ⟨body, opens, _⟩ := reads.blockComment someRaw
  have visible : trimEnd ['/', '*'] = ['/', '*'] := by decide
  have shown : trimEnd (reindent indent token.raw) = '/' :: '*' :: trimEnd (reindent indent body) := by
    rw [opens]
    exact trimEnd_append_of_trimmed visible (reindent indent body)
  have slash : isBlank '/' = false ∧ isWordChar '/' = false := by decide
  rw [shown]
  refine .sign (by rw [reads.kind]; rfl) (by simp) slash.1 ?_ slash.2
  rw [opens]
  exact slash.2

theorem Displayed.of_named {marks : List Phrase} (someRaw : token.raw ≠ [])
    (reads : ReadBy dialect before (token.raw ++ rest) token (.namedPlaceholder marks)) :
    Displayed dialect token rest (trimEnd token.raw) := by
  refine .of_nonword someRaw reads (by simp [Rule.rank]) rfl ?_
  obtain ⟨mark, isMark, name, raw, _⟩ := reads.named someRaw
  rw [raw]
  exact (Dialect.mark_sort (List.mem_append_left _ isMark)).1

theorem Displayed.of_number (someRaw : token.raw ≠ [])
    (reads : ReadBy dialect before (token.raw ++ rest) token .number) :
    Displayed dialect token rest (trimEnd token.raw) := by
  have kind := reads.kind
  obtain ⟨whole, numeral, ends, _⟩ := reads.number someRaw
  have letter : token.raw.getLast?.any isWordChar := by
    obtain ⟨front, c, split, letter⟩ := numeral.final
    simpa [split] using letter
  obtain ⟨raw, same⟩ : ∃ raw, token.raw = raw := ⟨_, rfl⟩
  rw [same] at numeral
  have shown : ∀ {digits : List Char}, token.raw = digits → (∀ c ∈ digits, isBlank c = false) →
      ((∃ whole, PlainNumeral whole digits) ∨ RunsIntoWord digits) →
      Displayed dialect token rest (trimEnd token.raw) := by
    rintro digits rfl visible sort
    rw [trimEnd_of_forall visible]
    refine .letters (by rw [kind]; rfl) someRaw visible ends (Or.inr letter) fun _ => ?_
    rcases sort with plain | runs
    · exact Or.inl ⟨kind, plain⟩
    · exact Or.inr runs
  cases numeral with
  | decimal shape => exact shown same shape.visible (Or.inl ⟨whole, shape⟩)
  | negative =>
    refine .of_nonword someRaw reads (by simp [Rule.rank]) rfl ?_
    rw [same]
    exact (show isWordChar '-' = false by decide)
  | hexadecimal digits =>
    have letters := isWordChar_of_based (fun c => isWordChar_of_isHexDigit) (show isWordChar 'x' by decide) digits
    exact shown same (fun c member => isBlank_eq_false_of_isWordChar (letters c member))
      (Or.inr (runsIntoWord_based (by decide) (by decide) _))
  | binary digits =>
    have letters := isWordChar_of_based (fun c => isWordChar_of_isBit) (show isWordChar 'b' by decide) digits
    exact shown same (fun c member => isBlank_eq_false_of_isWordChar (letters c member))
      (Or.inr (runsIntoWord_based (by decide) (by decide) _))

theorem Displayed.of_word {extra : List Char} (someRaw : token.raw ≠ [])
    (reads : ReadBy dialect before (token.raw ++ rest) token (.word extra)) :
    Displayed dialect token rest (trimEnd token.raw) := by
  have kind := reads.kind
  obtain ⟨names, ends⟩ := reads.word someRaw
  have visible : ∀ c ∈ token.raw, isBlank c = false :=
    fun c member => Dialect.isBlank_of_isNameChar (names c member)
  have wordEnds := begins_eq_false_of_imp (fun c => dialect.isNameChar_of_isWordChar) ends
  rw [trimEnd_of_forall visible]
  refine .letters (by rw [kind]; rfl) someRaw visible wordEnds (Or.inl kind) fun digit => Or.inr ?_
  have noNumber := number_read?_eq_none_iff.mp (reads.failed .number dialect.number_mem (by simp [Rule.rank]))
  exact runsIntoWord_of_name (fun c => dialect.isNameChar_of_isWordChar) digit ends noNumber

theorem Displayed.of_operator (someRaw : token.raw ≠ [])
    (reads : ReadBy dialect before (token.raw ++ rest) token .operator) :
    Displayed dialect token rest (trimEnd token.raw) := by
  refine .of_nonword someRaw reads (by simp [Rule.rank]) rfl ?_
  exact begins_eq_false_of_imp (fun c => dialect.isNameChar_of_isWordChar) (reads.operator someRaw).2

theorem Displayed.of_bracketWord {side : BracketSide} {words : List Phrase} (someRaw : token.raw ≠ [])
    (reads : ReadBy dialect before (token.raw ++ rest) token (.bracketWord side words)) :
    Displayed dialect token rest (trimEnd (upperCase token.raw)) := by
  have kind := reads.kind
  obtain ⟨_, ends, word, inWords, occurs⟩ := reads.phrase_mem someRaw rfl
  obtain ⟨entry, part, inParts, rfl⟩ := Dialect.bracketWord_of_mem reads.member inWords
  have raised := raises_upperCase dialect token.raw [part] entry occurs
  have upper : token.kind.isUpperCased := by
    rw [kind]
    cases side <;> rfl
  refine .raised entry raised ends upper fun _ => ?_
  obtain ⟨_, _, letters⟩ := Dialect.bracketPart_sort inParts
  generalize trimEnd (upperCase token.raw) = shown at raised
  cases raised with
  | last spells => rwa [raiseCase_bracketPart letters spells]

theorem Displayed.of_reserved {reservedClass : ReservedClass} {words : List Phrase} (someRaw : token.raw ≠ [])
    (reads : ReadBy dialect before (token.raw ++ rest) token (.reserved reservedClass words))
    (raises : Raises dialect token.raw shown) : Displayed dialect token rest shown := by
  have kind := reads.kind
  obtain ⟨_, ends, word, entry, occurs⟩ := reads.phrase someRaw rfl
  refine .raised entry (raises word entry occurs) ends ?_ fun bracket => ?_
  · rw [kind]
    cases reservedClass <;> rfl
  · rw [kind] at bracket
    cases reservedClass <;> rcases bracket with opening | closing <;> contradiction

/-- Every visible token is shown in one of these ways. -/
theorem Dialect.displayed (read : readFirst? dialect.rules before (token.raw ++ rest) = some token)
    (someRaw : token.raw ≠ []) (notBlank : token.kind ≠ .blank) {style : Style} {index : Nat}
    (absent : style.params = .absent) (rendered : Rendered style index token shown) :
    Displayed dialect token rest shown := by
  obtain ⟨rule, reads⟩ := Dialect.readFirst?_eq_some_iff.mp read
  have kind := reads.kind
  have value := Rule.read?_value reads.read
  have plain : style.params.textAt index token = token.value := by
    rw [absent]
    rfl
  unfold Rendered at rendered
  rw [kind] at value notBlank
  rw [kind, plain, value] at rendered
  cases rule with
  | blank => exact absurd rfl notBlank
  | lineComment => exact rendered ▸ .of_isFixed someRaw reads rfl rfl (by simp [Rule.kind])
  | blockComment =>
    obtain ⟨depth, rfl⟩ := rendered
    exact .of_blockComment someRaw reads _
  | literal => exact rendered ▸ .of_literal someRaw reads
  | bracketSymbol side =>
    obtain ⟨c, symbol, raw⟩ := reads.symbol someRaw
    have upper := Dialect.upperCase_symbol symbol
    rw [← raw] at upper
    have same : shown = [c] := by
      rw [← raw, ← upper]
      cases side <;> exact rendered
    exact same ▸ .symbol symbol kind raw
  | bracketWord side => cases side <;> exact rendered ▸ .of_bracketWord someRaw reads
  | namedPlaceholder => exact rendered ▸ .of_named someRaw reads
  | quotedPlaceholder | positionalPlaceholder =>
    exact rendered ▸ .of_isFixed someRaw reads rfl rfl (by simp [Rule.kind])
  | number => exact rendered ▸ .of_number someRaw reads
  | reserved reservedClass =>
    cases reservedClass with
    | plain => exact .of_reserved someRaw reads (rendered ▸ raises_upperCase dialect token.raw)
    | clause | continuation => exact .of_reserved someRaw reads (rendered ▸ raises_squeeze dialect token.raw)
  | word => exact rendered ▸ .of_word someRaw reads
  | operator => exact rendered ▸ .of_operator someRaw reads

section Derived

variable (displayed : Displayed dialect token rest shown)

include displayed

theorem Displayed.visible : shown ≠ [] ∧ begins isBlank shown = false := by
  cases displayed with
  | symbol symbol => exact ⟨by simp, (Dialect.symbol_sort symbol).2.1⟩
  | raised entry raised =>
    obtain ⟨c, tail, rfl, letter, _⟩ := (raised.occurs entry).2.first entry
    exact ⟨by simp, isBlank_eq_false_of_isWordChar letter⟩
  | letters _ someRaw visible =>
    obtain ⟨c, tail, split⟩ := List.exists_cons_of_ne_nil someRaw
    exact ⟨someRaw, by rw [split]; exact visible c (by simp [split])⟩
  | national => exact ⟨by simp, show isBlank 'N' = false by decide⟩
  | sign _ someShown visible => exact ⟨someShown, visible⟩

/-- A token begins with a word character where it is written if it did so where it was read. -/
theorem Displayed.begins_isWordChar : begins isWordChar shown = begins isWordChar token.raw := by
  cases displayed with
  | symbol _ _ raw => rw [raw]
  | raised entry raised =>
    obtain ⟨inRaw, inShown⟩ := raised.occurs entry
    obtain ⟨c, _, atRaw, letter, _⟩ := inRaw.first entry
    obtain ⟨d, _, atShown, capital, _⟩ := inShown.first entry
    rw [atRaw, atShown, begins_cons, begins_cons, letter, capital]
  | letters => rfl
  | national _ raw => rw [raw]; rfl
  | sign _ _ _ nonword shownNonword => rw [nonword, shownNonword]

/-- A bracket is shown as a symbol or as a word for a bracket. -/
theorem Displayed.symbol_or_part (bracket : token.kind = .opening ∨ token.kind = .closing) :
    (∃ side, ∃ c ∈ dialect.lexicon.symbols side, shown = [c]) ∨ shown ∈ dialect.bracketParts := by
  have ofUpper : token.kind.isUpperCased = false → False := by
    rcases bracket with kind | kind <;> simp [kind, Kind.isUpperCased]
  cases displayed with
  | @symbol side c symbol => exact Or.inl ⟨side, c, symbol, rfl⟩
  | raised _ _ _ _ part => exact Or.inr (part bracket)
  | letters plain => exact absurd plain ofUpper
  | national kind => rw [kind] at bracket; simp at bracket
  | sign plain => exact absurd plain ofUpper

theorem Displayed.bracket (bracket : token.kind = .opening ∨ token.kind = .closing) :
    begins dialect.isInert shown ∧ begins (· == ':') shown = false ∧ begins (· == '.') shown = false := by
  rcases displayed.symbol_or_part bracket with ⟨side, c, symbol, rfl⟩ | part
  · have every : ∀ side ∈ [BracketSide.opening, .closing], ∀ c ∈ dialect.lexicon.symbols side,
        dialect.isInert c ∧ (c == ':') = false ∧ (c == '.') = false := by
      cases dialect <;> decide
    exact every side side.mem_all c symbol
  · have every : ∀ part ∈ dialect.bracketParts, begins dialect.isInert part ∧ begins (· == ':') part = false ∧
        begins (· == '.') part = false := by
      cases dialect <;> decide
    exact every _ part

theorem Displayed.bracketPart (bracket : token.kind = .opening ∨ token.kind = .closing)
    (letter : begins isWordChar shown) : shown ∈ dialect.bracketParts := by
  rcases displayed.symbol_or_part bracket with ⟨side, c, symbol, rfl⟩ | part
  · rw [begins_cons, (Dialect.symbol_sort symbol).1] at letter
    cases letter
  · exact part

theorem Displayed.digit (digit : begins isAsciiDigit shown) :
    shown = token.raw ∧ begins isWordChar rest = false ∧
      ((token.kind = .number ∧ ∃ whole, PlainNumeral whole shown) ∨ RunsIntoWord shown) := by
  cases displayed with
  | symbol symbol =>
    have nonword := (Dialect.symbol_sort symbol).1
    rw [isWordChar_of_isAsciiDigit digit] at nonword
    cases nonword
  | raised entry raised =>
    obtain ⟨c, tail, rfl, _, notDigit⟩ := (raised.occurs entry).2.first entry
    rw [begins_cons, notDigit] at digit
    cases digit
  | letters _ _ _ ends _ sort => exact ⟨rfl, ends, sort digit⟩
  | national => exact absurd digit (show ¬ isAsciiDigit 'N' by decide)
  | sign _ _ _ _ nonword =>
    rw [begins_eq_false_of_imp (fun c => isWordChar_of_isAsciiDigit) nonword] at digit
    cases digit

/-- Where no decimal number was read, none is read where the token is written. -/
theorem Displayed.decimalExtent? (none : decimalExtent? (token.raw ++ rest) = none) (other : List Char) :
    QueryLayout.decimalExtent? (shown ++ other) = Option.none := by
  by_cases digit : begins isAsciiDigit shown
  · obtain ⟨same, ends, ⟨_, whole, shape⟩ | runs⟩ := displayed.digit digit
    · rw [← same] at none
      exact absurd none (shape.decimalExtent?_ne_none ends)
    · exact runs.decimalExtent? other
  · refine decimalExtent?_eq_none ?_
    rw [begins_append displayed.visible.1]
    simpa using digit

/-- A token leads on from what follows it, in both places where it stands. -/
theorem Displayed.tracks {other : List Char}
    (follows : begins isWordChar shown → begins isWordChar rest = false →
      token.kind = .word ∨ shown.getLast?.any isWordChar → Follows dialect.hyphens rest other) :
    Tracks dialect.hyphens (token.raw ++ rest) (shown ++ other) := by
  have someShown := displayed.visible.1
  by_cases letter : begins isWordChar shown
  · cases displayed with
    | symbol symbol =>
      rw [begins_cons, (Dialect.symbol_sort symbol).1] at letter
      cases letter
    | raised entry raised ends =>
      obtain ⟨front, c, split, final⟩ := (raised.occurs entry).2.final entry
      exact raised.tracks entry (follows letter ends (Or.inr (by simpa [split] using final)))
    | letters _ _ visible ends final =>
      refine (follows letter ends final).tracks (List.forall₂_same.mpr fun c member => ?_)
      exact ⟨rfl, rfl, visible c member, visible c member⟩
    | @national body shown _ raw =>
      have quote : isWordChar '\x27' = false ∧ isBlank '\x27' = false := by decide
      have initial : List.Forall₂ Respells ['N'] ['N'] :=
        .cons ⟨rfl, rfl, by decide, by decide⟩ .nil
      rw [raw]
      show Tracks _ (['N'] ++ '\x27' :: (body ++ rest)) (['N'] ++ '\x27' :: (shown ++ other))
      refine .last initial quote.1 ?_ ?_
      · simp [quote.1]
      · rw [List.dropWhile_cons_of_neg (by simp [quote.2])]
        exact quote.1
    | sign _ _ _ _ nonword =>
      rw [nonword] at letter
      cases letter
  · refine .stop ?_
    rw [begins_append someShown]
    simpa using letter

end Derived

/-- A period is its own value, by whatever rule it is read. -/
theorem ReadBy.value_of_period {rule : Rule} {text : List Char} (reads : ReadBy dialect before text token rule)
    (period : token.raw = ['.']) : token.value = ['.'] := by
  rw [Rule.read?_value reads.read, period, show upperCase ['.'] = ['.'] by decide, ite_self]

section Values

variable {rule : Rule} (reads : ReadBy dialect before (token.raw ++ rest) token rule) (someRaw : token.raw ≠ [])

include reads someRaw

/-- The value of a bracket or a reserved word begins visibly, and not with a period. -/
theorem ReadBy.value_begins (upper : token.kind.isUpperCased) :
    ∃ c tail, token.value = c :: tail ∧ isBlank c = false ∧ c ≠ '.' := by
  have value := Rule.read?_value reads.read
  rw [if_pos upper] at value
  rw [reads.kind] at upper
  cases rule with
  | bracketSymbol side =>
    obtain ⟨c, symbol, raw⟩ := reads.symbol someRaw
    obtain ⟨_, visible, notPeriod⟩ := Dialect.symbol_sort symbol
    obtain ⟨gap, _, split⟩ := trimEnd_append_gap (upperCase [c])
    rw [Dialect.upperCase_symbol symbol] at split
    rw [raw, split] at value
    exact ⟨c, gap, value, visible, notPeriod⟩
  | bracketWord | reserved =>
    obtain ⟨word, entry, raised⟩ := reads.raised someRaw rfl
    obtain ⟨c, tail, split, letter, _⟩ := (raised.occurs entry).2.first entry
    exact ⟨c, tail, split, isBlank_eq_false_of_isWordChar letter, not_period_of_isWordChar letter⟩
  | _ => cases upper

/-- The value of a visible token begins visibly. -/
theorem ReadBy.value_visible (notBlank : token.kind ≠ .blank) :
    token.value ≠ [] ∧ begins isBlank token.value = false := by
  cases upper : token.kind.isUpperCased with
  | true =>
    obtain ⟨c, tail, split, visible, _⟩ := reads.value_begins someRaw upper
    rw [split]
    exact ⟨by simp, visible⟩
  | false =>
    have visible := Lexicon.visible_of_readFirst? reads.first notBlank
    rw [begins_append someRaw] at visible
    rw [reads.value_raw upper]
    exact ⟨someRaw, visible⟩

/-- Only a name or an operator can be a single period. -/
theorem ReadBy.value_period (period : token.value = ['.']) :
    token.raw = ['.'] ∧ (token.kind = .operator ∨ token.kind = .word) := by
  cases upper : token.kind.isUpperCased with
  | true =>
    obtain ⟨c, tail, split, _, notPeriod⟩ := reads.value_begins someRaw upper
    rw [period] at split
    exact absurd (List.cons.inj split).1.symm notPeriod
  | false =>
    have value := reads.value_raw upper
    rw [period] at value
    refine ⟨value.symm, ?_⟩
    rw [reads.kind] at upper ⊢
    have fixed : rule.isFixed → False := by
      intro fixed
      rw [← value] at reads
      obtain ⟨later, opens, _⟩ := reads.opener_cons fixed
      have every : ∀ rule ∈ dialect.lexicon.table, ∀ opener ∈ rule.openers, begins (· == '.') opener = false := by
        cases dialect <;> decide
      cases every rule (dialect.lexicon.rules_sublist.subset reads.member) _ opens
    cases rule with
    | operator => exact Or.inl rfl
    | word => exact Or.inr rfl
    | blank =>
      have gap := (reads.blank someRaw).1
      rw [← value] at gap
      exact absurd (isGap_cons.mp gap).1 (by decide)
    | number =>
      obtain ⟨_, numeral, _⟩ := reads.number someRaw
      rw [← value] at numeral
      exact absurd numeral.head (by decide)
    | namedPlaceholder =>
      obtain ⟨mark, isMark, name, raw, _⟩ := reads.named someRaw
      rw [← value] at raw
      exact absurd (List.cons.inj raw).1.symm (Dialect.mark_sort (List.mem_append_left _ isMark)).2.2
    | bracketWord side | bracketSymbol side => cases side <;> cases upper
    | reserved reservedClass => cases reservedClass <;> cases upper
    | _ => exact absurd rfl fixed

theorem ReadBy.value_semicolon (word : token.kind = .word) : token.value ≠ [';'] := by
  intro semicolon
  have value := reads.value_raw (word ▸ rfl)
  cases reads.ofKind word
  have names := (reads.word someRaw).1
  rw [← value, semicolon] at names
  have nameless : dialect.isNameChar ';' = false := by cases dialect <;> decide
  rw [names ';' List.mem_cons_self] at nameless
  cases nameless

end Values

end QueryLayout
