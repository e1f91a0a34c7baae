import QueryLayout.Proofs.Resettling

namespace QueryLayout

variable {dialect : Dialect} {before after : Option Token} {token : Token} {rest shown other : List Char}

theorem Resettled.word (settled : Resettled dialect before after token rest shown other) {extra : List Char}
    (reads : ReadBy dialect before (token.raw ++ rest) token (.word extra)) (rendered : shown = trimEnd token.raw) :
    ReadAgain dialect after .word shown (shown ++ other) := by
  have kind : token.kind = .word := reads.kind
  obtain ⟨names, ends⟩ := reads.word settled.someRaw
  have written : shown = token.raw := by
    rw [rendered, trimEnd_of_forall fun c member => Dialect.isBlank_of_isNameChar (names c member)]
  have someShown : shown ≠ [] := written ▸ settled.someRaw
  have otherEnds := settled.nameEnds kind
  have single := settled.single (by simp [kind])
  refine ReadAgain.of_match? reads.member [] someShown (by rfl) ?_ fun earlier member lower => ?_
  · rw [Dialect.word_match? reads.member, runLength_append (written ▸ names) otherEnds]
  have failed := reads.failed earlier member lower
  refine settled.passes member (by rw [written]) someShown failed single ?_ ?_
    (Nat.lt_trans lower (by simp [Rule.rank]))
  · rintro rfl noNumber
    exact numberExtent?_name (fun c => dialect.isNameChar_of_isWordChar) dialect.isNameChar_hyphen (written ▸ names)
      someShown ends noNumber otherEnds
  · intro yields
    -- a reserved word would stand in the first text, where only a period keeps it from being read
    cases earlier with
    | reserved reservedClass words =>
      rw [Dialect.reserved_read?_eq_none_iff member] at failed ⊢
      intro word inWords stands
      have entry := Dialect.isEntry_of_mem_reserved member inWords
      exact settled.period kind (failed word inWords (settled.tracks.stands entry stands))
    | bracketWord side words =>
      rw [Dialect.bracketWord_read?_eq_none_iff member]
      intro word inWords stands
      obtain ⟨entry, part, inParts, rfl⟩ := Dialect.bracketWord_of_mem member inWords
      obtain ⟨plain, plainRule, inPlain⟩ := Dialect.bracketPart_reserved inParts
      have noPlain :=
        (Dialect.reserved_read?_eq_none_iff plainRule).mp (reads.failed _ plainRule (by simp [Rule.rank]))
      exact Or.inl (settled.period kind (noPlain [part] inPlain (settled.tracks.stands entry stands)))
    | _ => cases yields

/-- A reserved word has at least two characters, of which the second is no quote. -/
theorem Occurs.second {hyphens : Bool} {phrase : Phrase} {raw : List Char} (occurs : Occurs phrase raw)
    (entry : phrase.isEntry hyphens) :
    ∃ c d rest, raw = c :: d :: rest ∧ isWordChar c ∧ isAsciiDigit c = false ∧ d ≠ '\x27' := by
  have ofPart : ∀ part spelled, isEntryPart hyphens part → Spells part spelled →
      ∃ c d rest, spelled = c :: d :: rest ∧ isWordChar c ∧ isAsciiDigit c = false ∧ d ≠ '\x27' := by
    intro part spelled first spells
    obtain ⟨c, rest, rfl, letter, notDigit⟩ := isEntryPart_begins first spells
    have chars := isEntryPart_chars first spells
    have size := spells.length_eq
    simp only [isEntryPart, Bool.and_eq_true, decide_eq_true_eq] at first
    cases rest with
    | nil =>
      simp only [List.length_singleton] at size
      omega
    | cons d rest =>
      refine ⟨c, d, rest, rfl, letter, notDigit, ?_⟩
      rintro rfl
      have sort := (chars '\x27' (by simp)).2.2
      cases hyphens <;> exact absurd sort (by decide)
  cases occurs with
  | last spells => exact ofPart _ _ (Phrase.isEntry_singleton entry) spells
  | more spells _ _ _ =>
    obtain ⟨c, d, rest, rfl, sort⟩ := ofPart _ _ (Phrase.isEntry_tail entry).1 spells
    exact ⟨c, d, _, rfl, sort⟩

theorem Occurs.trimmed {hyphens : Bool} {phrase : Phrase} {raw : List Char} (occurs : Occurs phrase raw)
    (entry : phrase.isEntry hyphens) : trimEnd raw = raw := by
  obtain ⟨front, c, rfl, letter⟩ := occurs.final entry
  rw [trimEnd_concat, isBlank_eq_false_of_isWordChar letter]
  rfl

/-- The text shows, in upper case, each reserved word that another one spells. -/
def Raises (dialect : Dialect) (raw shown : List Char) : Prop :=
  ∀ word : Phrase, word.isEntry dialect.hyphens → Occurs word raw → Raised word raw shown

theorem raises_upperCase (dialect : Dialect) (raw : List Char) : Raises dialect raw (trimEnd (upperCase raw)) := by
  intro word entry occurs
  have raised := occurs.raised_upperCase entry
  rwa [(raised.occurs entry).2.trimmed entry]

theorem raises_squeeze (dialect : Dialect) (raw : List Char) :
    Raises dialect raw (trimEnd (squeeze (upperCase raw))) := by
  intro word entry occurs
  have raised := (occurs.raised_upperCase entry).squeeze entry
  rwa [(raised.occurs entry).2.trimmed entry]

/-- What a rule for reserved words finds where a token was read, it finds where the token is written. -/
theorem Resettled.wordExtent? (settled : Resettled dialect before after token rest shown other)
    {words : List Phrase} (entries : ∀ word ∈ words, word.isEntry dialect.hyphens)
    (found : wordExtent? words (lastChar before) (token.raw ++ rest) = some token.raw.length)
    (raises : Raises dialect token.raw shown) :
    ∃ word ∈ words, Raised word token.raw shown ∧ begins isWordChar other = false ∧ begins isWordChar shown ∧
      wordExtent? words (lastChar after) (shown ++ other) = some shown.length := by
  obtain ⟨_, earlier, word, later, split, inRaw, failed⟩ := (wordExtent?_eq_some_iff entries).mp found
  have inWords : word ∈ words := by simp [split]
  have entry := entries word inWords
  have raised := raises word entry inRaw
  obtain ⟨_, occurs⟩ := raised.occurs entry
  obtain ⟨front, c, atEnd, letter⟩ := occurs.final entry
  obtain ⟨d, tail, atHead, capital, _⟩ := occurs.first entry
  have ends : begins isWordChar other = false := by
    apply settled.wordEnds
    rw [atEnd]
    simpa using letter
  refine ⟨word, inWords, raised, ends, by rw [atHead]; exact capital, ?_⟩
  refine (wordExtent?_eq_some_iff entries).mpr ⟨ends, earlier, word, later, split, occurs, ?_⟩
  intro another inEarlier stands
  exact failed another inEarlier (settled.tracks.stands (entries another (by simp [split, inEarlier])) stands)

/-- Reserved words that were not read, while no period came before them, are not read where the token is written. -/
theorem Resettled.reserved_fail (settled : Resettled dialect before after token rest shown other)
    {reservedClass : ReservedClass} {words : List Phrase}
    (member : Rule.reserved reservedClass words ∈ dialect.rules)
    (failed : (Rule.reserved reservedClass words).read? before (token.raw ++ rest) = none)
    (free : followsPeriod before = false) :
    (Rule.reserved reservedClass words).read? after (shown ++ other) = none := by
  rw [Dialect.reserved_read?_eq_none_iff member] at failed ⊢
  intro word inWords stands
  have entry := Dialect.isEntry_of_mem_reserved member inWords
  have period := failed word inWords (settled.tracks.stands entry stands)
  rw [free] at period
  cases period

theorem Resettled.bracketWords_fail (settled : Resettled dialect before after token rest shown other)
    {side : BracketSide} {words : List Phrase} (member : Rule.bracketWord side words ∈ dialect.rules)
    (failed : (Rule.bracketWord side words).read? before (token.raw ++ rest) = none)
    (free : followsPeriod before = false) (started : (lastChar before).any isWordChar = false) :
    (Rule.bracketWord side words).read? after (shown ++ other) = none := by
  rw [Dialect.bracketWord_read?_eq_none_iff member] at failed ⊢
  intro word inWords stands
  have entry := (Dialect.bracketWord_of_mem member inWords).1
  rcases failed word inWords (settled.tracks.stands entry stands) with period | inside
  · rw [free] at period
    cases period
  · rw [started] at inside
    cases inside

theorem Resettled.bracketWord (settled : Resettled dialect before after token rest shown other)
    {side : BracketSide} {words : List Phrase}
    (reads : ReadBy dialect before (token.raw ++ rest) token (.bracketWord side words))
    (rendered : shown = trimEnd (upperCase token.raw)) :
    ReadAgain dialect after side.kind shown (shown ++ other) := by
  have kind : token.kind = side.kind := reads.kind
  have bracket : (token.kind = .opening ∨ token.kind = .closing) ∧ token.kind.isUpperCased := by
    rw [kind]
    cases side <;> simp [BracketSide.kind, Kind.isUpperCased]
  have entries : ∀ word ∈ words, word.isEntry dialect.hyphens := Dialect.isEntry_of_mem_words reads.member
  obtain ⟨free, boundary, found⟩ := reads.bracketWord settled.someRaw
  obtain ⟨word, inWords, raised, ends, letter, foundAgain⟩ :=
    settled.wordExtent? entries found (rendered ▸ raises_upperCase dialect token.raw)
  obtain ⟨inRaw, occurs⟩ := raised.occurs (entries word inWords)
  obtain ⟨c, d, tail, split, isWord, notDigit, inner⟩ := occurs.second (entries word inWords)
  have someShown : shown ≠ [] := by simp [split]
  have stands : Stands word (shown ++ other) := ⟨shown, other, rfl, occurs, ends⟩
  have stood := settled.tracks.stands (entries word inWords) stands
  have start : boundaryAt (lastChar after) (shown ++ other) 0 := by
    rw [boundaryAt_zero entries inWords stands, settled.apart bracket.1 letter]
    rfl
  have started : (lastChar before).any isWordChar = false := by
    rw [boundaryAt_zero entries inWords stood] at boundary
    simpa using boundary
  refine ReadAgain.of_match? reads.member [] someShown ?_ ?_ fun earlier member lower => ?_
  · simp [settled.notPeriod bracket.2 letter]
  · simp only [Rule.match?, start, if_true, foundAgain, Option.map_some]
  have low : (Rule.bracketWord side words).rank < 12 := by cases side <;> simp [Rule.rank]
  cases yields : earlier.yieldsToPeriod with
  | false =>
    rw [split]
    exact Dialect.others_pass member isWord notDigit inner yields (by omega)
  | true =>
    cases earlier with
    | bracketWord => exact settled.bracketWords_fail member (reads.failed _ member lower) free started
    | reserved reservedClass others =>
      have high : 11 < (Rule.reserved reservedClass others).rank := by cases reservedClass <;> simp [Rule.rank]
      omega
    | _ => cases yields

/-- The letters of the words for brackets. None of them has a variant that stays as it is in upper case. -/
def bracketLetters : List Char :=
  ['C', 'A', 'S', 'E', 'N', 'D']

theorem raiseCase_bracketLetter {p c : Char} (letter : p ∈ bracketLetters) (same : foldCase p = foldCase c) :
    raiseCase c = p := by
  have entry : ∀ p ∈ bracketLetters, isEntryChar false p := by decide
  have cased := (entryChar_class (entry p letter) same).1
  have every := cased.forall (p := fun c => ∀ p ∈ bracketLetters, foldCase p = foldCase c → raiseCase c = p)
    (by decide +kernel)
  exact every p letter same

theorem raiseCase_bracketPart {part spelled : List Char} (letters : ∀ p ∈ part, p ∈ bracketLetters)
    (spells : Spells part spelled) : spelled.map raiseCase = part := by
  induction spells with
  | nil => rfl
  | cons same _ ih =>
    have first := raiseCase_bracketLetter (letters _ List.mem_cons_self) (by simpa [sameFolded] using same)
    rw [List.map_cons, first, ih fun p member => letters p (List.mem_cons_of_mem _ member)]

theorem raiseCase_entryPart {part : List Char} (entry : isEntryPart false part) : part.map raiseCase = part := by
  have every : ∀ code < 128, isEntryChar false (Char.ofNat code) →
      raiseCase (Char.ofNat code) = Char.ofNat code := by
    decide
  simp only [isEntryPart, Bool.and_eq_true, List.all_eq_true] at entry
  have same : ∀ c ∈ part, raiseCase c = id c := by
    intro c member
    have isEntry := entry.1.1.1 c member
    exact ascii_forall (p := fun c => isEntryChar false c → raiseCase c = c) every (lt_of_isEntryChar isEntry)
      isEntry
  rw [List.map_congr_left same, List.map_id]

/-- Two words that a text begins with are the same one. -/
theorem run_inj {p : Char → Bool} {first second third fourth : List Char} (all : ∀ c ∈ first, p c)
    (ends : begins p third = false) (also : ∀ c ∈ second, p c) (endsToo : begins p fourth = false)
    (split : first ++ third = second ++ fourth) : first = second := by
  have run := runLength_append all ends
  rw [split, runLength_append also endsToo] at run
  exact (List.append_inj split run.symm).1

theorem Dialect.bracketPart_sort {part : List Char} (inParts : part ∈ dialect.bracketParts) :
    dialect.hyphens = false ∧ isEntryPart false part ∧ ∀ p ∈ part, p ∈ bracketLetters := by
  have every : ∀ part ∈ dialect.bracketParts,
      dialect.hyphens = false ∧ isEntryPart false part ∧ ∀ p ∈ part, p ∈ bracketLetters := by
    cases dialect <;> decide
  exact every part inParts

/-- A reserved word that is written where a word for a bracket stands is that word. -/
theorem Dialect.shown_eq_bracketPart {part : List Char} (inParts : part ∈ dialect.bracketParts) {word : Phrase}
    (reserved : dialect.isReservedEntry word) {raw : List Char} (raised : Raised word raw shown)
    (ends : begins isWordChar other = false) (stands : Stands [part] (shown ++ other)) : shown = part := by
  obtain ⟨plain, entryPart, letters⟩ := Dialect.bracketPart_sort inParts
  obtain ⟨entry, single⟩ := Bool.and_eq_true_iff.mp reserved
  rw [plain] at entry
  obtain ⟨spelled, later, split, occurs, laterEnds⟩ := stands
  cases occurs with
  | last spells =>
  have isWord : ∀ {p q : List Char}, isEntryPart false p → Spells p q → ∀ c ∈ q, isWordChar c := by
    intro p q isPart pairs c member
    simpa using (isEntryPart_chars isPart pairs c member).2.2
  cases raised with
  | last pairs =>
    obtain ⟨respelled, capitals⟩ := raiseCase_spelled (Phrase.isEntry_singleton entry) pairs
    have same :=
      run_inj (isWord (Phrase.isEntry_singleton entry) capitals) ends (isWord entryPart spells) laterEnds split
    exact raiseCase_bracketPart letters (forall₂_respells respelled (same ▸ spells))
  | @more front next parts written gap space _ back pairs _ _ isSpace someSpace _ =>
    -- a longer word does not begin with a word for a bracket
    exfalso
    obtain ⟨first, _⟩ := Phrase.isEntry_tail entry
    obtain ⟨respelled, capitals⟩ := raiseCase_spelled first pairs
    have spaceEnds : begins isWordChar (space ++ (back ++ other)) = false := by
      rw [begins_append someSpace]
      exact begins_of_isGap isSpace fun c => isWordChar_eq_false_of_isBlank
    rw [List.append_assoc, List.append_assoc] at split
    have same := run_inj (isWord first capitals) spaceEnds (isWord entryPart spells) laterEnds split
    have whole := raiseCase_bracketPart letters (forall₂_respells respelled (same ▸ spells))
    have front_eq : front.map raiseCase = part := by
      refine raiseCase_bracketPart letters ?_
      rw [whole] at capitals
      refine capitals.flip.imp fun p c same => ?_
      simp only [sameFolded, beq_iff_eq] at same ⊢
      exact same.symm
    rw [raiseCase_entryPart first] at front_eq
    simp [front_eq, inParts] at single

theorem Resettled.reserved (settled : Resettled dialect before after token rest shown other)
    {reservedClass : ReservedClass} {words : List Phrase}
    (reads : ReadBy dialect before (token.raw ++ rest) token (.reserved reservedClass words))
    (raises : Raises dialect token.raw shown) :
    ReadAgain dialect after reservedClass.kind shown (shown ++ other) := by
  have kind : token.kind = reservedClass.kind := reads.kind
  obtain ⟨free, found⟩ := reads.reserved settled.someRaw
  have upper : token.kind.isUpperCased ∧
      (token.kind = .reserved ∨ token.kind = .clause ∨ token.kind = .continuation) := by
    rw [kind]
    cases reservedClass <;> simp [ReservedClass.kind, Kind.isUpperCased]
  have entries : ∀ word ∈ words, word.isEntry dialect.hyphens := Dialect.isEntry_of_mem_words reads.member
  obtain ⟨word, inWords, raised, ends, letter, foundAgain⟩ := settled.wordExtent? entries found raises
  obtain ⟨inRaw, occurs⟩ := raised.occurs (entries word inWords)
  obtain ⟨c, d, tail, split, isWord, notDigit, inner⟩ := occurs.second (entries word inWords)
  have someShown : shown ≠ [] := by simp [split]
  refine ReadAgain.of_match? reads.member [] someShown ?_ ?_ fun earlier member lower => ?_
  · simp [settled.notPeriod upper.1 letter]
  · simp only [Rule.match?, foundAgain, Option.map_some]
  have low : (Rule.reserved reservedClass words).rank < 15 := by cases reservedClass <;> simp [Rule.rank]
  cases yields : earlier.yieldsToPeriod with
  | false =>
    rw [split]
    exact Dialect.others_pass member isWord notDigit inner yields (by omega)
  | true =>
    cases earlier with
    | bracketWord side others =>
      refine (Dialect.bracketWord_read?_eq_none_iff member).mpr fun another inOthers standsToo => ?_
      obtain ⟨_, part, inParts, rfl⟩ := Dialect.bracketWord_of_mem member inOthers
      have reserved := Dialect.isReservedEntry_of_mem reads.member inWords
      rw [Dialect.shown_eq_bracketPart inParts reserved raised ends standsToo] at settled
      exact absurd inParts (settled.notBracket upper.2)
    | reserved => exact settled.reserved_fail member (reads.failed _ member lower) free
    | _ => cases yields

/-- What is read of a token where it is written: a line comment takes the line break along. -/
def reread (kind : Kind) (shown other : List Char) : List Char :=
  if kind = .lineComment then shown ++ other.take 1 else shown

theorem Dialect.upperCase_symbol {side : BracketSide} {c : Char} (member : c ∈ dialect.lexicon.symbols side) :
    trimEnd (upperCase [c]) = [c] := by
  have every : ∀ side ∈ [BracketSide.opening, .closing], ∀ c ∈ dialect.lexicon.symbols side,
      trimEnd (upperCase [c]) = [c] := by
    cases dialect <;> decide
  exact every side side.mem_all c member

/-- A token is read again where it is written, with its kind. -/
theorem Resettled.readAgain (settled : Resettled dialect before after token rest shown other)
    (read : readFirst? dialect.rules before (token.raw ++ rest) = some token) (notBlank : token.kind ≠ .blank)
    {style : Style} {index : Nat} (blankUnit : IsGap style.indentUnit) (absent : style.params = .absent)
    (rendered : Rendered style index token shown) :
    ReadAgain dialect after token.kind (reread token.kind shown other) (shown ++ other) := by
  obtain ⟨rule, reads⟩ := Dialect.readFirst?_eq_some_iff.mp read
  have kind := reads.kind
  have value := Rule.read?_value reads.read
  rw [kind] at value notBlank ⊢
  have plain : style.params.textAt index token = token.value := by
    rw [absent]
    rfl
  unfold Rendered at rendered
  rw [kind, plain, value] at rendered
  cases rule with
  | blank => exact absurd rfl notBlank
  | lineComment => exact settled.lineComment reads rendered
  | blockComment =>
    obtain ⟨depth, rendered⟩ := rendered
    exact settled.blockComment reads (blankUnit.replicate_flatten depth) rendered
  | literal => exact settled.literal reads rendered
  | bracketSymbol side =>
    obtain ⟨c, symbol, raw⟩ := reads.symbol settled.someRaw
    have same : shown = token.raw := by
      have upper := Dialect.upperCase_symbol symbol
      rw [raw] at rendered ⊢
      cases side <;> exact rendered.trans upper
    cases side <;> exact settled.bracketSymbol reads same
  | bracketWord side => cases side <;> exact settled.bracketWord reads rendered
  | namedPlaceholder => exact settled.namedPlaceholder reads rendered
  | quotedPlaceholder => exact settled.quotedPlaceholder reads rendered
  | positionalPlaceholder => exact settled.positionalPlaceholder reads rendered
  | number => exact settled.number reads rendered
  | reserved reservedClass =>
    cases reservedClass with
    | plain => exact settled.reserved reads (rendered ▸ raises_upperCase dialect token.raw)
    | clause | continuation => exact settled.reserved reads (rendered ▸ raises_squeeze dialect token.raw)
  | word => exact settled.word reads rendered
  | operator => exact settled.operator reads rendered

end QueryLayout
