import QueryLayout.Proofs.Reproduction

namespace QueryLayout

/-- Pieces whose text is read as the tokens they show. `blanks` is the part of the next gap that a token
takes along, and `space` what is left of the gap. -/
inductive Echoed (dialect : Dialect) : Option Token → List Piece → Prop
  | done {after} : Echoed dialect after []
  | next {after piece again blanks space later} : again.kind = piece.token.kind →
      again.raw = piece.text ++ blanks → IsGap blanks → IsGap space →
      Piece.join later = blanks ++ (space ++ Piece.output later) →
      readFirst? dialect.rules after (again.raw ++ (space ++ Piece.output later)) = some again →
      Echoed dialect (across space (some again)) later →
      Echoed dialect after (piece :: later)

theorem Piece.Distinct.visible {piece : Piece} (distinct : piece.Distinct) (later : List Piece) :
    begins isBlank (Piece.output (piece :: later)) = false := by
  rw [Piece.output, begins_append distinct.2.1]
  exact distinct.2.2

variable {dialect : Dialect} {pieces : List Piece}

theorem Skims.front {before : Option Token} {text : List Char} {token : Token} {tokens : List Token}
    (skims : Skims dialect.rules before text (token :: tokens)) :
    ∃ gap visible, text = gap ++ visible ∧ IsGap gap ∧ begins isBlank visible = false := by
  cases skims with
  | next isGap _ notBlank read _ => exact ⟨_, _, rfl, isGap, Lexicon.visible_of_readFirst? read notBlank⟩

theorem Skims.echoed {tokens : List Token} {prev : Option Token} {gap : List Char} (blank : IsGap gap)
    (skims : Skims dialect.rules prev (gap ++ Piece.output pieces) tokens)
    (reproduced : List.Forall₂ Reproduces pieces tokens) (distinct : ∀ piece ∈ pieces, piece.Distinct) :
    Echoed dialect (across gap prev) pieces := by
  induction reproduced generalizing prev gap with
  | nil => exact .done
  | @cons piece again later tokens first rest ih =>
    have atFirst := distinct piece List.mem_cons_self
    obtain ⟨kind, text⟩ := first
    generalize whole : gap ++ Piece.output (piece :: later) = shown at skims
    cases skims with
    | @next _ front _ after _ isFront someRaw notBlank read skims =>
      have visible := Lexicon.visible_of_readFirst? read notBlank
      obtain ⟨rfl, split⟩ := gap_append_inj whole blank isFront (atFirst.visible later) visible
      obtain ⟨blanks, isBlanks, raw⟩ := trimEnd_append_gap again.raw
      rw [text] at raw
      rw [raw, Piece.output, List.append_assoc] at split
      have left := List.append_cancel_left split
      cases rest with
      | nil =>
        obtain ⟨rfl, rfl⟩ := List.append_eq_nil_iff.mp left.symm
        exact .next kind raw isGap_nil isGap_nil rfl read .done
      | @cons next other more tokens =>
        have atNext := distinct next (by simp)
        obtain ⟨space, visible, rfl, isSpace, shows⟩ := skims.front
        have cut := left
        rw [Piece.join_eq_output, ← List.append_assoc] at cut
        obtain ⟨_, rfl⟩ := gap_append_inj cut atNext.1 (isGap_append.mpr ⟨isBlanks, isSpace⟩)
          (atNext.visible more) shows
        refine .next kind raw isBlanks isSpace left read (ih isSpace skims fun piece member => ?_)
        exact distinct piece (List.mem_cons_of_mem _ member)

section Readers

variable {before : Option Token} {token : Token} {rest : List Char} {rule : Rule} (someRaw : token.raw ≠ [])
  (reads : ReadBy dialect before (token.raw ++ rest) token rule)

include someRaw reads

theorem ReadBy.upper_word (upper : token.kind.isUpperCased) (letter : begins isWordChar token.raw) :
    followsPeriod before = false ∧ begins isWordChar rest = false := by
  obtain ⟨free, ends, _⟩ := reads.phrase someRaw (reads.yields_of_letter someRaw upper letter)
  exact ⟨free, ends⟩

/-- A word for a bracket is read only where a word begins. -/
theorem ReadBy.bracket_word (bracket : token.kind = .opening ∨ token.kind = .closing)
    (letter : begins isWordChar token.raw) : (lastChar before).any isWordChar = false := by
  have upper : token.kind.isUpperCased := by rcases bracket with kind | kind <;> rw [kind] <;> rfl
  have yields := reads.yields_of_letter someRaw upper letter
  rw [reads.kind] at bracket
  cases rule with
  | bracketWord side words =>
    obtain ⟨_, boundary, _⟩ := reads.bracketWord someRaw
    obtain ⟨c, tail, raw⟩ := List.exists_cons_of_ne_nil someRaw
    rw [raw] at boundary letter
    have word : isWordChar c := letter
    simpa [boundaryAt, isBoundary, word] using boundary
  | reserved reservedClass => cases reservedClass <;> rcases bracket with kind | kind <;> cases kind
  | _ => cases yields

/-- An opening bracket that ends in a word character is a word. -/
theorem ReadBy.bracket_last (bracket : token.kind = .opening ∨ token.kind = .closing)
    (last : token.raw.getLast?.any isWordChar) : begins isWordChar token.raw := by
  rcases reads.bracket someRaw bracket with ⟨side, c, symbol, raw⟩ | yields
  · rw [raw] at last
    simp [(Dialect.symbol_sort symbol).1] at last
  · exact reads.phrase_begins someRaw yields

theorem ReadBy.name_ends (word : token.kind = .word) : begins dialect.isNameChar rest = false := by
  cases reads.ofKind word
  exact (reads.word someRaw).2

/-- No rule before that for placeholders with names reads what begins with their mark. -/
theorem ReadBy.rank_of_mark {mark : Char} {name : List Char} (isMark : mark ∈ dialect.marks)
    (raw : token.raw = mark :: name) : 8 ≤ rule.rank := by
  obtain ⟨nonword, visible, _⟩ := Dialect.mark_sort (List.mem_append_left _ isMark)
  by_contra above
  have low : rule.rank < 8 := by omega
  have fixed : rule.isFixed → False := by
    intro fixed
    rw [raw] at reads
    obtain ⟨later, opens, _⟩ := reads.opener_cons fixed
    have every : ∀ rule ∈ dialect.lexicon.table, rule.rank < 8 → ∀ opener ∈ rule.openers, ∀ mark ∈ dialect.marks,
        begins (· == mark) opener = false := by
      cases dialect <;> decide
    have other := every rule (dialect.lexicon.rules_sublist.subset reads.member) low _ opens mark isMark
    simp at other
  cases rule with
  | blank =>
    have gap := (reads.blank someRaw).1
    rw [raw] at gap
    rw [(isGap_cons.mp gap).1] at visible
    cases visible
  | bracketWord side =>
    have letter := reads.phrase_begins someRaw rfl
    rw [raw, begins_cons, nonword] at letter
    cases letter
  | reserved reservedClass => cases reservedClass <;> simp [Rule.rank] at low
  | namedPlaceholder | quotedPlaceholder | positionalPlaceholder | number | word | operator =>
    simp [Rule.rank] at low
  | _ => exact fixed rfl

/-- Whatever begins like a placeholder is read as far as its name reaches. -/
theorem ReadBy.key_ends (key : dialect.opensKey token.raw) : begins isKeyChar rest = false := by
  obtain ⟨mark, name, raw⟩ := List.exists_cons_of_ne_nil someRaw
  rw [raw] at key
  simp only [Dialect.opensKey, Bool.and_eq_true, List.contains_iff_mem, List.all_eq_true] at key
  obtain ⟨isMark, keys⟩ := key
  by_contra isKey
  have keyed : begins isKeyChar (name ++ rest) := by
    cases name with
    | nil => simpa using isKey
    | cons c name => exact keys c List.mem_cons_self
  rcases (reads.rank_of_mark someRaw isMark raw).eq_or_lt with same | high
  · cases rule with
    | namedPlaceholder =>
      obtain ⟨_, _, _, _, _, _, ends⟩ := reads.named someRaw
      exact isKey ends
    | bracketSymbol side | bracketWord side => cases side <;> simp [Rule.rank] at same
    | reserved reservedClass => cases reservedClass <;> simp [Rule.rank] at same
    | _ => simp [Rule.rank] at same
  · have member := Dialect.named_mem isMark
    have failed := reads.failed _ member high
    rw [raw, List.cons_append, Dialect.named_read?_eq_none_iff member] at failed
    rw [failed isMark] at keyed
    cases keyed

/-- A colon by itself is an operator, or it is read by a rule with fixed beginnings. -/
theorem ReadBy.colon_sort (colon : token.raw = [':']) : rule.isFixed ∨ rule = .operator := by
  have nonword : isWordChar ':' = false := by decide
  cases rule with
  | blank =>
    have gap := (reads.blank someRaw).1
    rw [colon] at gap
    exact absurd (isGap_cons.mp gap).1 (by decide)
  | bracketWord | reserved =>
    have letter := reads.phrase_begins someRaw rfl
    rw [colon, begins_cons, nonword] at letter
    cases letter
  | namedPlaceholder =>
    obtain ⟨mark, _, name, raw, someName, _⟩ := reads.named someRaw
    rw [colon] at raw
    exact absurd (List.cons.inj raw).2.symm someName
  | number =>
    obtain ⟨_, numeral, _⟩ := reads.number someRaw
    rw [colon] at numeral
    exact absurd numeral.head (by decide)
  | word =>
    have name := (reads.word someRaw).1 ':' (by simp [colon])
    have nameless : dialect.isNameChar ':' = false := by cases dialect <;> decide
    rw [name] at nameless
    cases nameless
  | operator => exact Or.inr rfl
  | _ => exact Or.inl rfl

theorem ReadBy.colon_ends (colon : token.raw = [':']) : begins (· == ':') rest = false := by
  by_contra again
  obtain ⟨tail, rfl⟩ : ∃ tail, rest = ':' :: tail := by
    cases rest with
    | nil => simp at again
    | cons c tail => exact ⟨tail, by simpa using again⟩
  rcases reads.colon_sort someRaw colon with fixed | rfl
  · rw [colon] at reads
    obtain ⟨later, opens, within⟩ := reads.opener_cons fixed
    have every : ∀ rule ∈ dialect.lexicon.table, ∀ opener ∈ rule.openers,
        begins (· != ':') opener ∨ begins (· != ':') opener.tail := by
      cases dialect <;> decide
    have other := every rule (dialect.lexicon.rules_sublist.subset reads.member) _ opens
    cases later with
    | nil => simp at other
    | cons d later =>
      obtain ⟨rfl, _⟩ := List.cons_prefix_cons.mp within
      simp at other
  · have found := (reads.operator someRaw).1
    rw [colon] at found
    cases found

end Readers

/-- Words that are read one right after the other are not glued together. -/
theorem Joined.words_apart {first second : Piece} {after : Option Token} {again next : Token} {rest : List Char}
    {rule nextRule : Rule} (joined : Joined first second) (tight : second.gap = [])
    (kind : again.kind = first.token.kind) (raw : again.raw = first.text) (someRaw : again.raw ≠ [])
    (reads : ReadBy dialect after (again.raw ++ (next.raw ++ rest)) again rule)
    (nextKind : next.kind = second.token.kind) (someNext : next.raw ≠ [])
    (start : begins isWordChar next.raw = begins isWordChar second.text)
    (readsNext : ReadBy dialect (some again) (next.raw ++ rest) next nextRule)
    (last : again.raw.getLast?.any isWordChar) : begins isWordChar second.text = false := by
  by_contra letter
  have letter : begins isWordChar second.text := by simpa using letter
  rcases joined.tight tight with (mark | bracket) | opening | period
  · have every : ∀ mark ∈ [[','], [':'], ['.']], begins isWordChar mark = false := by decide
    rw [every _ mark] at letter
    cases letter
  · have apart := readsNext.bracket_word someNext (nextKind ▸ bracket) (start ▸ letter)
    have inside : (lastChar (some again)).any isWordChar := last
    rw [apart] at inside
    cases inside
  · have bracket : again.kind = .opening ∨ again.kind = .closing := Or.inl (kind.trans opening)
    have upper : again.kind.isUpperCased := by
      rw [kind, opening]
      rfl
    have ends := (reads.upper_word someRaw upper (reads.bracket_last someRaw bracket last)).2
    rw [begins_append someNext, start, letter] at ends
    cases ends
  · rw [raw, period] at last
    exact absurd last (show ¬ isWordChar '.' by decide)

/-- Two pieces that are read one right after the other have not fused. -/
theorem Joined.apart {first second : Piece} {after : Option Token} {again next : Token} {blanks rest : List Char}
    (joined : Joined first second) (tight : second.gap = []) (distinct : second.Distinct)
    (kind : again.kind = first.token.kind) (raw : again.raw = first.text) (someRaw : again.raw ≠ [])
    (read : readFirst? dialect.rules after (again.raw ++ (next.raw ++ rest)) = some again)
    (nextKind : next.kind = second.token.kind) (nextRaw : next.raw = second.text ++ blanks)
    (readNext : readFirst? dialect.rules (some again) (next.raw ++ rest) = some next) :
    dialect.Apart first second := by
  obtain ⟨rule, reads⟩ := Dialect.readFirst?_eq_some_iff.mp read
  obtain ⟨nextRule, readsNext⟩ := Dialect.readFirst?_eq_some_iff.mp readNext
  have someText := distinct.2.1
  have someNext : next.raw ≠ [] := by simp [nextRaw, someText]
  have sameStart : ∀ p : Char → Bool, begins p next.raw = begins p second.text := by
    intro p
    rw [nextRaw, begins_append someText]
  have following : ∀ p : Char → Bool, begins p (next.raw ++ rest) = begins p second.text := by
    intro p
    rw [begins_append someNext, sameStart]
  refine ⟨fun last => ?_, fun word => ?_, fun key => ?_, fun colon second => ?_, fun period upper => ?_⟩
  · rw [← raw] at last
    exact joined.words_apart tight kind raw someRaw reads nextKind someNext (sameStart _) readsNext last
  · have ends := reads.name_ends someRaw (kind.trans word)
    rwa [following] at ends
  · rw [← raw] at key
    have ends := reads.key_ends someRaw key
    rwa [following] at ends
  · have ends := reads.colon_ends someRaw (raw.trans colon)
    rw [following, second] at ends
    cases ends
  · by_contra letter
    have letter : begins isWordChar second.text := by simpa using letter
    have free := (readsNext.upper_word someNext (nextKind ▸ upper) (sameStart _ ▸ letter)).1
    simp [followsPeriod, reads.value_of_period (raw.trans period)] at free

theorem Piece.gap_eq {next : Piece} {more : List Piece} {blanks space : List Char}
    (split : Piece.join (next :: more) = blanks ++ (space ++ Piece.output (next :: more))) :
    next.gap = blanks ++ space := by
  rw [Piece.join_eq_output, ← List.append_assoc] at split
  exact List.append_cancel_right split

theorem Echoed.pairs {after : Option Token} (echoed : Echoed dialect after pieces) (chain : pieces.IsChain Joined)
    (distinct : ∀ piece ∈ pieces, piece.Distinct) :
    pieces.IsChain fun first second => second.gap = [] → dialect.fuses first second = false := by
  induction echoed with
  | done => exact .nil
  | @next after first again blanks space later kind raw _ _ split read echoed ih =>
    have later := ih chain.tail fun piece member => distinct piece (List.mem_cons_of_mem _ member)
    cases echoed with
    | done => exact .singleton _
    | @next _ second next others left more nextKind nextRaw _ _ nextSplit readNext _ =>
      refine .cons_cons (fun tight => ?_) later
      have gap := Piece.gap_eq split
      rw [tight] at gap
      obtain ⟨rfl, rfl⟩ := List.append_eq_nil_iff.mp gap.symm
      rw [List.append_nil] at raw
      have someRaw : again.raw ≠ [] := by
        rw [raw]
        exact (distinct first List.mem_cons_self).2.1
      have shown : Piece.output (second :: more) = next.raw ++ (left ++ Piece.output more) := by
        rw [Piece.output, nextSplit, nextRaw, List.append_assoc]
      rw [List.nil_append, shown] at read
      exact Dialect.fuses_eq_false_iff.mpr ((chain.rel_head? rfl).apart tight (distinct second (by simp)) kind raw
        someRaw read nextKind nextRaw readNext)

theorem Dialect.bracketPart_rule {part : List Char} (inParts : part ∈ dialect.bracketParts) :
    ∃ side words, Rule.bracketWord side words ∈ dialect.rules ∧ [part] ∈ words := by
  have every : ∀ part ∈ dialect.bracketParts, ∃ side ∈ [BracketSide.opening, .closing],
      [part] ∈ phrases (dialect.lexicon.bracketWords side) ∧ dialect.lexicon.bracketWords side ≠ [] := by
    cases dialect <;> decide
  obtain ⟨side, _, inWords, some⟩ := every part inParts
  refine ⟨side, phrases (dialect.lexicon.bracketWords side), ?_, inWords⟩
  cases side with
  | opening | closing =>
    simp only [Lexicon.bracketWords, Lexicon.brackets] at some
    simp [Dialect.rules, Lexicon.rules, bracketRules, unlessEmpty, Lexicon.bracketWords, Lexicon.brackets, some]

/-- Where a reserved word is read as such, no word for a bracket stands. -/
theorem ReadBy.not_stands {before : Option Token} {token : Token} {rest : List Char} {rule : Rule}
    (reads : ReadBy dialect before (token.raw ++ rest) token rule) (someRaw : token.raw ≠ [])
    (kind : token.kind ∈ [.reserved, .clause, .continuation])
    (start : begins isWordChar token.raw → (lastChar before).any isWordChar = false) {part : List Char}
    (inParts : part ∈ dialect.bracketParts) : ¬ Stands [part] (token.raw ++ rest) := by
  intro stands
  obtain ⟨reservedClass, words, rfl⟩ := Rule.exists_reserved_of_kind (reads.kind ▸ kind)
  obtain ⟨free, _⟩ := reads.phrase someRaw rfl
  have letter := reads.phrase_begins someRaw rfl
  obtain ⟨side, brackets, member, inBrackets⟩ := Dialect.bracketPart_rule inParts
  have lower : (Rule.bracketWord side brackets).rank < (Rule.reserved reservedClass words).rank := by
    cases side <;> cases reservedClass <;> simp [Rule.rank]
  have failed := (Dialect.bracketWord_read?_eq_none_iff member).mp (reads.failed _ member lower)
  rcases failed [part] inBrackets stands with period | inside
  · rw [free] at period
    cases period
  · rw [start letter] at inside
    cases inside

/-- A word for a bracket stands where it is read together with blanks. -/
theorem ReadBy.stands_self {before : Option Token} {token : Token} {rest shown blanks : List Char} {rule : Rule}
    (reads : ReadBy dialect before (token.raw ++ rest) token rule) (someRaw : token.raw ≠ [])
    (kind : token.kind ∈ [.reserved, .clause, .continuation]) (raw : token.raw = shown ++ blanks)
    (isBlanks : IsGap blanks) : Stands [shown] (token.raw ++ rest) := by
  obtain ⟨reservedClass, words, rfl⟩ := Rule.exists_reserved_of_kind (reads.kind ▸ kind)
  obtain ⟨_, ends, word, entry, occurs⟩ := reads.phrase someRaw rfl
  have same : token.raw = shown := by
    have trimmed := occurs.trimmed entry
    obtain ⟨gap, _, split⟩ := trimEnd_append_gap shown
    rw [raw, isBlanks.trimEnd_append] at trimmed
    nth_rewrite 2 [split] at trimmed
    rw [List.append_assoc, List.self_eq_append_right] at trimmed
    rw [raw, (List.append_eq_nil_iff.mp trimmed).2, List.append_nil]
  refine ⟨token.raw, rest, rfl, ?_, ends⟩
  rw [same]
  exact .last (List.forall₂_same.mpr fun c _ => by simp [sameFolded])

theorem Echoed.brackets {after : Option Token} (echoed : Echoed dialect after pieces)
    (pairs : pieces.IsChain fun first second => second.gap = [] → dialect.fuses first second = false)
    (distinct : ∀ piece ∈ pieces, piece.Distinct)
    (start : ∀ piece ∈ pieces.head?, begins isWordChar piece.text → (lastChar after).any isWordChar = false) :
    ∀ piece ∈ pieces, piece.token.kind ∈ [.reserved, .clause, .continuation] →
      piece.text ∉ dialect.bracketParts := by
  induction echoed with
  | done => simp
  | @next after first again blanks space later kind raw isBlanks isSpace split read _ ih =>
    have someText := (distinct first List.mem_cons_self).2.1
    intro piece member
    rcases List.mem_cons.mp member with rfl | member
    · intro sort inParts
      obtain ⟨rule, reads⟩ := Dialect.readFirst?_eq_some_iff.mp read
      have someRaw : again.raw ≠ [] := by simp [raw, someText]
      have stands := reads.stands_self someRaw (kind ▸ sort) raw isBlanks
      refine reads.not_stands someRaw (kind ▸ sort) (fun letter => start piece rfl ?_) inParts stands
      rwa [raw, begins_append someText] at letter
    refine ih pairs.tail (fun piece member => distinct piece (List.mem_cons_of_mem _ member)) ?_ piece member
    intro next atHead letter
    refine lastChar_across isSpace fun empty => ?_
    by_cases tight : blanks = []
    · obtain ⟨more, rfl⟩ := List.head?_eq_some_iff.mp atHead
      have gap := Piece.gap_eq split
      rw [tight, empty] at gap
      by_contra final
      have apart := Dialect.fuses_eq_false_iff.mp (pairs.rel_head? rfl gap)
      rw [apart.words] at letter
      · cases letter
      · rw [tight, List.append_nil] at raw
        simpa [lastChar, raw] using final
    · obtain ⟨front, c, rfl⟩ := List.eq_nil_or_concat blanks |>.resolve_left tight
      have blank : isBlank c := isBlanks c (by simp)
      simp [lastChar, raw, isWordChar_eq_false_of_isBlank blank]

theorem Echoed.fractions {after : Option Token} (echoed : Echoed dialect after pieces)
    (pairs : pieces.IsChain fun first second => second.gap = [] → dialect.fuses first second = false)
    (distinct : ∀ piece ∈ pieces, piece.Distinct) (first second third : Piece)
    (within : [first, second, third] <:+: pieces) (whole : first.isWhole) (tight : second.gap = [])
    (period : second.text = ['.']) (close : third.gap = []) : fractionAt ('.' :: third.text) = false := by
  induction echoed with
  | done => simp at within
  | @next after piece again blanks space later kind raw _ _ split read _ ih =>
    rcases List.infix_cons_iff.mp within with atFront | within
    case inr => exact ih pairs.tail (fun piece member => distinct piece (List.mem_cons_of_mem _ member)) within
    obtain ⟨others, front⟩ := atFront
    obtain ⟨rfl, rfl⟩ : first = piece ∧ second :: third :: others = later := List.cons.inj front
    have gap := Piece.gap_eq split
    rw [tight] at gap
    obtain ⟨rfl, rfl⟩ := List.append_eq_nil_iff.mp gap.symm
    rw [List.append_nil] at raw
    have someRaw : again.raw ≠ [] := by
      rw [raw]
      exact (distinct first List.mem_cons_self).2.1
    simp only [Piece.isWhole, Bool.and_eq_true, beq_iff_eq, List.all_eq_true] at whole
    obtain ⟨isNumber, chars⟩ := whole
    have shown : Piece.output (second :: third :: others) = '.' :: (third.text ++ Piece.join others) := by
      simp [Piece.output, period, Piece.join_cons, close]
    obtain ⟨rule, reads⟩ := Dialect.readFirst?_eq_some_iff.mp read
    cases reads.ofKind (kind.trans isNumber)
    obtain ⟨isWhole, numeral, _, ends⟩ := reads.number someRaw
    cases isWhole with
    | false =>
      obtain ⟨c, member, other⟩ := numeral.other_char
      rw [chars c (raw ▸ member)] at other
      cases other
    | true =>
      have clear := ends rfl
      rw [List.nil_append, shown] at clear
      by_contra fraction
      rw [fractionAt_append (by simpa using fraction)] at clear
      · cases clear
      intro last
      refine Piece.begins_join (fun next atHead => ?_) (fun _ => isWordChar_eq_false_of_isBlank)
        fun next atHead empty => ?_
      · exact distinct next (by simp [List.mem_of_mem_head? atHead])
      · exact (Dialect.fuses_eq_false_iff.mp (pairs.tail.tail.rel_head? atHead empty)).words last

/-- Pieces that are read as the tokens they show are steady. -/
theorem Echoed.steady {after : Option Token} (echoed : Echoed dialect after pieces) (chain : pieces.IsChain Joined)
    (distinct : ∀ piece ∈ pieces, piece.Distinct)
    (start : ∀ piece ∈ pieces.head?, begins isWordChar piece.text → (lastChar after).any isWordChar = false) :
    dialect.Steady pieces where
  brackets := echoed.brackets (echoed.pairs chain distinct) distinct start
  pairs := echoed.pairs chain distinct
  fractions := echoed.fractions (echoed.pairs chain distinct) distinct

end QueryLayout
