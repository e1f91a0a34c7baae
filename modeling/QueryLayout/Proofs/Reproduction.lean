import QueryLayout.Proofs.Steadiness

namespace QueryLayout

variable {dialect : Dialect} {style : Style} {before : Option Token} {text gap : List Char} {piece : Piece}
  {later : List Piece}

theorem dropWhile_gap {gap text : List Char} (blank : IsGap gap) (visible : begins isBlank text = false) :
    (gap ++ text).dropWhile isBlank = text := by
  rw [List.dropWhile_append_of_pos blank]
  cases text with
  | nil => rfl
  | cons c text => exact List.dropWhile_cons_of_neg (by simpa using visible)

section Onward

variable (laid : Laid dialect style before text later) (absent : style.params = .absent)

include laid absent

/-- Where no number followed a minus sign, none follows it where it is written. -/
theorem Laid.minus (blank : IsGap gap) (unsigned : numberExtent? ('-' :: (gap ++ text)) = none) :
    numberExtent? ('-' :: Piece.join later) = none := by
  cases later with
  | nil => rfl
  | cons next more =>
    obtain ⟨rest, rfl, someRaw, isGap, read, notBlank, displayed⟩ :=
      laid.head absent (show next ∈ (next :: more).head? from rfl)
    have visible := Lexicon.visible_of_readFirst? read notBlank
    rw [numberExtent?_signed blank visible, Option.map_eq_none_iff] at unsigned
    have shown : begins isBlank (next.text ++ Piece.join more) = false := by
      rw [begins_append displayed.visible.1]
      exact displayed.visible.2
    rw [Piece.join_cons, List.append_assoc, numberExtent?_signed isGap shown, Option.map_eq_none_iff]
    exact displayed.decimalExtent? unsigned _

/-- After a period only a decimal number can be taken for a fraction. -/
theorem Laid.fractionAt_period
    (clear : ∀ next ∈ later.head?, next.gap = [] → fractionAt ('.' :: next.text) = false) :
    fractionAt ('.' :: Piece.join later) = false := by
  by_cases digit : begins isAsciiDigit (Piece.join later)
  case neg => exact QueryLayout.fractionAt_period (by simpa using digit)
  cases later with
  | nil => rfl
  | cons next more =>
    obtain ⟨_, _, _, isGap, _, _, displayed⟩ := laid.head absent (show next ∈ (next :: more).head? from rfl)
    rw [Piece.join_cons] at digit ⊢
    by_cases tight : next.gap = []
    · rw [tight, List.nil_append] at digit ⊢
      rw [begins_append displayed.visible.1] at digit
      obtain ⟨_, _, ⟨_, _, shape⟩ | runs⟩ := displayed.digit digit
      · have clash := clear next rfl tight
        rw [shape.fractionAt] at clash
        cases clash
      · exact runs.fractionAt _
    · rw [List.append_assoc, begins_append tight, begins_of_isGap isGap] at digit
      · cases digit
      · intro c blank
        by_contra isDigit
        rw [isBlank_eq_false_of_isAsciiDigit (by simpa using isDigit)] at blank
        cases blank

/-- What begins with a period after a number is a period by itself. -/
theorem Laid.period_alone (chain : (piece :: later).IsChain Joined) (notOpening : piece.token.kind ≠ .opening)
    (notPeriod : piece.text ≠ ['.']) (period : begins (· == '.') (Piece.join later)) :
    ∃ next more, later = next :: more ∧ next.gap = [] ∧ next.text = ['.'] := by
  by_contra none
  push Not at none
  refine absurd period (Bool.not_eq_true _ ▸
    Piece.begins_join (laid.distinct absent) (fun c blank => ?_) fun next atHead tight => ?_)
  · by_contra same
    rw [show c = '.' by simpa using same] at blank
    exact absurd blank (by decide)
  · obtain ⟨more, rfl⟩ := List.head?_eq_some_iff.mp atHead
    rcases laid.tight absent chain atHead tight notOpening notPeriod with mark | ⟨_, _, other⟩
    · simp only [List.mem_cons, List.not_mem_nil, or_false] at mark
      rcases mark with mark | mark | mark
      · rw [mark]
        rfl
      · rw [mark]
        rfl
      · exact absurd mark (none next more rfl tight)
    · exact other

/-- A whole number is not taken for the first half of a decimal one. -/
theorem Laid.fraction (chain : (piece :: later).IsChain Joined) (steady : dialect.Steady (piece :: later))
    (number : piece.token.kind = .number) (whole : Numeral true piece.text) :
    fractionAt (Piece.join later) = false := by
  have isWhole : piece.isWhole := by
    simp only [Piece.isWhole, number, beq_self_eq_true, Bool.true_and, List.all_eq_true]
    exact whole.whole_chars
  by_cases period : begins (· == '.') (Piece.join later)
  case neg => exact fractionAt_eq_false (by simpa using period)
  obtain ⟨second, more, rfl, tight, alone⟩ :=
    laid.period_alone absent chain (by simp [number]) whole.ne_period period
  cases laid with
  | next _ _ _ _ _ _ laidMore =>
    rw [Piece.join_cons, tight, alone]
    refine laidMore.fractionAt_period absent fun third atHead empty => ?_
    obtain ⟨others, rfl⟩ := List.head?_eq_some_iff.mp atHead
    exact steady.fractions piece second third ⟨[], others, rfl⟩ isWhole tight alone empty

/-- Where a word ends, no other part of a reserved word follows without a gap. -/
theorem Laid.partEnds (chain : (piece :: later).IsChain Joined) (steady : dialect.Steady (piece :: later))
    {rest : List Char} (displayed : Displayed dialect piece.token rest piece.text)
    (letter : begins isWordChar piece.text)
    (final : piece.token.kind = .word ∨ piece.text.getLast?.any isWordChar) :
    begins (fun c => isWordChar c || (dialect.hyphens && c == '-')) (Piece.join later) = false := by
  refine Piece.begins_join (laid.distinct absent) (fun c blank => ?_) fun next atHead tight => ?_
  · by_contra part
    simp only [Bool.not_eq_false, Bool.or_eq_true, Bool.and_eq_true, beq_iff_eq] at part
    rcases part with word | ⟨_, rfl⟩
    · rw [isWordChar_eq_false_of_isBlank blank] at word
      cases word
    · exact absurd blank (by decide)
  have apart := steady.apart next atHead tight
  have nonword : begins isWordChar next.text = false := by
    rcases final with word | last
    · exact begins_eq_false_of_imp (fun c => dialect.isNameChar_of_isWordChar) (apart.names word)
    · exact apart.words last
  cases shown : next.text with
  | nil => rfl
  | cons c tail =>
    rw [shown, begins_cons] at nonword
    rw [begins_cons, nonword, Bool.false_or]
    cases hyphens : dialect.hyphens with
    | false => rfl
    | true =>
      have notOpening : piece.token.kind ≠ .opening := by
        intro opening
        have plain := (Dialect.bracketPart_sort (displayed.bracketPart (Or.inl opening) letter)).1
        rw [hyphens] at plain
        cases plain
      have notPeriod : piece.text ≠ ['.'] := by
        intro period
        rw [period] at letter
        exact absurd letter (show ¬ isWordChar '.' by decide)
      rw [Bool.true_and]
      rcases laid.tight absent chain atHead tight notOpening notPeriod with mark | ⟨inert, _⟩
      · have every : ∀ mark ∈ [[','], [':'], ['.']], begins (· == '-') mark = false := by decide
        rw [shown] at mark
        exact every _ mark
      · have hot : dialect.isInert '-' = false := by cases dialect <;> decide
        rw [shown, begins_cons] at inert
        by_contra hyphen
        rw [show c = '-' by simpa using hyphen, hot] at inert
        cases inert

/-- What follows a word in the two texts. -/
theorem Laid.follows (blank : IsGap gap)
    (ends : begins isWordChar (gap ++ text) = false)
    (partEnds : begins (fun c => isWordChar c || (dialect.hyphens && c == '-')) (Piece.join later) = false)
    (tracks : ∀ next more, later = next :: more → Tracks dialect.hyphens text (next.text ++ Piece.join more)) :
    Follows dialect.hyphens (gap ++ text) (Piece.join later) := by
  cases later with
  | nil => exact Or.inl ⟨ends, rfl, rfl⟩
  | cons next more =>
    obtain ⟨after, rfl, someRaw, isGap, read, notBlank, displayed⟩ :=
      laid.head absent (show next ∈ (next :: more).head? from rfl)
    have visible : begins isBlank (next.text ++ Piece.join more) = false := by
      rw [begins_append displayed.visible.1]
      exact displayed.visible.2
    have whole : Piece.join (next :: more) = next.gap ++ (next.text ++ Piece.join more) := by
      rw [Piece.join_cons, List.append_assoc]
    by_cases apart : gap ≠ [] ∧ next.gap ≠ []
    · exact Or.inr ⟨gap, _, next.gap, _, rfl, whole, blank, apart.1, Lexicon.visible_of_readFirst? read notBlank,
        isGap, apart.2, visible, tracks next more rfl⟩
    · refine Or.inl ⟨ends, partEnds, ?_⟩
      rw [whole, dropWhile_gap isGap visible, begins_append displayed.visible.1]
      by_cases tight : next.gap = []
      · rw [whole, tight, List.nil_append, begins_append displayed.visible.1] at partEnds
        exact begins_eq_false_of_imp (fun c word => by simp [word]) partEnds
      · have none : gap = [] := by
          by_contra someGap
          exact apart ⟨someGap, tight⟩
        rw [none, List.nil_append, begins_append someRaw] at ends
        rw [displayed.begins_isWordChar, ends]

end Onward

/-- The pieces show the words of a text in their order. -/
theorem Laid.tracks (laid : Laid dialect style before text (piece :: later)) (absent : style.params = .absent)
    (chain : (piece :: later).IsChain Joined) (steady : dialect.Steady (piece :: later)) :
    Tracks dialect.hyphens text (piece.text ++ Piece.join later) := by
  generalize same : piece :: later = pieces at laid chain steady
  induction laid generalizing piece later with
  | done => cases same
  | @next before first gap text more someRaw notBlank read rendered isGap isSpace laid ih =>
    obtain ⟨rfl, rfl⟩ := List.cons.inj same
    have displayed := Dialect.displayed read someRaw notBlank absent rendered
    refine displayed.tracks fun letter ends final => ?_
    refine laid.follows absent isSpace ends (laid.partEnds absent chain steady displayed letter final) ?_
    rintro next others rfl
    exact ih rfl chain.tail steady.tail

/-- What must hold of the tokens before a piece, where it was read and where it is written. -/
structure Ready (before after : Option Token) (piece : Piece) : Prop where
  notPeriod : piece.token.kind.isUpperCased → begins isWordChar piece.text → followsPeriod after = false
  period : piece.token.kind = .word → followsPeriod before → followsPeriod after
  apart : piece.token.kind = .opening ∨ piece.token.kind = .closing → begins isWordChar piece.text →
    (lastChar after).any isWordChar = false

/-- A steady piece is settled where it is written. -/
theorem Laid.resettled {after : Option Token} (laid : Laid dialect style (across gap (some piece.token)) text later)
    (absent : style.params = .absent) (chain : (piece :: later).IsChain Joined)
    (steady : dialect.Steady (piece :: later)) (someRaw : piece.token.raw ≠ []) (isGap : IsGap gap)
    (displayed : Displayed dialect piece.token (gap ++ text) piece.text)
    (tracks : Tracks dialect.hyphens (piece.token.raw ++ (gap ++ text)) (piece.text ++ Piece.join later))
    (ready : Ready before after piece) :
    Resettled dialect before after piece.token (gap ++ text) piece.text (Piece.join later) where
  someRaw := someRaw
  atEnd empty := by
    cases laid with
    | done => rfl
    | next someNext => simp [someNext] at empty
  settled := laid.settled absent chain
  tracks := tracks
  wordEnds := laid.wordEnds absent steady
  nameEnds := laid.nameEnds absent steady
  keyEnds mark isMark key split keys := by
    refine laid.keyEnds absent steady ?_
    rw [split]
    simpa [Dialect.opensKey, isMark] using keys
  colonEnds colon := by
    refine laid.colonEnds absent chain steady colon fun opening => ?_
    have other := (displayed.bracket (Or.inl opening)).2.1
    rw [colon] at other
    cases other
  fraction := laid.fraction absent chain steady
  minus _ := laid.minus absent isGap
  lineEnds := Joined.lineEnds chain
  notPeriod := ready.notPeriod
  period := ready.period
  apart := ready.apart
  notBracket kind := steady.brackets piece List.mem_cons_self (by simpa using kind)

theorem followsPeriod_across {prev : Option Token} (blank : IsGap gap) (period : followsPeriod (across gap prev)) :
    gap = [] ∧ followsPeriod prev := by
  by_cases empty : gap = []
  · rw [empty] at period
    exact ⟨empty, period⟩
  · rw [across_of_ne_nil empty] at period
    have value : gap = ['.'] := by simpa [followsPeriod, Token.ofRaw, Kind.isUpperCased] using period
    rw [value] at blank
    exact absurd (isGap_cons.mp blank).1 (by decide)

theorem lastChar_across {prev : Option Token} (blank : IsGap gap)
    (tight : gap = [] → (lastChar prev).any isWordChar = false) :
    (lastChar (across gap prev)).any isWordChar = false := by
  by_cases empty : gap = []
  · rw [empty]
    exact tight empty
  · rw [across_of_ne_nil empty]
    have every : ∀ c ∈ gap, isWordChar c = false := fun c member => isWordChar_eq_false_of_isBlank (blank c member)
    cases last : gap.getLast? with
    | none => simp [lastChar, Token.ofRaw, last]
    | some c => simp [lastChar, Token.ofRaw, last, every c (List.mem_of_getLast? last)]

/-- A token shows a piece: it has its kind and, but for blanks at the end, its text. -/
def Reproduces (piece : Piece) (token : Token) : Prop :=
  token.kind = piece.token.kind ∧ trimEnd token.raw = piece.text

/-- The same without any blanks at the end, which only a line comment may have. -/
def Repeats (piece : Piece) (token : Token) : Prop :=
  Reproduces piece token ∧ (token.kind ≠ .lineComment → token.raw = piece.text)

/-- Once a piece is read again, the next one is ready. A line comment takes the line break of the gap along. -/
theorem Joined.ready {next : Piece} {again : Token} {space rest other : List Char} (joined : Joined piece next)
    (apart : next.gap = [] → dialect.Apart piece next)
    (read : readFirst? dialect.rules before (piece.token.raw ++ rest) = some piece.token)
    (someRaw : piece.token.raw ≠ [])
    (rendered : Rendered style 0 piece.token piece.text) (isGap : IsGap gap)
    (semicolon : next.token.kind = .word → next.token.value ≠ [';'])
    {after : Option Token} (reread : readFirst? dialect.rules after (again.raw ++ other) = some again)
    (someAgain : again.raw ≠ []) (isSpace : IsGap space)
    (placed : again.raw = piece.text ∧ space = next.gap ∨
      piece.token.kind = .lineComment ∧ again.raw = piece.text ++ ['\n']) :
    Ready (across gap (some piece.token)) (across space (some again)) next where
  notPeriod upper letter := by
    by_contra period
    obtain ⟨empty, period⟩ := followsPeriod_across isSpace (by simpa using period)
    have value : again.value = ['.'] := by simpa [followsPeriod] using period
    obtain ⟨_, readsAgain⟩ := Dialect.readFirst?_eq_some_iff.mp reread
    obtain ⟨raw, _⟩ := readsAgain.value_period someAgain value
    rcases placed with ⟨same, rfl⟩ | ⟨_, comment⟩
    · have nonword := (apart empty).period (same.symm.trans raw) upper
      rw [letter] at nonword
      cases nonword
    · rw [raw] at comment
      have last := congrArg List.getLast? comment
      simp at last
  period word period := by
    obtain ⟨_, period⟩ := followsPeriod_across isGap period
    have value : piece.token.value = ['.'] := by simpa [followsPeriod] using period
    obtain ⟨_, reads⟩ := Dialect.readFirst?_eq_some_iff.mp read
    obtain ⟨raw, sort⟩ := reads.value_period someRaw value
    have tight := joined.period value sort word (semicolon word)
    rcases placed with ⟨same, rfl⟩ | ⟨comment, _⟩
    · have text : piece.text = ['.'] := by
        have plain : trimEnd ['.'] = ['.'] := by decide
        unfold Rendered at rendered
        rcases sort with operator | word
        · rw [operator, value, plain] at rendered
          exact rendered
        · rw [word, value, plain] at rendered
          exact rendered
      obtain ⟨_, readsAgain⟩ := Dialect.readFirst?_eq_some_iff.mp reread
      rw [tight, across_nil]
      simp [followsPeriod, readsAgain.value_of_period (same.trans text)]
    · rw [comment] at sort
      rcases sort with operator | word <;> contradiction
  apart bracket letter := by
    refine lastChar_across isSpace fun empty => ?_
    by_contra final
    rcases placed with ⟨same, rfl⟩ | ⟨_, comment⟩
    · have last : piece.text.getLast?.any isWordChar := by
        rw [← same]
        simpa [lastChar] using final
      have nonword := (apart empty).words last
      rw [letter] at nonword
      cases nonword
    · have feed : isWordChar '\n' = false := by decide
      simp [lastChar, comment, feed] at final

theorem Piece.join_eq_output {next : Piece} {more : List Piece} :
    Piece.join (next :: more) = next.gap ++ Piece.output (next :: more) := by
  rw [Piece.join_cons, Piece.output, List.append_assoc]

/-- What is left to read after a piece has been read again. -/
theorem Laid.left {again : Token} (laid : Laid dialect style before text later) (absent : style.params = .absent)
    (chain : (piece :: later).IsChain Joined)
    (raw : again.raw = QueryLayout.reread piece.token.kind piece.text (Piece.join later)) :
    ∃ space, IsGap space ∧ piece.text ++ Piece.join later = again.raw ++ (space ++ Piece.output later) ∧
      ∀ next ∈ later.head?, again.raw = piece.text ∧ space = next.gap ∨
        piece.token.kind = .lineComment ∧ again.raw = piece.text ++ ['\n'] := by
  unfold QueryLayout.reread at raw
  cases later with
  | nil =>
    have same : again.raw = piece.text := by
      rw [raw]
      split <;> simp [Piece.join]
    exact ⟨[], isGap_nil, by simp [same, Piece.join, Piece.output], by simp⟩
  | cons next more =>
    obtain ⟨_, _, _, isGap, _⟩ := laid.head absent (show next ∈ (next :: more).head? from rfl)
    split at raw
    · rename_i comment
      obtain ⟨later, gap⟩ := (chain.rel_head? rfl).lineComment comment
      rw [Piece.join_eq_output, gap] at raw ⊢
      rw [gap] at isGap
      refine ⟨later, (isGap_cons.mp isGap).2, ?_, ?_⟩
      · simp [raw]
      · rintro _ ⟨⟩
        exact Or.inr ⟨comment, raw⟩
    · refine ⟨next.gap, isGap, ?_, ?_⟩
      · rw [raw, Piece.join_eq_output]
      · rintro _ ⟨⟩
        exact Or.inl ⟨raw, rfl⟩

/-- Steady pieces are read again as the tokens they show. -/
theorem Laid.reproduced {pieces : List Piece} (laid : Laid dialect style before text pieces)
    (absent : style.params = .absent) (blankUnit : IsGap style.indentUnit) (chain : pieces.IsChain Joined)
    (steady : dialect.Steady pieces) {after : Option Token} {space : List Char} (isSpace : IsGap space)
    (ready : ∀ piece ∈ pieces.head?, Ready before (across space after) piece) :
    ∃ tokens, Skims dialect.rules after (space ++ Piece.output pieces) tokens ∧
      List.Forall₂ Repeats pieces tokens := by
  induction laid generalizing after space with
  | done => exact ⟨[], .done (by simpa [Piece.output] using isSpace), .nil⟩
  | @next before piece gap text later someRaw notBlank read rendered isGap isBlank laid ih =>
    have displayed := Dialect.displayed read someRaw notBlank absent rendered
    have tracks := Laid.tracks (.next someRaw notBlank read rendered isGap isBlank laid) absent chain steady
    have settled := laid.resettled absent chain steady someRaw isBlank displayed tracks (ready piece rfl)
    obtain ⟨again, kind, raw, reread⟩ := settled.readAgain read notBlank blankUnit absent rendered
    obtain ⟨left, isLeft, split, placed⟩ := laid.left absent chain raw
    have someAgain : again.raw ≠ [] := by
      rw [raw, QueryLayout.reread]
      split <;> simp [displayed.visible.1]
    rw [split] at reread
    have readyNext : ∀ next ∈ later.head?,
        Ready (across gap (some piece.token)) (across left (some again)) next := by
      intro next atHead
      obtain ⟨_, _, someNext, _, readNext, _⟩ := laid.head absent atHead
      obtain ⟨_, readsNext⟩ := Dialect.readFirst?_eq_some_iff.mp readNext
      exact (chain.rel_head? atHead).ready (steady.apart next atHead) read someRaw rendered isBlank
        (readsNext.value_semicolon someNext) reread someAgain isLeft (placed next atHead)
    obtain ⟨tokens, skims, reproduced⟩ := ih chain.tail steady.tail isLeft readyNext
    refine ⟨again :: tokens, ?_, .cons ⟨⟨kind, ?_⟩, fun other => ?_⟩ reproduced⟩
    · rw [Piece.output, split]
      exact .next isSpace someAgain (kind ▸ notBlank) reread skims
    · rw [raw, QueryLayout.reread]
      split
      · rename_i comment
        have feed : IsGap ((Piece.join later).take 1) := by
          rcases Joined.lineEnds chain comment with none | ⟨more, split⟩
          · simp [none]
          · rw [split]
            exact isGap_cons.mpr ⟨by decide, isGap_nil⟩
        rw [feed.trimEnd_append, rendered.trimmed]
      · exact rendered.trimmed
    · rw [raw, QueryLayout.reread, if_neg (kind ▸ other)]

end QueryLayout
