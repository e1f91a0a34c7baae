import QueryLayout.Proofs.Pieces

namespace QueryLayout

/-- Whether a text is the mark of a named placeholder with nothing but characters of a name after it. -/
def Dialect.opensKey (dialect : Dialect) : List Char → Bool
  | [] => false
  | mark :: key => dialect.marks.contains mark && key.all isKeyChar

/-- Whether two pieces without a gap between them are no longer read as the tokens they are: two words
become one, a name or a placeholder goes on, two colons become an operator, or a reserved word is
taken for the name that follows a period. -/
def Dialect.fuses (dialect : Dialect) (first second : Piece) : Bool :=
  (first.text.getLast?.any isWordChar && begins isWordChar second.text) ||
    (first.token.kind == .word && begins dialect.isNameChar second.text) ||
    (dialect.opensKey first.text && begins isKeyChar second.text) ||
    (first.text == [':'] && second.text == [':']) ||
    (first.text == ['.'] && second.token.kind.isUpperCased && begins isWordChar second.text)

/-- A decimal number that has no fraction yet. -/
def Piece.isWhole (piece : Piece) : Bool :=
  piece.token.kind == .number && piece.text.all fun c => isAsciiDigit c || isBlank c || c == '-'

/-- Pieces that are read as the tokens they show. A word for a bracket that was read as a mere reserved
word must not occur, no two pieces may fuse, and no whole number may become the first half of a
decimal one. -/
structure Dialect.Steady (dialect : Dialect) (pieces : List Piece) : Prop where
  brackets : ∀ piece ∈ pieces, piece.token.kind ∈ [.reserved, .clause, .continuation] →
    piece.text ∉ dialect.bracketParts
  pairs : pieces.IsChain fun first second => second.gap = [] → dialect.fuses first second = false
  fractions : ∀ first second third, [first, second, third] <:+: pieces → first.isWhole →
    second.gap = [] → second.text = ['.'] → third.gap = [] → fractionAt ('.' :: third.text) = false

theorem Dialect.Steady.tail {dialect : Dialect} {piece : Piece} {later : List Piece}
    (steady : dialect.Steady (piece :: later)) : dialect.Steady later where
  brackets other member := steady.brackets other (List.mem_cons_of_mem _ member)
  pairs := steady.pairs.tail
  fractions first second third within :=
    steady.fractions first second third (within.trans (List.suffix_cons piece later).isInfix)

/-- A piece that can be told from the gaps around it. -/
def Piece.Distinct (piece : Piece) : Prop :=
  IsGap piece.gap ∧ piece.text ≠ [] ∧ begins isBlank piece.text = false

/-- The text after a piece begins with blanks or with the next piece. -/
theorem Piece.begins_join {later : List Piece} (distinct : ∀ next ∈ later.head?, next.Distinct) {p : Char → Bool}
    (blank : ∀ c, isBlank c → p c = false)
    (tight : ∀ next ∈ later.head?, next.gap = [] → begins p next.text = false) :
    begins p (Piece.join later) = false := by
  cases later with
  | nil => rfl
  | cons next more =>
    obtain ⟨isGap, someText, _⟩ := distinct next rfl
    rw [Piece.join_cons]
    by_cases empty : next.gap = []
    · rw [empty, List.nil_append, begins_append someText]
      exact tight next rfl empty
    · rw [List.append_assoc, begins_append empty]
      exact begins_of_isGap isGap blank

/-- A text cut into its visible tokens, from the start of the first one, and the pieces that stand for them. -/
inductive Laid (dialect : Dialect) (style : Style) : Option Token → List Char → List Piece → Prop
  | done {before} : Laid dialect style before [] []
  | next {before piece gap text later} : piece.token.raw ≠ [] → piece.token.kind ≠ .blank →
      readFirst? dialect.rules before (piece.token.raw ++ (gap ++ text)) = some piece.token →
      Rendered style 0 piece.token piece.text → IsGap piece.gap → IsGap gap →
      Laid dialect style (across gap (some piece.token)) text later →
      Laid dialect style before (piece.token.raw ++ (gap ++ text)) (piece :: later)

/-- A skimmed text is laid out in the pieces that stand for its tokens. -/
theorem Skims.laid {dialect : Dialect} {style : Style} {before : Option Token} {text : List Char}
    {tokens : List Token} (skims : Skims dialect.rules before text tokens) {pieces : List Piece}
    (same : pieces.map Piece.token = tokens)
    (sound : ∀ piece ∈ pieces, Rendered style 0 piece.token piece.text ∧ IsGap piece.gap) :
    ∃ gap visible, text = gap ++ visible ∧ IsGap gap ∧ Laid dialect style (across gap before) visible pieces := by
  induction skims generalizing pieces with
  | @done before gap blank =>
    rw [List.map_eq_nil_iff.mp same]
    exact ⟨gap, [], by simp, blank, .done⟩
  | @next before gap token rest tokens blank someRaw visible read _ ih =>
    cases pieces with
    | nil => cases same
    | cons piece later =>
      obtain ⟨rfl, sameLater⟩ := List.cons.inj same
      obtain ⟨space, text, rfl, isSpace, laid⟩ :=
        ih sameLater fun other member => sound other (List.mem_cons_of_mem _ member)
      obtain ⟨rendered, isGap⟩ := sound piece List.mem_cons_self
      exact ⟨gap, _, rfl, blank, .next someRaw visible read rendered isGap isSpace laid⟩

/-- Two pieces that do not fuse. -/
structure Dialect.Apart (dialect : Dialect) (first second : Piece) : Prop where
  words : first.text.getLast?.any isWordChar → begins isWordChar second.text = false
  names : first.token.kind = .word → begins dialect.isNameChar second.text = false
  keys : dialect.opensKey first.text → begins isKeyChar second.text = false
  colons : first.text = [':'] → second.text ≠ [':']
  period : first.text = ['.'] → second.token.kind.isUpperCased → begins isWordChar second.text = false

theorem Dialect.fuses_eq_false_iff {dialect : Dialect} {first second : Piece} :
    dialect.fuses first second = false ↔ dialect.Apart first second := by
  simp only [Dialect.fuses, Bool.or_eq_false_iff, Bool.and_eq_false_imp, beq_iff_eq, Bool.and_eq_true, and_imp,
    beq_eq_false_iff_ne]
  constructor
  · rintro ⟨⟨⟨⟨words, names⟩, keys⟩, colons⟩, period⟩
    exact ⟨words, names, keys, colons, period⟩
  · rintro ⟨words, names, keys, colons, period⟩
    exact ⟨⟨⟨⟨words, names⟩, keys⟩, colons⟩, period⟩

section Onward

variable {dialect : Dialect} {style : Style} {before : Option Token} {text : List Char} {piece : Piece}
  {later : List Piece} (laid : Laid dialect style before text later) (absent : style.params = .absent)
  (chain : (piece :: later).IsChain Joined)

theorem Dialect.Steady.apart (steady : dialect.Steady (piece :: later)) :
    ∀ next ∈ later.head?, next.gap = [] → dialect.Apart piece next := by
  intro next atHead tight
  exact Dialect.fuses_eq_false_iff.mp (steady.pairs.rel_head? atHead tight)

theorem Joined.lineEnds (chain : (piece :: later).IsChain Joined) (comment : piece.token.kind = .lineComment) :
    Piece.join later = [] ∨ ∃ more, Piece.join later = '\n' :: more := by
  cases later with
  | nil => exact Or.inl rfl
  | cons next more =>
    obtain ⟨after, gap⟩ := (chain.rel_head? rfl).lineComment comment
    rw [Piece.join_cons, gap]
    exact Or.inr ⟨_, rfl⟩

include laid absent

/-- What is known of the next piece. -/
theorem Laid.head {next : Piece} (atHead : next ∈ later.head?) :
    ∃ rest, text = next.token.raw ++ rest ∧ next.token.raw ≠ [] ∧ IsGap next.gap ∧
      readFirst? dialect.rules before (next.token.raw ++ rest) = some next.token ∧ next.token.kind ≠ .blank ∧
      Displayed dialect next.token rest next.text := by
  cases laid with
  | done => cases atHead
  | @next _ piece gap text later someRaw notBlank read rendered isGap isSpace _ =>
    cases atHead
    exact ⟨_, rfl, someRaw, isGap, read, notBlank, Dialect.displayed read someRaw notBlank absent rendered⟩

theorem Laid.distinct : ∀ next ∈ later.head?, next.Distinct := by
  intro next atHead
  obtain ⟨_, _, _, isGap, _, _, displayed⟩ := laid.head absent atHead
  exact ⟨isGap, displayed.visible⟩

theorem Laid.wordEnds (steady : dialect.Steady (piece :: later)) (letter : piece.text.getLast?.any isWordChar) :
    begins isWordChar (Piece.join later) = false :=
  Piece.begins_join (laid.distinct absent) (fun _ => isWordChar_eq_false_of_isBlank)
    fun next atHead tight => (steady.apart next atHead tight).words letter

theorem Laid.nameEnds (steady : dialect.Steady (piece :: later)) (word : piece.token.kind = .word) :
    begins dialect.isNameChar (Piece.join later) = false := by
  refine Piece.begins_join (laid.distinct absent) (fun c blank => ?_) fun next atHead tight =>
    (steady.apart next atHead tight).names word
  by_contra name
  rw [Dialect.isBlank_of_isNameChar (by simpa using name)] at blank
  cases blank

theorem Laid.keyEnds (steady : dialect.Steady (piece :: later)) (key : dialect.opensKey piece.text) :
    begins isKeyChar (Piece.join later) = false := by
  refine Piece.begins_join (laid.distinct absent) (fun c blank => ?_) fun next atHead tight =>
    (steady.apart next atHead tight).keys key
  by_contra isKey
  rw [isBlank_eq_false_of_isKeyChar (by simpa using isKey)] at blank
  cases blank

include chain

/-- What follows a piece without a gap is a comma, a colon, a period or a bracket, unless the piece itself is
an opening bracket or a period. -/
theorem Laid.tight {next : Piece} (atHead : next ∈ later.head?) (tight : next.gap = [])
    (notOpening : piece.token.kind ≠ .opening) (notPeriod : piece.text ≠ ['.']) :
    next.text ∈ [[','], [':'], ['.']] ∨
      begins dialect.isInert next.text ∧ begins (· == ':') next.text = false ∧
        begins (· == '.') next.text = false := by
  obtain ⟨_, _, _, _, _, _, displayed⟩ := laid.head absent atHead
  rcases (chain.rel_head? atHead).tight tight with (mark | bracket) | opening | period
  · exact Or.inl mark
  · exact Or.inr (displayed.bracket bracket)
  · exact absurd opening notOpening
  · exact absurd period notPeriod

theorem Laid.settled :
    dialect.settles (Piece.join later) ∨ piece.text = ['.'] ∨ piece.token.kind = .opening := by
  by_cases notPeriod : piece.text = ['.']
  · exact Or.inr (Or.inl notPeriod)
  by_cases notOpening : piece.token.kind = .opening
  · exact Or.inr (Or.inr notOpening)
  left
  have inert : begins (fun c => !dialect.isInert c) (Piece.join later) = false := by
    refine Piece.begins_join (laid.distinct absent) (fun c blank => by simp [Dialect.isInert, blank])
      fun next atHead tight => ?_
    rcases laid.tight absent chain atHead tight notOpening notPeriod with mark | ⟨inert, _⟩
    · simp only [List.mem_cons, List.not_mem_nil, or_false] at mark
      rcases mark with mark | mark | mark
      all_goals
        rw [mark]
        simp [Dialect.isInert]
    · cases text : next.text with
      | nil => rfl
      | cons c tail => simpa [text] using inert
  unfold Dialect.settles
  cases join : Piece.join later with
  | nil => rfl
  | cons c tail => simpa [join] using inert

theorem Laid.colonEnds (steady : dialect.Steady (piece :: later)) (colon : piece.text = [':'])
    (notOpening : piece.token.kind ≠ .opening) : begins (· == ':') (Piece.join later) = false := by
  refine Piece.begins_join (laid.distinct absent) (fun c blank => ?_) fun next atHead tight => ?_
  · by_contra isColon
    rw [show c = ':' by simpa using isColon] at blank
    exact absurd blank (by decide)
  · rcases laid.tight absent chain atHead tight notOpening (by simp [colon]) with mark | ⟨_, other, _⟩
    · simp only [List.mem_cons, List.not_mem_nil, or_false] at mark
      rcases mark with mark | mark | mark
      · rw [mark]
        rfl
      · exact absurd mark ((steady.apart next atHead tight).colons colon)
      · rw [mark]
        rfl
    · exact other

end Onward

end QueryLayout
