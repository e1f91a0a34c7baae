import QueryLayout.Proofs.Standing

namespace QueryLayout

variable {dialect : Dialect} {rule : Rule} {previous after : Option Token} {first second other : List Char}

/-- Whether what follows a token in a text leaves alone what it began: nothing, or an inert character. -/
def Dialect.settles (dialect : Dialect) (text : List Char) : Bool :=
  text.head?.all dialect.isInert

/-- A rule with fixed beginnings that does not read one text does not read another one that agrees with
it up to a place where it goes on inertly. -/
theorem Dialect.fixed_passes (member : rule ∈ dialect.rules) (fixed : rule.isFixed)
    (failed : rule.read? previous (first ++ second) = none) (someFirst : first ≠ [])
    (settled : dialect.settles other ∨ ∃ c ∈ '.' :: dialect.lexicon.symbols .opening, first = [c]) :
    rule.read? after (first ++ other) = none := by
  have opener := Dialect.isOpener_of_isFixed member fixed
  rw [Rule.read?_eq_none_iff_openers opener] at failed ⊢
  intro text opens
  refine not_prefix_of_append (failed text opens) fun c atHead starts => ?_
  have safe := Dialect.isSafeOpener_of_mem member opens
  obtain ⟨rest, rfl⟩ := starts
  obtain ⟨d, tail, rfl⟩ := List.exists_cons_of_ne_nil someFirst
  simp only [List.cons_append, List.append_assoc, Dialect.isSafeOpener, Bool.and_eq_true, List.all_eq_true] at safe
  rcases settled with inert | ⟨e, symbol, same⟩
  · have hot := safe.1.2 c (by simp)
    have cool : dialect.isInert c := by simpa [Dialect.settles, atHead] using inert
    rw [cool] at hot
    cases hot
  · obtain ⟨rfl, rfl⟩ := List.cons.inj same
    have apart := safe.2
    simp only [List.nil_append, List.isEmpty_cons, Bool.false_or, Bool.not_eq_true',
      ← Bool.not_eq_true, List.contains_iff_mem] at apart
    exact apart symbol

theorem Dialect.named_read?_eq_none_iff {marks : List Phrase} (member : Rule.namedPlaceholder marks ∈ dialect.rules)
    {c : Char} {text : List Char} :
    (Rule.namedPlaceholder marks).read? previous (c :: text) = none ↔
      (c ∈ dialect.marks → begins isKeyChar text = false) := by
  have sorted := Dialect.namedPlaceholder_mem member
  rw [Rule.read?_eq_none_iff]
  simp only [Rule.yieldsToPeriod, Bool.false_and, Bool.false_eq_true, false_or, Rule.match?, sorted,
    namedMatch?_cons]
  constructor
  · intro empty mark
    by_contra key
    have zero := empty _ (if_pos ⟨mark, by simpa using key⟩)
    simp at zero
  · intro absent found matched
    split at matched
    · rename_i both
      rw [absent both.1] at both
      cases both.2
    · cases matched

theorem Dialect.named_passes {marks : List Phrase} (member : Rule.namedPlaceholder marks ∈ dialect.rules)
    (failed : (Rule.namedPlaceholder marks).read? previous (first ++ second) = none) (someFirst : first ≠ [])
    (keyless : ∀ mark ∈ dialect.marks, first = [mark] → begins isKeyChar other = false) :
    (Rule.namedPlaceholder marks).read? after (first ++ other) = none := by
  obtain ⟨c, tail, rfl⟩ := List.exists_cons_of_ne_nil someFirst
  rw [List.cons_append, Dialect.named_read?_eq_none_iff member] at failed ⊢
  intro mark
  cases tail with
  | nil => exact keyless c mark rfl
  | cons d tail => exact failed mark

theorem number_read?_eq_none_iff {text : List Char} :
    Rule.number.read? previous text = none ↔ numberExtent? text = none := by
  rw [Rule.read?_eq_none_iff]
  simp only [Rule.yieldsToPeriod, Bool.false_and, Bool.false_eq_true, false_or, Rule.match?]
  constructor
  · intro empty
    by_contra something
    obtain ⟨length, found⟩ := Option.ne_none_iff_exists'.mp something
    have zero := empty _ (by rw [found]; rfl)
    obtain ⟨_, raw, _, _, size, numeral, _⟩ := numberExtent?_eq_some_iff.mp found
    obtain ⟨_, _, rfl, _⟩ := numeral.begins
    rw [← size] at zero
    cases zero
  · intro none found matched
    rw [none] at matched
    cases matched

theorem Dialect.reserved_read?_eq_none_iff {reservedClass : ReservedClass} {words : List Phrase}
    (member : Rule.reserved reservedClass words ∈ dialect.rules) {text : List Char} :
    (Rule.reserved reservedClass words).read? previous text = none ↔
      ∀ word ∈ words, Stands word text → followsPeriod previous :=
  QueryLayout.reserved_read?_eq_none_iff fun _ inWords => Dialect.isEntry_of_mem_reserved member inWords

theorem Dialect.bracketWord_read?_eq_none_iff {side : BracketSide} {words : List Phrase}
    (member : Rule.bracketWord side words ∈ dialect.rules) {text : List Char} :
    (Rule.bracketWord side words).read? previous text = none ↔
      ∀ word ∈ words, Stands word text → followsPeriod previous ∨ (lastChar previous).any isWordChar :=
  QueryLayout.bracketWord_read?_eq_none_iff fun _ inWords => (Dialect.bracketWord_of_mem member inWords).1

/-- Rules for reserved words read nothing where no word begins or a digit stands. -/
theorem Dialect.words_pass (member : rule ∈ dialect.rules) (yields : rule.yieldsToPeriod) {text : List Char}
    (apart : begins isWordChar text = false ∨ begins isAsciiDigit text) : rule.read? after text = none := by
  have absent : ∀ {word : Phrase}, word.isEntry dialect.hyphens → ¬ Stands word text := by
    intro word entry stands
    obtain ⟨letter, digit⟩ := stands.first entry
    rcases apart with none | some
    · rw [letter] at none
      cases none
    · rw [digit] at some
      cases some
  cases rule with
  | bracketWord side words =>
    exact (Dialect.bracketWord_read?_eq_none_iff member).mpr fun word inWords stands =>
      absurd stands (absent (Dialect.bracketWord_of_mem member inWords).1)
  | reserved reservedClass words =>
    exact (Dialect.reserved_read?_eq_none_iff member).mpr fun word inWords stands =>
      absurd stands (absent (Dialect.isEntry_of_mem_reserved member inWords))
  | _ => cases yields

theorem Rule.rank_eq_zero {rule : Rule} (zero : rule.rank = 0) : rule = .blank := by
  cases rule with
  | blank => rfl
  | bracketSymbol side | bracketWord side => cases side <;> cases zero
  | reserved reservedClass => cases reservedClass <;> cases zero
  | _ => cases zero

theorem blank_read?_eq_none_iff {text : List Char} :
    Rule.blank.read? previous text = none ↔ begins isBlank text = false := by
  rw [Rule.read?_eq_none_iff, ← runLength_eq_zero_iff]
  simp [Rule.yieldsToPeriod, Rule.match?, blankRun, runLength]

theorem Dialect.word_match? {extra : List Char} (member : Rule.word extra ∈ dialect.rules) (before : Option Char)
    (text : List Char) : (Rule.word extra).match? before text = some ⟨runLength dialect.isNameChar text, []⟩ := by
  rw [Dialect.word_mem member]
  rfl

theorem Dialect.word_read?_eq_none_iff {extra : List Char} (member : Rule.word extra ∈ dialect.rules)
    {text : List Char} :
    (Rule.word extra).read? previous text = none ↔ begins dialect.isNameChar text = false := by
  rw [Rule.read?_eq_none_iff, ← runLength_eq_zero_iff, Dialect.word_match? member]
  simp [Rule.yieldsToPeriod]

theorem Dialect.fixed_read?_eq_none (member : rule ∈ dialect.rules) (fixed : rule.isFixed) {c : Char}
    {text : List Char} (absent : ∀ later, c :: later ∈ rule.openers → ¬ later <+: text) :
    rule.read? after (c :: text) = none := by
  rw [Rule.read?_eq_none_iff_openers (Dialect.isOpener_of_isFixed member fixed)]
  intro opener opens starts
  cases opener with
  | nil => cases Dialect.isSafeOpener_of_mem member opens
  | cons d later =>
    obtain ⟨rfl, within⟩ := List.cons_prefix_cons.mp starts
    exact absent later opens within

/-- Blanks and line comments do not begin with a slash. -/
theorem Dialect.slash_pass (member : rule ∈ dialect.rules) (low : rule.rank < 2) (text : List Char) :
    rule.read? after ('/' :: text) = none := by
  cases rule with
  | blank => exact blank_read?_eq_none_iff.mpr (show isBlank '/' = false by decide)
  | lineComment marks =>
    refine Dialect.fixed_read?_eq_none member rfl fun later opens _ => ?_
    obtain ⟨mark, inMarks, shape⟩ := List.mem_map.mp opens
    rw [Dialect.lineComment_mem member] at inMarks
    have slash := dialect.lineCommentMarks_slash mark inMarks
    rw [shape] at slash
    cases slash
  | bracketSymbol side | bracketWord side => cases side <;> simp [Rule.rank] at low
  | reserved reservedClass => cases reservedClass <;> simp [Rule.rank] at low
  | _ => simp [Rule.rank] at low

/-- Where a word of two characters or more begins, no rule for anything else reads. -/
theorem Dialect.others_pass (member : rule ∈ dialect.rules) {c d : Char} {text : List Char} (letter : isWordChar c)
    (notDigit : isAsciiDigit c = false) (inner : d ≠ '\x27') (yields : rule.yieldsToPeriod = false)
    (notWord : rule.rank < 15) : rule.read? after (c :: d :: text) = none := by
  have fixed : rule.isFixed → rule.read? after (c :: d :: text) = none := by
    intro fixed
    refine Dialect.fixed_read?_eq_none member fixed fun later opens within => ?_
    have safe := Dialect.isSafeOpener_of_mem member opens
    simp only [Dialect.isSafeOpener, Bool.and_eq_true, Bool.or_eq_true, Bool.not_eq_true', beq_iff_eq] at safe
    rcases safe.1.1.2 with nonword | national
    · rw [letter] at nonword
      cases nonword
    · rw [(List.cons.inj national).2] at within
      exact inner (List.cons_prefix_cons.mp within).1.symm
  cases rule with
  | blank => exact blank_read?_eq_none_iff.mpr (isBlank_eq_false_of_isWordChar letter)
  | number =>
    refine number_read?_eq_none_iff.mpr (numberExtent?_eq_none_of_begins notDigit ?_)
    rintro rfl
    exact absurd letter (by decide)
  | namedPlaceholder marks =>
    refine (Dialect.named_read?_eq_none_iff member).mpr fun mark => ?_
    have nameless := Dialect.isNameChar_mark mark
    rw [Dialect.isNameChar_of_isWordChar letter] at nameless
    cases nameless
  | bracketWord | reserved => cases yields
  | word | operator => simp [Rule.rank] at notWord
  | _ => exact fixed rfl

end QueryLayout
