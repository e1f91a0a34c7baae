import QueryLayout.Proofs.Vocabulary

namespace QueryLayout

/-- A reserved word stands at the start of a text: it is spelled out there and no word character follows. -/
def Stands (word : Phrase) (text : List Char) : Prop :=
  ∃ raw rest, text = raw ++ rest ∧ Occurs word raw ∧ begins isWordChar rest = false

theorem Tracks.stands {hyphens : Bool} {text shown : List Char} (tracks : Tracks hyphens text shown)
    {word : Phrase} (entry : word.isEntry hyphens) (stands : Stands word shown) : Stands word text := by
  obtain ⟨spelled, later, split, occurs, ends⟩ := stands
  exact tracks.occurs entry split occurs ends

theorem Stands.first {hyphens : Bool} {word : Phrase} {text : List Char} (stands : Stands word text)
    (entry : word.isEntry hyphens) : begins isWordChar text ∧ begins isAsciiDigit text = false := by
  obtain ⟨raw, rest, rfl, occurs, _⟩ := stands
  obtain ⟨c, tail, rfl, letter, digit⟩ := occurs.first entry
  exact ⟨letter, digit⟩

section Words

variable {hyphens : Bool} {words : List Phrase} (entries : ∀ word ∈ words, word.isEntry hyphens)

include entries

theorem wordExtent?_eq_none_iff {before : Option Char} {text : List Char} :
    wordExtent? words before text = none ↔ ∀ word ∈ words, ¬ Stands word text := by
  simp only [wordExtent?, List.findSome?_eq_none_iff]
  refine forall₂_congr fun word member => ?_
  rw [Option.eq_none_iff_forall_ne_some]
  constructor
  · rintro none ⟨raw, rest, split, occurs, ends⟩
    exact none raw.length ((Phrase.wordExtent_iff (entries word member)).mpr ⟨raw, rest, split, rfl, occurs, ends⟩)
  · intro absent length found
    obtain ⟨raw, rest, split, _, occurs, ends⟩ := (Phrase.wordExtent_iff (entries word member)).mp found
    exact absent ⟨raw, rest, split, occurs, ends⟩

/-- The reserved word that is found is the first one of the list that stands at the start of the text. -/
theorem wordExtent?_eq_some_iff {before : Option Char} {raw rest : List Char} :
    wordExtent? words before (raw ++ rest) = some raw.length ↔
      begins isWordChar rest = false ∧ ∃ earlier word later, words = earlier ++ word :: later ∧ Occurs word raw ∧
        ∀ other ∈ earlier, ¬ Stands other (raw ++ rest) := by
  have absent : ∀ word ∈ words, (word.extent? sameFolded (raw ++ rest)).filter (boundaryAt before (raw ++ rest)) =
      none ↔ ¬ Stands word (raw ++ rest) := by
    intro word member
    have single : ∀ other ∈ [word], other.isEntry hyphens := by simpa using entries word member
    have none : wordExtent? [word] before (raw ++ rest) = none ↔ _ := wordExtent?_eq_none_iff single
    simpa [wordExtent?, List.findSome?_eq_none_iff] using none
  simp only [wordExtent?, List.findSome?_eq_some_iff]
  constructor
  · rintro ⟨earlier, word, later, rfl, found, failed⟩
    obtain ⟨spelled, after, split, size, occurs, ends⟩ := (Phrase.wordExtent_iff (entries word (by simp))).mp found
    obtain ⟨rfl, rfl⟩ := List.append_inj split size.symm
    exact ⟨ends, earlier, word, later, rfl, occurs,
      fun other member => (absent other (by simp [member])).mp (failed other member)⟩
  · rintro ⟨ends, earlier, word, later, rfl, occurs, failed⟩
    exact ⟨earlier, word, later, rfl,
      (Phrase.wordExtent_iff (entries word (by simp))).mpr ⟨raw, rest, rfl, rfl, occurs, ends⟩,
      fun other member => (absent other (by simp [member])).mpr (failed other member)⟩

theorem boundaryAt_zero {word : Phrase} (member : word ∈ words) {text : List Char} (stands : Stands word text)
    (before : Option Char) : boundaryAt before text 0 = !before.any isWordChar := by
  have first := (stands.first (entries word member)).1
  obtain ⟨c, tail, rfl⟩ : ∃ c tail, text = c :: tail := by
    cases text with
    | nil => cases first
    | cons c tail => exact ⟨c, tail, rfl⟩
  have letter : isWordChar c := first
  simp [boundaryAt, isBoundary, letter]

theorem reserved_read?_eq_none_iff {reservedClass : ReservedClass} {previous : Option Token} {text : List Char} :
    (Rule.reserved reservedClass words).read? previous text = none ↔
      ∀ word ∈ words, Stands word text → followsPeriod previous := by
  rw [Rule.read?_eq_none_iff]
  simp only [Rule.yieldsToPeriod, Bool.true_and, Rule.match?]
  constructor
  · rintro (period | empty) word member stands
    · exact period
    · exfalso
      obtain ⟨length, found⟩ : ∃ length, wordExtent? words (lastChar previous) text = some length := by
        apply Option.ne_none_iff_exists'.mp
        intro none
        exact (wordExtent?_eq_none_iff entries).mp none word member stands
      have zero := empty _ (by rw [found]; rfl)
      obtain ⟨other, inWords, atOther⟩ := List.exists_of_findSome?_eq_some found
      obtain ⟨raw, _, _, size, occurs, _⟩ := (Phrase.wordExtent_iff (entries other inWords)).mp atOther
      obtain ⟨_, _, rfl, _⟩ := occurs.first (entries other inWords)
      rw [← size] at zero
      cases zero
  · intro absent
    by_cases period : followsPeriod previous
    · exact Or.inl period
    · refine Or.inr fun found matched => ?_
      rw [(wordExtent?_eq_none_iff entries).mpr fun word member stands => period (absent word member stands)]
        at matched
      cases matched

/-- A word for a bracket must also begin where a word begins. -/
theorem bracketWord_read?_eq_none_iff {side : BracketSide} {previous : Option Token} {text : List Char} :
    (Rule.bracketWord side words).read? previous text = none ↔
      ∀ word ∈ words, Stands word text → followsPeriod previous ∨ (lastChar previous).any isWordChar := by
  have alike : (Rule.bracketWord side words).read? previous text = none ↔
      boundaryAt (lastChar previous) text 0 = false ∨
        (Rule.reserved .plain words).read? previous text = none := by
    rw [Rule.read?_eq_none_iff, Rule.read?_eq_none_iff]
    cases boundary : boundaryAt (lastChar previous) text 0 <;> simp [Rule.match?, Rule.yieldsToPeriod, boundary]
  rw [alike, reserved_read?_eq_none_iff entries]
  constructor
  · rintro (inside | absent) word member stands
    · rw [boundaryAt_zero entries member stands] at inside
      exact Or.inr (by simpa using inside)
    · exact Or.inl (absent word member stands)
  · intro absent
    by_cases none : ∀ word ∈ words, ¬ Stands word text
    · exact Or.inr fun word member stands => absurd stands (none word member)
    · push Not at none
      obtain ⟨word, member, stands⟩ := none
      rw [boundaryAt_zero entries member stands]
      by_cases inside : (lastChar previous).any isWordChar
      · exact Or.inl (by simp [inside])
      · refine Or.inr fun other inWords standsToo => ?_
        rcases absent other inWords standsToo with period | letter
        · exact period
        · exact absurd letter inside

end Words

/-- A rule reads a token where it finds a match of the token's length. -/
theorem Rule.match?_of_read? {rule : Rule} {previous : Option Token} {token : Token} {rest : List Char}
    (someRaw : token.raw ≠ []) (read : rule.read? previous (token.raw ++ rest) = some token) :
    (rule.yieldsToPeriod && followsPeriod previous) = false ∧
      ∃ key, rule.match? (lastChar previous) (token.raw ++ rest) = some ⟨token.raw.length, key⟩ ∧
        token = Token.ofRaw rule.kind token.raw key := by
  obtain ⟨free, found, matched, _, same⟩ := Rule.read?_eq_some_iff.mp read
  have bound := Rule.match?_length_le (by simp [someRaw]) matched
  have raw : token.raw = (token.raw ++ rest).take found.length := by
    conv_lhs => rw [same]
    rfl
  have size : found.length = token.raw.length := by
    have length := congrArg List.length raw
    rw [List.length_take] at length
    omega
  refine ⟨free, found.key, ?_, ?_⟩
  · rw [matched, ← size]
  · rw [← raw] at same
    exact same

theorem Rule.read?_of_match? {rule : Rule} {previous : Option Token} {raw rest key : List Char}
    (free : (rule.yieldsToPeriod && followsPeriod previous) = false) (someRaw : raw ≠ [])
    (matched : rule.match? (lastChar previous) (raw ++ rest) = some ⟨raw.length, key⟩) :
    rule.read? previous (raw ++ rest) = some (Token.ofRaw rule.kind raw key) := by
  refine Rule.read?_eq_some_iff.mpr ⟨free, ⟨raw.length, key⟩, matched, by simpa using someRaw, ?_⟩
  rw [List.take_left]

end QueryLayout
