import QueryLayout.Proofs.Readers

namespace QueryLayout

/-- How far a rule reaches at the start of a text, where `before` is the character that the text follows. -/
def Rule.extent? (rule : Rule) (before : Option Char) (text : List Char) : Option Nat :=
  (rule.match? before text).map Match.length

/-- The lookup name in the raw text of a token that a rule reads. -/
def Rule.keyOf : Rule → List Char → List Char
  | .namedPlaceholder _, raw => raw.tail
  | .quotedPlaceholder _ _, raw => unquote raw.tail
  | .positionalPlaceholder _, raw => raw.tail
  | _, _ => []

variable {dialect : Dialect} {rule : Rule} {before : Option Char} {previous : Option Token} {token : Token}
  {raw rest key : List Char}

theorem takeWhile_of_run {p : Char → Bool} (size : ((raw ++ rest).takeWhile p).length = raw.length) :
    (raw ++ rest).takeWhile p = raw := by
  have starts : (raw ++ rest).takeWhile p <+: raw ++ rest := List.takeWhile_prefix p
  exact (List.prefix_of_prefix_length_le starts (List.prefix_append raw rest) size.le).eq_of_length size

/-- The name under which a placeholder is looked up can be told from its raw text. -/
theorem Dialect.key_eq_keyOf (member : rule ∈ dialect.rules) (someRaw : raw ≠ [])
    (matched : rule.match? before (raw ++ rest) = some ⟨raw.length, key⟩) : key = rule.keyOf raw := by
  obtain ⟨c, tail, rfl⟩ := List.exists_cons_of_ne_nil someRaw
  rw [List.cons_append] at matched
  cases rule with
  | namedPlaceholder marks =>
    simp only [Rule.match?, Dialect.namedPlaceholder_mem member, namedMatch?_cons] at matched
    split at matched
    case isFalse => cases matched
    have found := Option.some.inj matched
    have size := congrArg Match.length found
    simp only [List.length_cons] at size
    exact (congrArg Match.key found).symm.trans (takeWhile_of_run (by omega))
  | quotedPlaceholder marks styles =>
    obtain ⟨sorted, _⟩ := Dialect.quotedPlaceholder_mem member
    simp only [Rule.match?, sorted, quotedMatch?_cons] at matched
    split at matched
    case isFalse => cases matched
    obtain ⟨length, _, found⟩ := Option.map_eq_some_iff.mp matched
    have size := congrArg Match.length found
    simp only [List.length_cons] at size
    have fits : length = tail.length := by omega
    rw [fits, List.take_left] at found
    exact (congrArg Match.key found).symm
  | positionalPlaceholder marks =>
    simp only [Rule.match?, Dialect.positionalPlaceholder_mem member, positionalMatch?_cons] at matched
    split at matched
    case isFalse => cases matched
    have found := Option.some.inj matched
    have size := congrArg Match.length found
    simp only [List.length_cons] at size
    exact (congrArg Match.key found).symm.trans (takeWhile_of_run (by omega))
  | bracketSymbol side | bracketWord side =>
    exact Rule.match?_key matched (by cases side <;> simp [Rule.kind, BracketSide.kind])
  | reserved reservedClass =>
    exact Rule.match?_key matched (by cases reservedClass <;> simp [Rule.kind, ReservedClass.kind])
  | _ => exact Rule.match?_key matched (by simp [Rule.kind])

theorem Rule.read?_eq_none_iff_extent? {text : List Char} :
    rule.read? previous text = none ↔
      (rule.yieldsToPeriod && followsPeriod previous) = true ∨
        ∀ length, rule.extent? (lastChar previous) text = some length → length = 0 := by
  simp only [Rule.read?_eq_none_iff, Rule.extent?, Option.map_eq_some_iff, forall_exists_index, and_imp,
    forall_apply_eq_imp_iff₂]

/-- A token is made of the rule that reads it and of its raw text, and where a rule reads it is a matter of how
far the rule reaches. -/
theorem Dialect.read?_eq_some_iff (member : rule ∈ dialect.rules) (someRaw : token.raw ≠ []) :
    rule.read? previous (token.raw ++ rest) = some token ↔
      (rule.yieldsToPeriod && followsPeriod previous) = false ∧
        rule.extent? (lastChar previous) (token.raw ++ rest) = some token.raw.length ∧
        token = Token.ofRaw rule.kind token.raw (rule.keyOf token.raw) := by
  constructor
  · intro read
    obtain ⟨free, key, matched, same⟩ := Rule.match?_of_read? someRaw read
    refine ⟨free, by rw [Rule.extent?, matched]; rfl, ?_⟩
    rwa [← Dialect.key_eq_keyOf member someRaw matched]
  · rintro ⟨free, reaches, same⟩
    obtain ⟨⟨_, key⟩, matched, rfl⟩ := Option.map_eq_some_iff.mp reaches
    rw [Rule.read?_of_match? free someRaw matched, Dialect.key_eq_keyOf member someRaw matched, ← same]

end QueryLayout
