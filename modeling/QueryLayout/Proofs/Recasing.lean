import QueryLayout.Proofs.Letters
import QueryLayout.Proofs.Lossless
import QueryLayout.Proofs.Rereading

namespace QueryLayout

/-- A raw text that a token may be given instead of its own: in a bracket or a reserved word the case of ASCII
letters may differ. -/
def Token.Recases (token : Token) (raw : List Char) : Prop :=
  if token.kind.isUpperCased then SameLetters token.raw raw else raw = token.raw

instance (token : Token) (raw : List Char) : Decidable (token.Recases raw) :=
  inferInstanceAs (Decidable (if token.kind.isUpperCased then lower token.raw = lower raw else raw = token.raw))

variable {dialect : Dialect} {before after : Option Token} {token : Token} {rule tried : Rule}
  {raw rest other : List Char}

theorem Token.Recases.sameLetters (recases : token.Recases raw) : SameLetters token.raw raw := by
  unfold Token.Recases at recases
  split at recases
  · exact recases
  · rw [recases]
    rfl

theorem Token.Recases.eq_raw (recases : token.Recases raw) (plain : token.kind.isUpperCased = false) :
    raw = token.raw := by
  simpa [Token.Recases, plain] using recases

theorem SameLetters.append (alike : SameLetters token.raw raw) (later : SameLetters rest other) :
    SameLetters (token.raw ++ rest) (raw ++ other) := by
  rw [SameLetters, lower_append, lower_append, alike, later]

theorem SameLetters.upperCase (alike : SameLetters rest other) : upperCase rest = upperCase other := by
  refine alike.apply fun text => ?_
  simp [QueryLayout.upperCase, lower, List.flatMap_map, upperChar_toLower]

theorem SameLetters.length (alike : SameLetters rest other) : rest.length = other.length :=
  alike.apply fun _ => List.length_map _

theorem SameLetters.last (alike : SameLetters rest other) :
    rest.getLast?.any isWordChar = other.getLast?.any isWordChar :=
  alike.apply (f := fun text => text.getLast?.any isWordChar)
    fun text => by simp [lower, List.getLast?_map, Option.any_map, isWordChar_toLower]

theorem SameLetters.eq_singleton {c : Char} (alike : SameLetters [c] raw) (caseless : c.isAlpha = false) :
    raw = [c] := by
  obtain ⟨d, rfl⟩ := List.length_eq_one_iff.mp alike.length.symm
  have heads := (sameLetters_cons.mp alike).1
  rw [(toLower_eq_iff caseless).mpr rfl] at heads
  rw [(toLower_eq_iff caseless).mp heads.symm]

theorem SameLetters.first_two {c d : Char} {tail : List Char} (alike : SameLetters (c :: d :: tail) raw)
    (first : isWordChar c ∧ isAsciiDigit c = false ∧ d ≠ '\x27') :
    ∃ e f later, raw = e :: f :: later ∧ isWordChar e ∧ isAsciiDigit e = false ∧ f ≠ '\x27' := by
  have quote := @toLower_eq_iff '\x27' (by decide)
  rcases raw with _ | ⟨e, _ | ⟨f, later⟩⟩
  · cases alike
  · cases alike.length
  · obtain ⟨heads, tails⟩ := sameLetters_cons.mp alike
    have seconds := (sameLetters_cons.mp tails).1
    refine ⟨e, f, later, rfl, ?_, ?_, ?_⟩
    · rw [← isWordChar_toLower, ← heads, isWordChar_toLower, first.1]
    · rw [← isAsciiDigit_toLower, ← heads, isAsciiDigit_toLower, first.2.1]
    · rw [ne_eq, ← quote, ← seconds, quote]
      exact first.2.2

section Openings

/-- A fixed beginning without letters behind a text stands in both or in none of two texts that go on alike. -/
theorem SameLetters.prefix_append_iff (alike : SameLetters rest other) {raw opening : List Char}
    (caseless : ∀ c ∈ opening.drop raw.length, c.isAlpha = false) :
    opening <+: raw ++ rest ↔ opening <+: raw ++ other := by
  induction raw generalizing opening with
  | nil => exact alike.prefix_iff (by simpa using caseless)
  | cons c raw ih =>
    cases opening with
    | nil => simp
    | cons d opening =>
      have later := ih (show ∀ c ∈ opening.drop raw.length, c.isAlpha = false by simpa using caseless)
      rw [List.cons_append, List.cons_append, List.cons_prefix_cons, List.cons_prefix_cons, later]

theorem Dialect.casedOpening_cases (member : tried ∈ dialect.rules) {opening : List Char}
    (cased : opening ∈ tried.casedOpenings) :
    opening = ['N', '\x27'] ∨ (tried.rank = 9 ∧ ∃ mark ∈ dialect.marks, opening = [mark, 'N', '\x27']) ∨
      (tried.rank = 11 ∧ ∃ base, opening = ['0', base] ∧ isWordChar base) := by
  cases tried with
  | literal => exact Or.inl (by simpa [Rule.casedOpenings] using cased)
  | quotedPlaceholder marks styles =>
    rw [(Dialect.quotedPlaceholder_mem member).1] at cased
    obtain ⟨phrase, inMarks, rfl⟩ := List.mem_map.mp cased
    obtain ⟨mark, isMark, rfl⟩ := List.mem_map.mp inMarks
    exact Or.inr (Or.inl ⟨rfl, mark, isMark, rfl⟩)
  | number =>
    simp only [Rule.casedOpenings, List.mem_cons, List.not_mem_nil, or_false] at cased
    rcases cased with rfl | rfl
    · exact Or.inr (Or.inr ⟨rfl, 'x', rfl, by decide⟩)
    · exact Or.inr (Or.inr ⟨rfl, 'b', rfl, by decide⟩)
  | _ => cases cased

/-- No word of two characters or more has such a beginning. -/
theorem Dialect.not_casedOpening (member : tried ∈ dialect.rules) {c d : Char} {text opening : List Char}
    (letter : isWordChar c) (notDigit : isAsciiDigit c = false) (inner : d ≠ '\x27')
    (cased : opening ∈ tried.casedOpenings) : ¬ opening <+: c :: d :: text := by
  rcases Dialect.casedOpening_cases member cased with rfl | ⟨_, mark, isMark, rfl⟩ | ⟨_, base, rfl, _⟩
  · simp [Ne.symm inner]
  · have wordless := (Dialect.mark_sort (List.mem_append_left _ isMark)).1
    rintro ⟨later, split⟩
    rw [(List.cons.inj split).1, letter] at wordless
    cases wordless
  · rintro ⟨later, split⟩
    rw [← (List.cons.inj split).1] at notDigit
    exact absurd notDigit (by decide)

/-- An opening of two characters or more does not reach beyond a first character that the second one cannot
follow. -/
theorem not_opening_of_begins {p : Char → Bool} {c first second : Char} {more text : List Char}
    (none : c = first → begins p text = false) (follows : p second) :
    ¬ (first :: second :: more) <+: [c] ++ text := by
  rintro ⟨later, same⟩
  obtain ⟨rfl, rfl⟩ := List.cons.inj same
  have stops : p second = false := none rfl
  rw [follows] at stops
  cases stops

variable (someRaw : token.raw ≠ [])

include someRaw

/-- A bracket or a reserved word is one symbol, or it begins with two characters of which the first is a letter
and the second no quote. -/
theorem ReadBy.upperCased_shape (reads : ReadBy dialect before (token.raw ++ rest) token rule)
    (upper : token.kind.isUpperCased) :
    (rule.rank < 8 ∧ ∃ side, ∃ c ∈ dialect.lexicon.symbols side, token.raw = [c]) ∨
      ∃ c d tail, token.raw = c :: d :: tail ∧ isWordChar c ∧ isAsciiDigit c = false ∧ d ≠ '\x27' := by
  rw [reads.kind] at upper
  cases rule with
  | bracketSymbol side =>
    refine Or.inl ⟨?_, side, reads.symbol someRaw⟩
    cases side <;> simp [Rule.rank]
  | bracketWord | reserved =>
    obtain ⟨_, _, word, entry, occurs⟩ := reads.phrase someRaw rfl
    exact Or.inr (occurs.second entry)
  | _ => cases upper

/-- A number or a name ends where no word character follows. -/
theorem ReadBy.digit_ends (reads : ReadBy dialect before (token.raw ++ rest) token rule)
    (plain : token.kind.isUpperCased = false) (high : 11 ≤ rule.rank) (digit : begins isAsciiDigit token.raw) :
    begins isWordChar rest = false := by
  rw [reads.kind] at plain
  cases rule with
  | number =>
    obtain ⟨_, _, ends, _⟩ := reads.number someRaw
    exact ends
  | word => exact begins_eq_false_of_imp (fun c => dialect.isNameChar_of_isWordChar) (reads.word someRaw).2
  | operator =>
    have nameless := (reads.operator someRaw).2
    obtain ⟨c, tail, split⟩ := List.exists_cons_of_ne_nil someRaw
    rw [split] at digit nameless
    rw [begins_cons, dialect.isNameChar_of_isWordChar (isWordChar_of_isAsciiDigit digit)] at nameless
    cases nameless
  | bracketSymbol side | bracketWord side => cases side <;> cases plain
  | reserved reservedClass => cases reservedClass <;> cases plain
  | _ => simp [Rule.rank] at high

/-- Whether a text has a fixed beginning with a letter in it does not depend on the case of what follows its first
token, unless that is a bracket or a reserved word. -/
theorem ReadBy.casedOpening_plain (reads : ReadBy dialect before (token.raw ++ rest) token rule)
    (plain : token.kind.isUpperCased = false) (alike : SameLetters rest other) (member : tried ∈ dialect.rules)
    (lower : tried.rank ≤ rule.rank) {opening : List Char} (cased : opening ∈ tried.casedOpenings) :
    opening <+: token.raw ++ rest ↔ opening <+: token.raw ++ other := by
  obtain ⟨c, tail, split⟩ := List.exists_cons_of_ne_nil someRaw
  have quote : ∀ count, ∀ c ∈ ['\x27'].drop count, c.isAlpha = false := by
    intro count c inQuote
    rw [List.mem_singleton.mp (List.mem_of_mem_drop inQuote)]
    decide
  rcases Dialect.casedOpening_cases member cased with
    rfl | ⟨quoted, mark, isMark, rfl⟩ | ⟨number, base, rfl, letter⟩
  · rw [split]
    exact alike.prefix_append_iff (quote tail.length)
  · rw [split]
    cases tail with
    | cons d tail => exact alike.prefix_append_iff (quote tail.length)
    | nil =>
      -- a mark and a name are read together, so that none of the two texts goes on with a letter here
      have keyless : c = mark → begins isKeyChar rest = false ∧ begins isKeyChar other = false := by
        rintro rfl
        have failed := reads.failed _ (Dialect.named_mem isMark) (by rw [quoted] at lower; exact lower)
        rw [split, List.singleton_append, Dialect.named_read?_eq_none_iff (Dialect.named_mem isMark)] at failed
        have ends := failed isMark
        exact ⟨ends, by rwa [← alike.apply (begins_lower isKeyChar_toLower)]⟩
      have follows : isKeyChar 'N' := by decide
      exact iff_of_false (not_opening_of_begins (fun same => (keyless same).1) follows)
        (not_opening_of_begins (fun same => (keyless same).2) follows)
  · rw [split]
    cases tail with
    | cons d tail => exact alike.prefix_append_iff (by simp)
    | nil =>
      have wordless : c = '0' → begins isWordChar rest = false ∧ begins isWordChar other = false := by
        rintro rfl
        have ends := reads.digit_ends someRaw plain (number ▸ lower) (by rw [split]; decide)
        exact ⟨ends, by rwa [← alike.apply (begins_lower isWordChar_toLower)]⟩
      exact iff_of_false (not_opening_of_begins (fun same => (wordless same).1) letter)
        (not_opening_of_begins (fun same => (wordless same).2) letter)

/-- Recasing brackets and reserved words leaves the fixed beginnings alone that are spelled with a letter. -/
theorem ReadBy.casedOpening (reads : ReadBy dialect before (token.raw ++ rest) token rule)
    (recases : token.Recases raw) (alike : SameLetters rest other) (member : tried ∈ dialect.rules)
    (lower : tried.rank ≤ rule.rank) {opening : List Char} (cased : opening ∈ tried.casedOpenings) :
    opening <+: token.raw ++ rest ↔ opening <+: raw ++ other := by
  by_cases upper : token.kind.isUpperCased
  · have letters := recases.sameLetters
    rcases reads.upperCased_shape someRaw upper with ⟨low, side, c, symbol, split⟩ | ⟨c, d, tail, split, first⟩
    · rw [split] at letters
      have same := letters.eq_singleton (Dialect.caseless_symbol symbol)
      have wordless := (Dialect.symbol_sort symbol).1
      have national : opening = ['N', '\x27'] := by
        rcases Dialect.casedOpening_cases member cased with national | ⟨quoted, _⟩ | ⟨number, _⟩
        · exact national
        · omega
        · omega
      have absent : ∀ text, ¬ opening <+: [c] ++ text := by
        rw [national]
        rintro text ⟨later, same⟩
        rw [← (List.cons.inj same).1] at wordless
        exact absurd wordless (by decide)
      rw [split, same]
      exact iff_of_false (absent rest) (absent other)
    · rw [split] at letters
      obtain ⟨e, f, later, rfl, again⟩ := letters.first_two first
      rw [split]
      exact iff_of_false (Dialect.not_casedOpening member first.1 first.2.1 first.2.2 cased)
        (Dialect.not_casedOpening member again.1 again.2.1 again.2.2 cased)
  · have plain : token.kind.isUpperCased = false := by simpa using upper
    rw [recases.eq_raw plain]
    exact reads.casedOpening_plain someRaw plain alike member lower cased

end Openings

/-- The same token with another raw text. -/
def Token.respelled (token : Token) (raw : List Char) : Token :=
  { token with raw := raw }

/-- What the rules see of the tokens before two texts is the same. -/
structure SeenAlike (before after : Option Token) : Prop where
  period : followsPeriod before = followsPeriod after
  last : (lastChar before).any isWordChar = (lastChar after).any isWordChar

theorem Token.Recases.seenAlike (recases : token.Recases raw) :
    SeenAlike (some token) (some (token.respelled raw)) :=
  ⟨rfl, recases.sameLetters.last⟩

/-- A token is made of its rule and its new raw text just as it was made of the old one. -/
theorem Token.Recases.respelled_eq (recases : token.Recases raw)
    (made : token = Token.ofRaw rule.kind token.raw (rule.keyOf token.raw)) :
    token.respelled raw = Token.ofRaw rule.kind raw (rule.keyOf raw) := by
  have kind : token.kind = rule.kind := congrArg Token.kind made
  have value : token.value = if rule.kind.isUpperCased then upperCase token.raw else token.raw :=
    congrArg Token.value made
  have key : token.key = rule.keyOf token.raw := congrArg Token.key made
  by_cases upper : rule.kind.isUpperCased
  · have keyless : ∀ raw, rule.keyOf raw = [] := by
      intro raw
      cases rule with
      | namedPlaceholder | quotedPlaceholder | positionalPlaceholder => cases upper
      | _ => rfl
    simp only [Token.respelled, Token.ofRaw, kind, value, key, keyless, upper, if_true,
      recases.sameLetters.upperCase]
  · have same := recases.eq_raw (by rw [kind]; simpa using upper)
    simp only [Token.respelled, Token.ofRaw, kind, value, key, same]

theorem Token.Recases.ne_nil (recases : token.Recases raw) (someRaw : token.raw ≠ []) : raw ≠ [] := by
  have size := recases.sameLetters.length
  rintro rfl
  exact someRaw (List.length_eq_zero_iff.mp size)

/-- A token with its letters in another case is read where it was read before, by the same rule. -/
theorem ReadBy.respell (reads : ReadBy dialect before (token.raw ++ rest) token rule) (someRaw : token.raw ≠ [])
    (recases : token.Recases raw) (alike : SameLetters rest other) (seen : SeenAlike before after) :
    ReadBy dialect after (raw ++ other) (token.respelled raw) rule := by
  have letters := recases.sameLetters
  have reaches : ∀ tried ∈ dialect.rules, tried.rank ≤ rule.rank →
      tried.extent? (lastChar before) (token.raw ++ rest) = tried.extent? (lastChar after) (raw ++ other) :=
    fun tried member lower => Dialect.extent?_sameLetters member (letters.append alike) seen.last
      fun opening cased => reads.casedOpening someRaw recases alike member lower cased
  have someOther : (token.respelled raw).raw ≠ [] := recases.ne_nil someRaw
  obtain ⟨free, extent, made⟩ := (Dialect.read?_eq_some_iff reads.member someRaw).mp reads.read
  refine ⟨reads.member, ?_, fun earlier member lower => ?_⟩
  · refine (Dialect.read?_eq_some_iff reads.member someOther).mpr ⟨seen.period ▸ free, ?_,
      recases.respelled_eq made⟩
    rw [reaches rule reads.member (Nat.le_refl _), letters.length] at extent
    exact extent
  · have failed := reads.failed earlier member lower
    rw [Rule.read?_eq_none_iff_extent?] at failed ⊢
    rwa [← seen.period, ← reaches earlier member (Nat.le_of_lt lower)]

/-- The tokens of a text are read from the text with their new raw texts. -/
theorem Reading.respell {text : List Char} {tokens : List Token} {raws : List (List Char)}
    (reading : Reading dialect.rules before text tokens) (recases : List.Forall₂ Token.Recases tokens raws)
    (seen : SeenAlike before after) :
    Reading dialect.rules after raws.flatten (List.zipWith Token.respelled tokens raws) ∧
      SameLetters text raws.flatten := by
  induction reading generalizing after raws with
  | done =>
    cases recases
    exact ⟨.done, rfl⟩
  | next someRaw read _ ih =>
    obtain ⟨raw, later, first, rest, rfl⟩ := List.forall₂_cons_left_iff.mp recases
    obtain ⟨tail, alike⟩ := ih rest first.seenAlike
    obtain ⟨rule, reads⟩ := Dialect.readFirst?_eq_some_iff.mp read
    have again := reads.respell someRaw first alike seen
    exact ⟨.next (first.ne_nil someRaw) (Dialect.readFirst?_eq_some_iff.mpr ⟨rule, again⟩) tail,
      first.sameLetters.append alike⟩

/-- A token without its raw text. -/
def Token.bare (token : Token) : Token :=
  token.respelled []

section Respelled

variable {tokens : List Token} {raws : List (List Char)} (recases : List.Forall₂ Token.Recases tokens raws)

include recases

theorem forall₂_respelled :
    List.Forall₂ (fun token other => other.kind = token.kind ∧ other.value = token.value ∧ other.key = token.key)
      tokens (List.zipWith Token.respelled tokens raws) := by
  induction recases with
  | nil => exact .nil
  | cons _ _ ih => exact .cons ⟨rfl, rfl, rfl⟩ ih

theorem map_bare_respelled : (List.zipWith Token.respelled tokens raws).map Token.bare = tokens.map Token.bare := by
  induction recases with
  | nil => rfl
  | @cons token _ _ _ _ _ ih => exact congrArg (token.bare :: ·) ih

end Respelled

section Layouts

/-- A layout that has forgotten the raw texts of the tokens it remembers. -/
def Layout.bare (layout : Layout) : Layout :=
  { layout with
    lastWord := layout.lastWord.map Token.bare
    previous := layout.previous.map Token.bare
    visible := layout.visible.map Token.bare }

variable (layout : Layout) (style : Style) (token : Token)

theorem Layout.tighten_bare : layout.bare.tighten = layout.tighten.bare := by
  have comment : layout.bare.visible.any (·.kind == .lineComment) = layout.visible.any (·.kind == .lineComment) :=
    Option.any_map
  unfold Layout.tighten
  rw [comment, apply_ite Layout.bare]
  rfl

theorem Layout.placeComma_bare :
    layout.bare.placeComma style token.bare = (layout.placeComma style token).bare := by
  have words : ∀ layout : Layout, layout.bare.afterRowLimit style = layout.afterRowLimit style :=
    fun layout => Option.any_map
  have spaced : layout.bare.tighten.writeSpaced token.bare.value =
      (layout.tighten.writeSpaced token.value).bare := by
    rw [layout.tighten_bare]
    rfl
  unfold Layout.placeComma
  rw [spaced, apply_ite Layout.bare]
  simp only [words]
  rfl

theorem Layout.placePlain_bare :
    layout.bare.placePlain style token.bare = (layout.placePlain style token).bare := by
  unfold Layout.placePlain
  rw [layout.placeComma_bare, layout.tighten_bare]
  simp only [apply_ite Layout.bare]
  rfl

theorem Layout.placeClosing_bare :
    layout.bare.placeClosing style token.bare = (layout.placeClosing style token).bare := by
  have tight : { layout.bare with inline := false }.tighten = { layout with inline := false }.tighten.bare :=
    { layout with inline := false }.tighten_bare
  unfold Layout.placeClosing
  rw [tight, apply_ite Layout.bare]
  rfl

theorem groupCloses_bare (limit level length : Int) (tokens : List Token) :
    groupCloses limit level length (tokens.map Token.bare) = groupCloses limit level length tokens := by
  induction tokens generalizing level length with
  | nil => rfl
  | cons token rest ih =>
    simp only [List.map_cons, groupCloses, ih]
    rfl

theorem Layout.placeOpening_bare (rest : List Token) :
    layout.bare.placeOpening style token.bare (rest.map Token.bare) =
      (layout.placeOpening style token rest).bare := by
  have keeps : layout.bare.previous.any (·.kind.keepsSpace) = layout.previous.any (·.kind.keepsSpace) :=
    Option.any_map
  have stays : staysInline layout.bare.inline style.inlineLimit (token.bare :: rest.map Token.bare) =
      staysInline layout.inline style.inlineLimit (token :: rest) :=
    congrArg (layout.inline || ·) (groupCloses_bare style.inlineLimit 0 0 (token :: rest))
  unfold Layout.placeOpening
  rw [keeps, stays]
  cases layout.previous.any (·.kind.keepsSpace)
  all_goals
    simp only [apply_ite Layout.bare]
    rfl

theorem Layout.placeBlockComment_bare :
    layout.bare.placeBlockComment style token.bare = (layout.placeBlockComment style token).bare := by
  have broken : layout.bare.breakLine style = (layout.breakLine style).bare := rfl
  unfold Layout.placeBlockComment
  rw [broken]
  generalize layout.breakLine style = next
  rfl

theorem Layout.placePlaceholder_bare :
    layout.bare.placePlaceholder style token.bare = (layout.placePlaceholder style token).bare := by
  have resolved : style.params.resolve layout.cursor token.bare = style.params.resolve layout.cursor token := by
    cases style.params <;> rfl
  unfold Layout.placePlaceholder
  rw [show layout.bare.cursor = layout.cursor from rfl, resolved]
  rfl

theorem Layout.step_bare (rest : List Token) :
    layout.bare.step style token.bare (rest.map Token.bare) = (layout.step style token rest).bare := by
  have placed : layout.bare.place style token.bare (rest.map Token.bare) =
      (layout.place style token rest).bare := by
    unfold Layout.place
    rw [show token.bare.kind = token.kind from rfl]
    cases token.kind with
    | opening => exact layout.placeOpening_bare style token rest
    | closing => exact layout.placeClosing_bare style token
    | placeholder => exact layout.placePlaceholder_bare style token
    | blockComment => exact layout.placeBlockComment_bare style token
    | word | literal | number | operator | reserved => exact layout.placePlain_bare style token
    | _ => rfl
  have seen : (if token.bare.kind = .blank then layout.bare.visible else some token.bare) =
      (if token.kind = .blank then layout.visible else some token).map Token.bare := by
    rw [apply_ite (Option.map Token.bare)]
    rfl
  unfold Layout.step
  rw [placed, seen]
  rfl

/-- Raw texts have no part in how tokens are laid out. -/
theorem Layout.run_bare (tokens : List Token) :
    Layout.run style layout.bare (tokens.map Token.bare) = (Layout.run style layout tokens).bare := by
  induction tokens generalizing layout with
  | nil => rfl
  | cons token rest ih => rw [List.map_cons, Layout.run, layout.step_bare style token rest, ih, Layout.run]

theorem layoutTokens_bare (tokens : List Token) :
    layoutTokens style (tokens.map Token.bare) = layoutTokens style tokens := by
  have run := Layout.run_bare {} style tokens
  rw [layoutTokens, Layout.ofTokens, show ({} : Layout) = Layout.bare {} from rfl, run]
  rfl

end Layouts

/-- The letter case of brackets and reserved words does not matter: with other raw texts for them a query has
tokens of the same kinds, values and keys, and it is laid out the same. -/
theorem Dialect.format_recased (dialect : Dialect) (unit : List Char) (params : Params) (query : List Char)
    {raws : List (List Char)} (recases : List.Forall₂ Token.Recases (tokenize dialect.rules query) raws) :
    List.Forall₂ (fun token other => other.kind = token.kind ∧ other.value = token.value ∧ other.key = token.key)
        (tokenize dialect.rules query) (tokenize dialect.rules raws.flatten) ∧
      dialect.format unit params raws.flatten = dialect.format unit params query := by
  have reading : Reading dialect.rules none query (tokenize dialect.rules query) :=
    dialect.lexicon.reading_tokenize query
  have again := (reading.respell recases ⟨rfl, rfl⟩).1
  have tokens : tokenize dialect.rules raws.flatten = _ := again.scan_eq
  rw [Dialect.format, Dialect.format, layoutQuery, layoutQuery, tokens]
  refine ⟨forall₂_respelled recases, ?_⟩
  rw [← layoutTokens_bare, map_bare_respelled recases, layoutTokens_bare]

/-- The word `join` before a quote stays apart from the literal after it, whatever the case of its letters. -/
theorem Dialect.format_recased_join :
    let query := "select:a from(0xf)join'x'end".toList
    let raws := ["SeLeCt", ":a", " ", "FROM", "(", "0xf", ")", "joiN", "'x'", "EnD"].map String.toList
    List.Forall₂ Token.Recases (tokenize Dialect.standard.rules query) raws ∧
      Dialect.standard.format ['\t'] (.named [(['a'], ['b'])]) raws.flatten =
        Dialect.standard.format ['\t'] (.named [(['a'], ['b'])]) query := by
  intro query raws
  have recases : List.Forall₂ Token.Recases (tokenize Dialect.standard.rules query) raws := by decide +kernel
  exact ⟨recases, (Dialect.format_recased .standard _ _ query recases).2⟩

end QueryLayout
