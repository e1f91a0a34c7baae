import QueryLayout.Proofs.Echo
import QueryLayout.Proofs.Lossless
import QueryLayout.Proofs.Seams

namespace QueryLayout

/-- A reserved word, or a bracket that is a word. -/
def Token.isKeyword (token : Token) : Bool :=
  [Kind.reserved, .clause, .continuation].contains token.kind ||
    ([Kind.opening, .closing].contains token.kind && begins isWordChar token.raw)

/-- What stands between these tokens is apart from every name: no character of names comes right
before it or right after it. -/
def Dialect.StandsAlone (dialect : Dialect) (before after : List Token) : Prop :=
  (before.map Token.raw).flatten.getLast?.any dialect.isNameChar = false ∧
    begins dialect.isNameChar (after.map Token.raw).flatten = false

variable {dialect : Dialect} {before : Option Token} {token : Token} {rest : List Char} {rule : Rule}

/-- A character that begins a word for a bracket may also stand in the name of a placeholder. -/
theorem isKeyChar_of_bracketStart {p c : Char} (start : p = 'C' ∨ p = 'E') (same : sameFolded p c) :
    isKeyChar c := by
  have folded : foldCase p = foldCase c := by simpa [sameFolded] using same
  have entry : isEntryChar false p := by rcases start with rfl | rfl <;> decide
  have key : foldCase 'C' = foldCase c ∨ foldCase 'E' = foldCase c → isKeyChar c :=
    (entryChar_class entry folded).1.forall
      (p := fun c => foldCase 'C' = foldCase c ∨ foldCase 'E' = foldCase c → isKeyChar c) (by decide +kernel)
  rcases start with rfl | rfl
  · exact key (Or.inl folded)
  · exact key (Or.inr folded)

section Ends

variable (someRaw : token.raw ≠ [])

include someRaw

/-- A keyword is read by a rule for words. -/
theorem ReadBy.yields_of_isKeyword (reads : ReadBy dialect before (token.raw ++ rest) token rule)
    (keyword : token.isKeyword) : rule.yieldsToPeriod := by
  simp only [Token.isKeyword, Bool.or_eq_true, Bool.and_eq_true, List.contains_iff_mem] at keyword
  rcases keyword with word | ⟨bracket, letter⟩
  · exact reads.yields word
  · refine reads.yields_of_letter someRaw ?_ letter
    simp only [List.mem_cons, List.not_mem_nil, or_false] at bracket
    rcases bracket with kind | kind <;> rw [kind] <;> rfl

theorem ReadBy.bracketWord_key {side : BracketSide} {words : List Phrase}
    (reads : ReadBy dialect before (token.raw ++ rest) token (.bracketWord side words)) :
    begins isKeyChar token.raw := by
  obtain ⟨_, _, word, inWords, occurs⟩ := reads.phrase_mem someRaw rfl
  obtain ⟨part, inParts, rfl⟩ := (Dialect.bracketWord_of_mem reads.member inWords).2
  have starts : ∀ part ∈ dialect.bracketParts, part.head? = some 'C' ∨ part.head? = some 'E' := by
    cases dialect <;> decide
  obtain ⟨p, start, atHead⟩ : ∃ p, (p = 'C' ∨ p = 'E') ∧ part.head? = some p := by
    rcases starts part inParts with atHead | atHead
    · exact ⟨_, Or.inl rfl, atHead⟩
    · exact ⟨_, Or.inr rfl, atHead⟩
  obtain ⟨tail, rfl⟩ := List.head?_eq_some_iff.mp atHead
  cases occurs with
  | last spells =>
    obtain ⟨c, spelled, same, _, raw⟩ := List.forall₂_cons_left_iff.mp spells
    rw [raw]
    exact isKeyChar_of_bracketStart start same

/-- Where the name of a placeholder could go on, a placeholder that ends in a character of names ends in
a word character: it is a mark with a number. -/
theorem ReadBy.placeholder_last (reads : ReadBy dialect before (token.raw ++ rest) token rule)
    (placeholder : token.kind = .placeholder) (key : begins isKeyChar rest)
    (last : token.raw.getLast?.any dialect.isNameChar) : token.raw.getLast?.any isWordChar := by
  cases reads.ofKind placeholder with
  | named =>
    obtain ⟨_, _, _, _, _, _, ends⟩ := reads.named someRaw
    rw [key] at ends
    cases ends
  | quoted =>
    obtain ⟨mark, _, name, raw, found⟩ := reads.quoted someRaw
    have more : rest ≠ [] := by
      rintro rfl
      cases key
    obtain ⟨front, style, rfl⟩ := literal_closed more found
    rw [raw, ← List.cons_append, List.getLast?_concat, Option.any_some, dialect.isNameChar_closing] at last
    cases last
  | positional =>
    obtain ⟨mark, isMark, digits, raw, every, _⟩ := reads.positional someRaw
    rcases List.eq_nil_or_concat' digits with rfl | ⟨front, c, rfl⟩
    · simp [raw, Dialect.isNameChar_positionalMark isMark] at last
    · rw [raw, ← List.cons_append, List.getLast?_concat]
      exact isWordChar_of_isAsciiDigit (every c (by simp))

/-- A name that a keyword directly follows is a placeholder, and the keyword is a reserved word. -/
theorem ReadBy.name_before {previous : Token} {earlier : Option Token} {previousRule : Rule}
    (somePrevious : previous.raw ≠ [])
    (readsPrevious : ReadBy dialect earlier (previous.raw ++ (token.raw ++ rest)) previous previousRule)
    (reads : ReadBy dialect (some previous) (token.raw ++ rest) token rule) (keyword : token.isKeyword)
    (last : previous.raw.getLast?.any dialect.isNameChar) :
    previous.kind = .placeholder ∧ token.kind ∉ [.opening, .closing] := by
  have yields := reads.yields_of_isKeyword someRaw keyword
  have letter := reads.phrase_begins someRaw yields
  have placeholder : previous.kind = .placeholder := by
    by_contra other
    have ends := readsPrevious.name_last somePrevious other last
    rw [begins_append someRaw, letter] at ends
    cases ends
  refine ⟨placeholder, fun bracket => ?_⟩
  cases rule with
  | bracketWord side words =>
    have key := reads.bracketWord_key someRaw
    rw [← begins_append someRaw rest] at key
    have word := readsPrevious.placeholder_last somePrevious placeholder key last
    have apart := reads.bracket_word someRaw (by simpa using bracket) letter
    rw [show lastChar (some previous) = previous.raw.getLast? from rfl, word] at apart
    cases apart
  | reserved reservedClass =>
    rw [reads.kind] at bracket
    cases reservedClass <;> simp [Rule.kind, ReservedClass.kind] at bracket
  | _ => cases yields

end Ends

theorem Dialect.begins_isNameChar {text : List Char} (ends : begins isWordChar text = false) :
    begins dialect.isNameChar text = begins dialect.lexicon.extraWordChars.contains text := by
  cases text with
  | nil => rfl
  | cons c text =>
    rw [begins_cons] at ends
    simp [Dialect.isNameChar, ends]

/-- A keyword stands alone except at two seams: a character that only names of the dialect have comes right
after it, or it is a reserved word right after a placeholder that ends like a name. -/
theorem Dialect.standsAlone_iff (dialect : Dialect) (text : List Char) {before after : List Token} {token : Token}
    (split : tokenize dialect.rules text = before ++ token :: after) (keyword : token.isKeyword) :
    dialect.StandsAlone before after ↔
      begins dialect.lexicon.extraWordChars.contains (after.map Token.raw).flatten = false ∧
        ∀ previous, before.getLast? = some previous → previous.kind = .placeholder →
          previous.raw.getLast?.any dialect.isNameChar → token.kind ∈ [.opening, .closing] := by
  obtain ⟨someRaw, _, rule, reads⟩ := Dialect.reads_at split
  have ends := (reads.phrase someRaw (reads.yields_of_isKeyword someRaw keyword)).2.1
  rw [Dialect.StandsAlone, Dialect.begins_isNameChar ends, and_comm, and_congr_right_iff]
  intro _
  rcases List.eq_nil_or_concat' before with rfl | ⟨front, previous, rfl⟩
  · simp
  rw [List.append_assoc, List.singleton_append] at split
  obtain ⟨somePrevious, _, previousRule, readsPrevious⟩ := Dialect.reads_at split
  rw [List.map_cons, List.flatten_cons] at readsPrevious
  rw [List.getLast?_concat] at reads ⊢
  have last : ((front ++ [previous]).map Token.raw).flatten.getLast? = previous.raw.getLast? := by
    obtain ⟨body, c, raw⟩ := (List.eq_nil_or_concat' previous.raw).resolve_left somePrevious
    simp [raw]
  rw [last]
  constructor
  · rintro apart _ ⟨⟩ _ name
    rw [apart] at name
    cases name
  · intro brackets
    by_contra name
    have name : previous.raw.getLast?.any dialect.isNameChar := by simpa using name
    obtain ⟨placeholder, reserved⟩ := readsPrevious.name_before someRaw somePrevious reads keyword name
    exact reserved (brackets previous rfl placeholder name)

/-- In `:'end'END` a bracket follows a placeholder with the name `end`. -/
theorem Dialect.standsAlone_iff_end :
    tokenize Dialect.standard.rules ":'end'END".toList =
        [⟨.placeholder, ":'end'".toList, ":'end'".toList, "end".toList⟩] ++
          [⟨.closing, "END".toList, "END".toList, []⟩] ∧
      Dialect.standard.StandsAlone [⟨.placeholder, ":'end'".toList, ":'end'".toList, "end".toList⟩] [] := by
  have split : tokenize Dialect.standard.rules ":'end'END".toList =
      [⟨.placeholder, ":'end'".toList, ":'end'".toList, "end".toList⟩] ++
        [⟨.closing, "END".toList, "END".toList, []⟩] := by
    decide +kernel
  refine ⟨split, (Dialect.standsAlone_iff .standard _ split (by decide)).mpr ⟨rfl, ?_⟩⟩
  simp

/-- A clause word is cut out of the name `from#x`. -/
theorem Dialect.not_standsAlone_from : ∃ after,
    tokenize Dialect.db2.rules "from#x".toList = ⟨.clause, "FROM".toList, "from".toList, []⟩ :: after ∧
      ¬ Dialect.db2.StandsAlone [] after := by
  let clause : Token := ⟨.clause, "FROM".toList, "from".toList, []⟩
  have read : readFirst? Dialect.db2.rules none (clause.raw ++ "#x".toList) = some clause := by decide +kernel
  have text : "from#x".toList = clause.raw ++ "#x".toList := by decide
  rw [text]
  refine ⟨_, scan_next (by decide) read, fun alone => ?_⟩
  have after := alone.2
  rw [Dialect.rules, (Dialect.db2.lexicon.reading_scan _ _).flatten_raw] at after
  exact absurd after (by decide)

/-- A token ends where a run of such characters ends. -/
def Token.EndsRun (token : Token) (isInner : Char → Bool) (rest : List Char) : Prop :=
  token.raw.getLast?.any isInner ∧ begins isInner rest = false

theorem Digits.last {isDigit : Char → Bool} {digits : List Char} (all : Digits isDigit digits)
    (isWord : ∀ c, isDigit c → isWordChar c) (lead : List Char) : (lead ++ digits).getLast?.any isWordChar := by
  obtain ⟨front, c, rfl⟩ := (List.eq_nil_or_concat' digits).resolve_left all.1
  rw [← List.append_assoc, List.getLast?_concat]
  exact isWord c (all.2 c (by simp))

theorem PlainNumeral.last {whole : Bool} {raw : List Char} (numeral : PlainNumeral whole raw) (lead : List Char) :
    (lead ++ raw).getLast?.any isWordChar := by
  cases numeral with
  | whole digits => exact digits.last (fun _ => isWordChar_of_isAsciiDigit) lead
  | @fraction digits decimals _ all =>
    rw [← List.append_assoc, ← List.singleton_append, ← List.append_assoc]
    exact all.last (fun _ => isWordChar_of_isAsciiDigit) _

theorem Numeral.last {whole : Bool} {raw : List Char} (numeral : Numeral whole raw) :
    raw.getLast?.any isWordChar := by
  cases numeral with
  | decimal plain => exact plain.last []
  | @negative _ gap _ _ plain => exact plain.last ('-' :: gap)
  | hexadecimal digits => exact digits.last (fun _ => isWordChar_of_isHexDigit) ['0', 'x']
  | binary digits => exact digits.last (fun _ => isWordChar_of_isBit) ['0', 'b']

section Runs

variable (someRaw : token.raw ≠ [])

include someRaw

theorem ReadBy.number_endsRun (reads : ReadBy dialect before (token.raw ++ rest) token .number) :
    token.EndsRun isWordChar rest := by
  obtain ⟨_, numeral, ends, _⟩ := reads.number someRaw
  exact ⟨numeral.last, ends⟩

theorem ReadBy.phrase_endsRun (reads : ReadBy dialect before (token.raw ++ rest) token rule)
    (yields : rule.yieldsToPeriod) : token.EndsRun isWordChar rest := by
  obtain ⟨_, ends, word, entry, occurs⟩ := reads.phrase someRaw yields
  obtain ⟨lead, c, raw, letter⟩ := occurs.final entry
  exact ⟨by rwa [raw, List.getLast?_concat], ends⟩

theorem ReadBy.word_endsRun {extra : List Char}
    (reads : ReadBy dialect before (token.raw ++ rest) token (.word extra)) :
    token.EndsRun dialect.isNameChar rest := by
  obtain ⟨inner, ends⟩ := reads.word someRaw
  obtain ⟨front, c, raw⟩ := (List.eq_nil_or_concat' token.raw).resolve_left someRaw
  exact ⟨by simpa [raw] using inner c (by simp [raw]), ends⟩

end Runs

/-- Only a placeholder ends inside a run of word characters. A number or a keyword goes on to the end of its
run, and a word to the end of all that can stand in a name. -/
theorem Dialect.tokenize_endsRuns (dialect : Dialect) (text : List Char) {before after : List Token} {token : Token}
    (split : tokenize dialect.rules text = before ++ token :: after) :
    let rest := (after.map Token.raw).flatten
    (∀ next, after.head? = some next → token.raw.getLast?.any isWordChar → begins isWordChar next.raw →
        token.kind = .placeholder) ∧
      (token.kind = .number ∨ token.isKeyword → token.EndsRun isWordChar rest) ∧
      (token.kind = .word → token.EndsRun dialect.isNameChar rest ∧ begins isWordChar rest = false) := by
  intro rest
  obtain ⟨someRaw, _, rule, reads⟩ := Dialect.reads_at split
  refine ⟨?_, ?_, ?_⟩
  · intro next atHead last first
    obtain ⟨later, rfl⟩ := List.head?_eq_some_iff.mp atHead
    by_contra other
    have someNext : next.raw ≠ [] := by
      intro empty
      simp [empty] at first
    have ends := reads.word_ends someRaw other last
    rw [List.map_cons, List.flatten_cons, begins_append someNext, first] at ends
    cases ends
  · rintro (number | keyword)
    · cases reads.ofKind number
      exact reads.number_endsRun someRaw
    · exact reads.phrase_endsRun someRaw (reads.yields_of_isKeyword someRaw keyword)
  · intro word
    cases reads.ofKind word
    have runs := reads.word_endsRun someRaw
    exact ⟨runs, begins_eq_false_of_imp (fun _ => dialect.isNameChar_of_isWordChar) runs.2⟩

/-- The run `1N` is torn apart after the placeholder `?1`, and the number goes on to the end of its run. -/
theorem Dialect.tokenize_endsRuns_digits :
    let mark : Token := ⟨.placeholder, "?1".toList, "?1".toList, "1".toList⟩
    let literal : Token := ⟨.literal, "N'x'".toList, "N'x'".toList, []⟩
    let blank : Token := ⟨.blank, " ".toList, " ".toList, []⟩
    let number : Token := ⟨.number, "0x1F".toList, "0x1F".toList, []⟩
    tokenize Dialect.standard.rules "?1N'x' 0x1F(".toList =
        [mark, literal, blank, number, ⟨.opening, "(".toList, "(".toList, []⟩] ∧
      (mark.raw.getLast?.any isWordChar ∧ begins isWordChar literal.raw ∧ mark.kind = .placeholder) ∧
      number.EndsRun isWordChar "(".toList := by
  intro mark literal blank number
  have split : tokenize Dialect.standard.rules "?1N'x' 0x1F(".toList =
      [mark, literal, blank, number, ⟨.opening, "(".toList, "(".toList, []⟩] := by
    decide +kernel
  have last : mark.raw.getLast?.any isWordChar := by decide
  have first : begins isWordChar literal.raw := by decide
  have torn := (@Dialect.tokenize_endsRuns .standard _ [] _ _ split).1 literal rfl last first
  have whole := (@Dialect.tokenize_endsRuns .standard _ [_, _, _] _ _ split).2.1 (Or.inl rfl)
  exact ⟨split, ⟨last, first, torn⟩, whole⟩

end QueryLayout
