import Mathlib.Data.List.TakeWhile
import QueryLayout.Proofs.Reading

namespace QueryLayout

theorem Reading.flatten_raw {rules : List Rule} {previous : Option Token} {text : List Char}
    {tokens : List Token} (reading : Reading rules previous text tokens) :
    (tokens.map Token.raw).flatten = text := by
  induction reading with
  | done => rfl
  | next _ _ _ ih => rw [List.map_cons, List.flatten_cons, ih]

/-- A token of a text is what the rules read where it stands, given the token before it. -/
theorem Reading.read_at {rules : List Rule} {previous : Option Token} {text : List Char} {before after : List Token}
    {token : Token} (reading : Reading rules previous text (before ++ token :: after)) :
    token.raw ≠ [] ∧ text = (before.map Token.raw).flatten ++ (token.raw ++ (after.map Token.raw).flatten) ∧
      readFirst? rules (before.getLast?.or previous) (token.raw ++ (after.map Token.raw).flatten) = some token := by
  induction before generalizing previous text with
  | nil =>
    cases reading with
    | next someRaw read tail =>
      rw [tail.flatten_raw]
      exact ⟨someRaw, rfl, read⟩
  | cons first later ih =>
    cases reading with
    | next _ _ tail =>
      obtain ⟨someRaw, rfl, read⟩ := ih tail
      refine ⟨someRaw, by simp, ?_⟩
      rw [List.getLast?_cons]
      cases last : later.getLast? <;> simpa [last] using read

/-- What holds of any token that a rule reads holds of all tokens of a text. -/
theorem Reading.forall_token {rules : List Rule} {previous : Option Token} {text : List Char}
    {tokens : List Token} (reading : Reading rules previous text tokens) {holds : Token → Prop}
    (read : ∀ (rule : Rule) (before : Option Token) (rest : List Char) (token : Token),
      rest ≠ [] → rule.read? before rest = some token → holds token) :
    ∀ token ∈ tokens, holds token := by
  induction reading with
  | done => simp
  | @next before token rest later someRaw first _ ih =>
    intro other member
    rcases List.mem_cons.mp member with rfl | member
    · obtain ⟨rule, _, atRule⟩ := readFirst?_rule first
      have someText : other.raw ++ rest ≠ [] := by simp [someRaw]
      exact read rule before _ _ someText atRule
    · exact ih other member

/-- A token of blanks reaches as far as the blanks do. -/
theorem readFirst?_blank {rules : List Rule} {previous : Option Token} {text : List Char}
    {token : Token} (read : readFirst? rules previous text = some token)
    (blank : token.kind = .blank) : token.raw = text.takeWhile isBlank := by
  obtain ⟨rule, _, atRule⟩ := readFirst?_rule read
  have kind := (Rule.read?_kind atRule).symm.trans blank
  rw [Rule.eq_blank_of_kind kind] at atRule
  obtain ⟨_, found, matched, _, rfl⟩ := Rule.read?_eq_some_iff.mp atRule
  cases matched
  exact (List.prefix_iff_eq_take.mp (List.takeWhile_prefix isBlank)).symm

theorem Reading.isChain_blank {rules : List Rule} {previous : Option Token} {text : List Char}
    {tokens : List Token} (reading : Reading rules previous text tokens) :
    tokens.IsChain fun left right => ¬(left.kind = .blank ∧ right.kind = .blank) := by
  induction reading with
  | done => exact .nil
  | @next before token rest later someRaw first tail ih =>
    cases tail with
    | done => exact .singleton token
    | @next _ second rest later someSecond atSecond tail =>
      refine .cons_cons ?_ ih
      rintro ⟨blank, alsoBlank⟩
      have run := readFirst?_blank first blank
      have secondRun := readFirst?_blank atSecond alsoBlank
      -- the first blank of the second token belongs to the run of the first
      obtain ⟨c, tail, raw⟩ := List.exists_cons_of_ne_nil someSecond
      have blankHead : isBlank c := by
        have member : c ∈ (second.raw ++ rest).takeWhile isBlank := by
          rw [← secondRun, raw]
          exact List.mem_cons_self
        exact List.mem_takeWhile_imp member
      have allBlank : ∀ d ∈ token.raw, isBlank d := by
        intro d member
        rw [run] at member
        exact List.mem_takeWhile_imp member
      rw [List.takeWhile_append_of_pos allBlank, raw] at run
      simp [blankHead] at run

/-- The raw texts of the tokens make up the text, none of them is empty, and
no two runs of blanks are neighbours. Brackets and reserved words have their
text in upper case for a value and all others the text itself, and only
placeholders have a key. -/
theorem tokenize_lossless (lexicon : Lexicon) (text : List Char) :
    ((tokenize lexicon.rules text).map Token.raw).flatten = text ∧
      (∀ token ∈ tokenize lexicon.rules text, token.raw ≠ [] ∧
        token.value = (if token.kind ∈ [.opening, .closing, .reserved, .clause, .continuation]
          then upperCase token.raw else token.raw) ∧
        (token.kind ≠ .placeholder → token.key = [])) ∧
      (tokenize lexicon.rules text).IsChain fun left right =>
        ¬(left.kind = .blank ∧ right.kind = .blank) := by
  have reading := lexicon.reading_tokenize text
  refine ⟨reading.flatten_raw, reading.forall_token ?_, reading.isChain_blank⟩
  intro rule previous rest token someRest read
  refine ⟨(Rule.read?_raw someRest read).1, ?_, Rule.read?_key read⟩
  rw [Rule.read?_value read]
  cases token.kind <;> rfl

end QueryLayout
