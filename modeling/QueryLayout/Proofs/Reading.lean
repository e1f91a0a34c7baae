import Mathlib.Data.List.Chain
import QueryLayout.Lexer
import QueryLayout.Proofs.Extent

namespace QueryLayout

theorem Rule.match?_length_le {rule : Rule} {before : Option Char} {text : List Char} {found : Match}
    (someText : text ≠ []) (matched : rule.match? before text = some found) :
    found.length ≤ text.length := by
  cases rule with
  | blank =>
    cases matched
    exact blankRun_le text
  | lineComment marks =>
    obtain ⟨lead, atMark, rfl⟩ := Option.map_eq_some_iff.mp matched
    have bound := markExtent?_le atMark
    have line := lineLength_le (text.drop lead)
    rw [List.length_drop] at line
    dsimp only
    omega
  | blockComment =>
    simp only [Rule.match?] at matched
    split at matched
    · rename_i rest
      cases matched
      have body := commentBody_le rest
      simp only [List.length_cons]
      omega
    · cases matched
  | literal styles =>
    obtain ⟨length, atLiteral, rfl⟩ := Option.map_eq_some_iff.mp matched
    exact literalExtent?_le atLiteral
  | bracketSymbol side symbols =>
    simp only [Rule.match?] at matched
    split at matched
    · cases matched
      exact List.length_pos_iff.mpr someText
    · cases matched
  | bracketWord side words =>
    simp only [Rule.match?] at matched
    split at matched
    · obtain ⟨length, atWord, rfl⟩ := Option.map_eq_some_iff.mp matched
      exact wordExtent?_le atWord
    · cases matched
  | namedPlaceholder marks => exact namedMatch?_le matched
  | quotedPlaceholder marks styles => exact quotedMatch?_le matched
  | positionalPlaceholder marks => exact positionalMatch?_le matched
  | number =>
    obtain ⟨length, atNumber, rfl⟩ := Option.map_eq_some_iff.mp matched
    exact numberExtent?_le atNumber
  | reserved reservedClass words =>
    obtain ⟨length, atWord, rfl⟩ := Option.map_eq_some_iff.mp matched
    exact wordExtent?_le atWord
  | word extra =>
    cases matched
    exact runLength_le _ text
  | operator =>
    cases matched
    exact operatorExtent_le someText

theorem Rule.match?_key {rule : Rule} {before : Option Char} {text : List Char} {found : Match}
    (matched : rule.match? before text = some found) (other : rule.kind ≠ .placeholder) :
    found.key = [] := by
  cases rule with
  | namedPlaceholder | quotedPlaceholder | positionalPlaceholder => exact absurd rfl other
  | blank | word | operator => cases matched; rfl
  | lineComment | literal | number | reserved =>
    obtain ⟨_, _, rfl⟩ := Option.map_eq_some_iff.mp matched
    rfl
  | blockComment | bracketSymbol =>
    simp only [Rule.match?] at matched
    split at matched <;> cases matched
    rfl
  | bracketWord =>
    simp only [Rule.match?] at matched
    split at matched
    · obtain ⟨_, _, rfl⟩ := Option.map_eq_some_iff.mp matched
      rfl
    · cases matched

theorem Rule.read?_eq_some_iff {rule : Rule} {previous : Option Token} {text : List Char}
    {token : Token} :
    rule.read? previous text = some token ↔
      (rule.yieldsToPeriod && followsPeriod previous) = false ∧
        ∃ found, rule.match? (lastChar previous) text = some found ∧ found.length ≠ 0 ∧
          token = Token.ofRaw rule.kind (text.take found.length) found.key := by
  unfold Rule.read?
  split
  · rename_i yields
    simp [yields]
  · rename_i free
    have free := Bool.eq_false_iff.mpr free
    simp only [free, true_and]
    split
    · rename_i nothing
      simp [nothing]
    · rename_i found matched
      simp only [matched, Option.some.injEq, exists_eq_left']
      split
      · rename_i empty
        simp [empty]
      · rename_i positive
        simp only [Option.some.injEq, positive, ne_eq, not_false_eq_true, true_and]
        exact eq_comm

theorem Rule.read?_eq_none_iff {rule : Rule} {previous : Option Token} {text : List Char} :
    rule.read? previous text = none ↔
      (rule.yieldsToPeriod && followsPeriod previous) = true ∨
        ∀ found, rule.match? (lastChar previous) text = some found → found.length = 0 := by
  constructor
  · intro nothing
    by_cases yields : (rule.yieldsToPeriod && followsPeriod previous) = true
    · exact Or.inl yields
    · refine Or.inr fun found matched => by_contra fun positive => ?_
      have read := Rule.read?_eq_some_iff.mpr
        ⟨Bool.eq_false_iff.mpr yields, found, matched, positive, rfl⟩
      rw [nothing] at read
      cases read
  · intro blocked
    by_contra something
    obtain ⟨token, read⟩ := Option.ne_none_iff_exists'.mp something
    obtain ⟨free, found, matched, positive, _⟩ := Rule.read?_eq_some_iff.mp read
    rcases blocked with yields | empty
    · rw [free] at yields
      cases yields
    · exact positive (empty found matched)

/-- A token is a part of the text it was read from, and it is never empty. -/
theorem Rule.read?_raw {rule : Rule} {previous : Option Token} {text : List Char} {token : Token}
    (someText : text ≠ []) (read : rule.read? previous text = some token) :
    token.raw ≠ [] ∧ ∃ rest, text = token.raw ++ rest := by
  obtain ⟨_, found, matched, positive, rfl⟩ := Rule.read?_eq_some_iff.mp read
  have bound := Rule.match?_length_le someText matched
  refine ⟨?_, text.drop found.length, (List.take_append_drop found.length text).symm⟩
  intro empty
  have length := congrArg List.length empty
  simp only [Token.ofRaw, List.length_take, List.length_nil] at length
  omega

theorem Rule.read?_kind {rule : Rule} {previous : Option Token} {text : List Char} {token : Token}
    (read : rule.read? previous text = some token) : token.kind = rule.kind := by
  obtain ⟨_, found, _, _, rfl⟩ := Rule.read?_eq_some_iff.mp read
  rfl

/-- The rules that read tokens of each kind. -/
inductive Rule.OfKind : Kind → Rule → Prop
  | blank : OfKind .blank .blank
  | lineComment {marks} : OfKind .lineComment (.lineComment marks)
  | blockComment : OfKind .blockComment .blockComment
  | literal {styles} : OfKind .literal (.literal styles)
  | openingSymbol {symbols} : OfKind .opening (.bracketSymbol .opening symbols)
  | openingWord {words} : OfKind .opening (.bracketWord .opening words)
  | closingSymbol {symbols} : OfKind .closing (.bracketSymbol .closing symbols)
  | closingWord {words} : OfKind .closing (.bracketWord .closing words)
  | named {marks} : OfKind .placeholder (.namedPlaceholder marks)
  | quoted {marks styles} : OfKind .placeholder (.quotedPlaceholder marks styles)
  | positional {marks} : OfKind .placeholder (.positionalPlaceholder marks)
  | number : OfKind .number .number
  | clause {words} : OfKind .clause (.reserved .clause words)
  | continuation {words} : OfKind .continuation (.reserved .continuation words)
  | reserved {words} : OfKind .reserved (.reserved .plain words)
  | word {extra} : OfKind .word (.word extra)
  | operator : OfKind .operator .operator

theorem Rule.ofKind (rule : Rule) : OfKind rule.kind rule := by
  cases rule with
  | bracketSymbol side | bracketWord side => cases side <;> constructor
  | reserved reservedClass => cases reservedClass <;> constructor
  | _ => constructor

theorem Rule.eq_blank_of_kind {rule : Rule} (kind : rule.kind = .blank) : rule = .blank := by
  cases kind ▸ rule.ofKind
  rfl

theorem Rule.read?_value {rule : Rule} {previous : Option Token} {text : List Char} {token : Token}
    (read : rule.read? previous text = some token) :
    token.value = if token.kind.isUpperCased then upperCase token.raw else token.raw := by
  obtain ⟨_, found, _, _, rfl⟩ := Rule.read?_eq_some_iff.mp read
  rfl

theorem Rule.read?_key {rule : Rule} {previous : Option Token} {text : List Char} {token : Token}
    (read : rule.read? previous text = some token) (other : token.kind ≠ .placeholder) :
    token.key = [] := by
  obtain ⟨_, found, matched, _, rfl⟩ := Rule.read?_eq_some_iff.mp read
  exact Rule.match?_key matched other

/-- The token of the first rule that reads one. -/
def readFirst? (rules : List Rule) (previous : Option Token) (text : List Char) : Option Token :=
  rules.findSome? (·.read? previous text)

theorem readFirst?_rule {rules : List Rule} {previous : Option Token} {text : List Char}
    {token : Token} (read : readFirst? rules previous text = some token) :
    ∃ rule ∈ rules, rule.read? previous text = some token :=
  List.exists_of_findSome?_eq_some read

/-- A text cut into tokens: each one is what the rules read first in the rest
of the text, given the token before. -/
inductive Reading (rules : List Rule) : Option Token → List Char → List Token → Prop
  | done {previous} : Reading rules previous [] []
  | next {previous token rest tokens} : token.raw ≠ [] →
      readFirst? rules previous (token.raw ++ rest) = some token →
      Reading rules (some token) rest tokens →
      Reading rules previous (token.raw ++ rest) (token :: tokens)

theorem Lexicon.operator_mem_rules (lexicon : Lexicon) : Rule.operator ∈ lexicon.rules := by
  simp [Lexicon.rules]

theorem operatorExtent_pos (text : List Char) : 0 < operatorExtent text := by
  have positive : ∀ operator ∈ operators, 0 < operator.length := by decide
  unfold operatorExtent
  split
  · rename_i operator found
    exact positive operator (List.mem_of_find?_eq_some found)
  · exact Nat.one_pos

/-- Some rule reads any text that is not empty, since the last one takes any
character. -/
theorem Lexicon.readFirst?_exists (lexicon : Lexicon) (previous : Option Token) (text : List Char) :
    ∃ token, readFirst? lexicon.rules previous text = some token := by
  have read : Rule.operator.read? previous text =
      some (Token.ofRaw .operator (text.take (operatorExtent text)) []) :=
    Rule.read?_eq_some_iff.mpr
      ⟨rfl, ⟨operatorExtent text, []⟩, rfl, (operatorExtent_pos text).ne', rfl⟩
  apply Option.ne_none_iff_exists'.mp
  intro nothing
  have failed := List.findSome?_eq_none_iff.mp nothing _ lexicon.operator_mem_rules
  rw [read] at failed
  cases failed

theorem scan_skip (rules : List Rule) (previous : Option Token) (skip : Nat) (text : List Char) :
    scan rules previous skip text = scan rules previous 0 (text.drop skip) := by
  induction text generalizing skip with
  | nil => simp [scan]
  | cons c rest ih =>
    cases skip with
    | zero => rfl
    | succ skip =>
      simp only [scan, List.drop_succ_cons]
      exact ih skip

theorem scan_next {rules : List Rule} {previous : Option Token} {token : Token} {rest : List Char}
    (someRaw : token.raw ≠ []) (read : readFirst? rules previous (token.raw ++ rest) = some token) :
    scan rules previous 0 (token.raw ++ rest) = token :: scan rules (some token) 0 rest := by
  obtain ⟨c, tail, raw⟩ := List.exists_cons_of_ne_nil someRaw
  have same : nextToken rules previous c (tail ++ rest) = token := by
    rw [raw] at read
    unfold nextToken
    rw [show rules.findSome? (·.read? previous (c :: (tail ++ rest))) = some token from read]
    rfl
  simp only [raw, List.cons_append, scan, same]
  rw [scan_skip, List.length_cons, Nat.add_sub_cancel, List.drop_left]

theorem Lexicon.reading_scan (lexicon : Lexicon) (previous : Option Token) (text : List Char) :
    Reading lexicon.rules previous text (scan lexicon.rules previous 0 text) := by
  induction size : text.length using Nat.strong_induction_on generalizing previous text with
  | _ length ih =>
    by_cases empty : text = []
    · subst text
      exact .done
    · obtain ⟨token, read⟩ := lexicon.readFirst?_exists previous text
      obtain ⟨rule, _, atRule⟩ := readFirst?_rule read
      obtain ⟨someRaw, rest, rfl⟩ := Rule.read?_raw empty atRule
      rw [scan_next someRaw read]
      have shorter : rest.length < length := by
        have positive := List.length_pos_iff.mpr someRaw
        rw [List.length_append] at size
        omega
      exact .next someRaw read (ih rest.length shorter (some token) rest rfl)

theorem Lexicon.reading_tokenize (lexicon : Lexicon) (text : List Char) :
    Reading lexicon.rules none text (tokenize lexicon.rules text) :=
  lexicon.reading_scan none text

theorem Reading.scan_eq {rules : List Rule} {previous : Option Token} {text : List Char}
    {tokens : List Token} (reading : Reading rules previous text tokens) :
    scan rules previous 0 text = tokens := by
  induction reading with
  | done => rfl
  | next someRaw read _ ih => rw [scan_next someRaw read, ih]

/-- A text is cut into tokens in one way only. -/
theorem Lexicon.tokenize_eq_iff {lexicon : Lexicon} {text : List Char} {tokens : List Token} :
    tokenize lexicon.rules text = tokens ↔ Reading lexicon.rules none text tokens := by
  constructor
  · rintro rfl
    exact lexicon.reading_tokenize text
  · exact Reading.scan_eq

end QueryLayout
