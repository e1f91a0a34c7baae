import Mathlib.Data.List.Find
import QueryLayout.Proofs.Passing
import QueryLayout.Proofs.Raws

namespace QueryLayout

/-- A text with its ASCII letters in lower case. -/
def lower (text : List Char) : List Char :=
  text.map Char.toLower

/-- Two texts that differ at most in the case of ASCII letters. -/
def SameLetters (text other : List Char) : Prop :=
  lower text = lower other

section Chars

theorem toLower_eq_self {c : Char} (high : 128 ≤ c.toNat) : c.toLower = c := by
  unfold Char.toLower
  split
  · rename_i capital
    have low := UInt32.le_iff_toNat_le.mp capital.2
    exact absurd (Nat.le_trans high low) (by decide)
  · rfl

/-- What does not tell an ASCII letter from its other case takes all texts alike that do not differ otherwise. -/
theorem toLower_invariant {α : Type} {f : Char → α}
    (check : ∀ code < 128, f (Char.ofNat code).toLower = f (Char.ofNat code)) (c : Char) : f c.toLower = f c := by
  by_cases ascii : c.toNat < 128
  · exact ascii_forall (p := fun c => f c.toLower = f c) check ascii
  · rw [toLower_eq_self (by omega)]

theorem isBlank_toLower : ∀ c : Char, isBlank c.toLower = isBlank c :=
  toLower_invariant (by decide)

theorem isWordChar_toLower : ∀ c : Char, isWordChar c.toLower = isWordChar c :=
  toLower_invariant (by decide)

theorem isAsciiDigit_toLower : ∀ c : Char, isAsciiDigit c.toLower = isAsciiDigit c :=
  toLower_invariant (by decide)

theorem isHexDigit_toLower : ∀ c : Char, isHexDigit c.toLower = isHexDigit c :=
  toLower_invariant (by decide)

theorem isBit_toLower : ∀ c : Char, isBit c.toLower = isBit c :=
  toLower_invariant (by decide)

theorem isKeyChar_toLower : ∀ c : Char, isKeyChar c.toLower = isKeyChar c :=
  toLower_invariant (by decide)

theorem foldCase_toLower : ∀ c : Char, foldCase c.toLower = foldCase c :=
  toLower_invariant (by decide)

theorem upperChar_toLower : ∀ c : Char, upperChar c.toLower = upperChar c :=
  toLower_invariant (by decide)

/-- A character that is no ASCII letter is the lower case form of itself only. -/
theorem toLower_eq_iff {d : Char} (caseless : d.isAlpha = false) {c : Char} : c.toLower = d ↔ c = d := by
  have letters : ∀ code < 128, (Char.ofNat code).toLower = Char.ofNat code ∨
      (Char.ofNat code).isAlpha ∧ (Char.ofNat code).toLower.isAlpha := by decide
  by_cases ascii : c.toNat < 128
  · have sort := ascii_forall (p := fun c => c.toLower = c ∨ c.isAlpha ∧ c.toLower.isAlpha) letters ascii
    rcases sort with same | letter
    · rw [same]
    · constructor <;> rintro rfl <;> simp [caseless] at letter
  · rw [toLower_eq_self (by omega)]

theorem toLower_mem_iff {marks : List Char} (caseless : ∀ mark ∈ marks, mark.isAlpha = false) {c : Char} :
    c.toLower ∈ marks ↔ c ∈ marks := by
  constructor
  · intro member
    rwa [(toLower_eq_iff (caseless _ member)).mp rfl]
  · intro member
    rwa [(toLower_eq_iff (caseless c member)).mpr rfl]

end Chars

section Extents

variable {text : List Char}

theorem lower_append (first second : List Char) : lower (first ++ second) = lower first ++ lower second :=
  List.map_append

theorem lower_cons (c : Char) (text : List Char) : lower (c :: text) = c.toLower :: lower text := rfl

theorem lower_drop (count : Nat) (text : List Char) : lower (text.drop count) = (lower text).drop count :=
  List.map_drop

theorem getElem?_lower (text : List Char) (index : Nat) : (lower text)[index]? = text[index]?.map Char.toLower :=
  List.getElem?_map

theorem begins_lower {p : Char → Bool} (same : ∀ c : Char, p c.toLower = p c) (text : List Char) :
    begins p (lower text) = begins p text := by
  cases text with
  | nil => rfl
  | cons c text => exact same c

theorem runLength_lower {p : Char → Bool} (same : ∀ c : Char, p c.toLower = p c) (text : List Char) :
    runLength p (lower text) = runLength p text := by
  have alike : p ∘ Char.toLower = p := funext same
  rw [runLength, lower, List.takeWhile_map, alike, List.length_map, runLength]

theorem prefix_lower {mark : List Char} (caseless : ∀ c ∈ mark, c.isAlpha = false) :
    mark <+: lower text ↔ mark <+: text := by
  induction mark generalizing text with
  | nil => simp
  | cons d mark ih =>
    cases text with
    | nil => simp [lower]
    | cons c text =>
      have first := toLower_eq_iff (caseless d List.mem_cons_self) (c := c)
      rw [lower_cons, List.cons_prefix_cons, List.cons_prefix_cons, eq_comm, first, eq_comm,
        ih fun e member => caseless e (List.mem_cons_of_mem _ member)]

theorem isPrefixOf_lower {mark : List Char} (caseless : ∀ c ∈ mark, c.isAlpha = false) (text : List Char) :
    mark.isPrefixOf (lower text) = mark.isPrefixOf text := by
  rw [Bool.eq_iff_iff, List.isPrefixOf_iff_prefix, List.isPrefixOf_iff_prefix, prefix_lower caseless]

theorem lineLength_lower (text : List Char) : lineLength (lower text) = lineLength text := by
  have ends : ∀ c : Char, isLineEnd c.toLower = isLineEnd c := toLower_invariant (by decide)
  induction text with
  | nil => rfl
  | cons c text ih =>
    cases atEnd : isLineEnd c with
    | false =>
      have here := lineLength_append (show ∀ d ∈ [c], isLineEnd d = false by simpa using atEnd) text
      have there := lineLength_append (show ∀ d ∈ [c.toLower], isLineEnd d = false by simpa [ends] using atEnd)
        (lower text)
      simp only [List.singleton_append, List.length_singleton] at here there
      rw [lower_cons, there, here, ih]
    | true =>
      simp only [isLineEnd, Bool.or_eq_true, beq_iff_eq] at atEnd
      rcases atEnd with rfl | rfl
      · rfl
      · cases text with
        | nil => rfl
        | cons d text =>
          have feed := toLower_eq_iff (show '\n'.isAlpha = false by decide) (c := d)
          by_cases isFeed : d = '\n'
          · rw [isFeed]
            rfl
          · rw [lower_cons, lower_cons, show '\r'.toLower = '\r' by decide, lineLength, lineLength]
            · simpa using isFeed
            · simpa [feed] using isFeed

theorem commentBody_lower (text : List Char) : commentBody (lower text) = commentBody text := by
  induction text with
  | nil => rfl
  | cons c text ih =>
    have pair : ['*', '/'] <+: lower (c :: text) ↔ ['*', '/'] <+: c :: text := prefix_lower (by decide)
    by_cases closes : ['*', '/'] <+: c :: text
    · obtain ⟨later, split⟩ := closes
      rw [← split]
      rfl
    · have here : commentBody (c :: text) = 1 + commentBody text :=
        commentBody_cons fun rest same => closes ⟨rest, same.symm⟩
      have there : commentBody (lower (c :: text)) = 1 + commentBody (lower text) :=
        commentBody_cons fun rest same => closes (pair.mp ⟨rest, same.symm⟩)
      rw [there, here, ih]

theorem literalBody_lower {closing : Char} (caseless : closing.isAlpha = false) (escapes : Bool) :
    ∀ text : List Char, literalBody closing escapes (lower text) = literalBody closing escapes text
  | [] => rfl
  | [_] => rfl
  | c :: next :: text => by
    have escape : (escapes && c.toLower == '\\') = (escapes && c == '\\') := by
      rw [Bool.eq_iff_iff]
      simp [toLower_eq_iff (show '\\'.isAlpha = false by decide)]
    have later := literalBody_lower caseless escapes (next :: text)
    rw [lower_cons] at later
    rw [lower_cons, lower_cons, literalBody, literalBody, literalBody_lower caseless escapes text, later, escape]
    simp only [toLower_eq_iff caseless]

theorem startsWith_lower (part text : List Char) :
    startsWith sameFolded part (lower text) = startsWith sameFolded part text := by
  induction part generalizing text with
  | nil => simp [startsWith]
  | cons p part ih =>
    cases text with
    | nil => rfl
    | cons c text => simp only [lower_cons, startsWith, sameFolded, foldCase_toLower, ih]

theorem Phrase.extent?_lower : ∀ (phrase : Phrase) (text : List Char),
    phrase.extent? sameFolded (lower text) = phrase.extent? sameFolded text
  | [], _ => by simp [Phrase.extent?]
  | [part], text => by simp [Phrase.extent?, startsWith_lower]
  | part :: next :: parts, text => by
    have gap := runLength_lower isBlank_toLower (text.drop part.length)
    have later := fun count => Phrase.extent?_lower (next :: parts) (text.drop count)
    simp only [Phrase.extent?, startsWith_lower, ← lower_drop, later]
    rw [show blankRun (lower (text.drop part.length)) = blankRun (text.drop part.length) from gap]

theorem boundaryAt_lower {before after : Option Char} (same : after.any isWordChar = before.any isWordChar)
    (text : List Char) (length : Nat) : boundaryAt after (lower text) length = boundaryAt before text length := by
  unfold boundaryAt isBoundary
  split <;> simp [getElem?_lower, Option.any_map, isWordChar_toLower, same]

theorem wordExtent?_lower {before after : Option Char} (same : after.any isWordChar = before.any isWordChar)
    (words : List Phrase) (text : List Char) :
    wordExtent? words after (lower text) = wordExtent? words before text := by
  have alike : boundaryAt after (lower text) = boundaryAt before text := funext (boundaryAt_lower same text)
  simp only [wordExtent?, Phrase.extent?_lower, alike]

theorem markExtent?_lower {marks : List Phrase} (single : marks.all Phrase.isMark)
    (caseless : ∀ mark ∈ marks, ∀ c ∈ mark.flatten, c.isAlpha = false) (text : List Char) :
    markExtent? marks (lower text) = markExtent? marks text := by
  simp only [List.all_eq_true] at single
  induction marks with
  | nil => rfl
  | cons mark marks ih =>
    have rest := ih (fun other member => caseless other (by simp [member]))
      fun other member => single other (by simp [member])
    have starts := isPrefixOf_lower (caseless mark (by simp)) text
    unfold markExtent? at rest ⊢
    rw [List.findSome?_cons, List.findSome?_cons, rest, Phrase.extent?_mark (single mark (by simp)),
      Phrase.extent?_mark (single mark (by simp)), starts]

theorem endsWord_lower (text : List Char) (length : Nat) : endsWord (lower text) length = endsWord text length := by
  simp [endsWord, getElem?_lower, Option.any_map, isWordChar_toLower]

theorem fractionRun_lower (text : List Char) : fractionRun (lower text) = fractionRun text := by
  cases text with
  | nil => rfl
  | cons c text =>
    have period := toLower_eq_iff (show '.'.isAlpha = false by decide) (c := c)
    by_cases isPeriod : c = '.'
    · rw [isPeriod]
      exact runLength_lower isAsciiDigit_toLower text
    · rw [fractionRun_eq_zero isPeriod, lower_cons, fractionRun_eq_zero (mt period.mp isPeriod)]

theorem decimalExtent?_lower (text : List Char) : decimalExtent? (lower text) = decimalExtent? text := by
  simp only [decimalExtent?_eq, runLength_lower isAsciiDigit_toLower, ← lower_drop, fractionRun_lower,
    endsWord_lower]

theorem operatorExtent_lower (text : List Char) : operatorExtent (lower text) = operatorExtent text := by
  have caseless : ∀ operator ∈ operators, ∀ c ∈ operator, c.isAlpha = false := by decide
  have first : operators.find? (·.isPrefixOf (lower text)) = operators.find? (·.isPrefixOf text) :=
    List.find?_congr fun operator member => isPrefixOf_lower (caseless operator member) text
  unfold operatorExtent
  rw [first]

theorem blockExtent?_lower (before : Option Char) (text : List Char) :
    Rule.blockComment.extent? before (lower text) = Rule.blockComment.extent? before text := by
  have unopened : ∀ {text}, ¬ ['/', '*'] <+: text → Rule.blockComment.match? before text = none := by
    intro text closed
    refine (Rule.match?_eq_none_iff rfl).mpr fun opener opens => ?_
    rwa [List.mem_singleton.mp opens]
  by_cases opened : ['/', '*'] <+: text
  · obtain ⟨rest, rfl⟩ := opened
    exact congrArg (fun body => some (2 + body)) (commentBody_lower rest)
  · rw [Rule.extent?, unopened (mt (prefix_lower (by decide)).mp opened), Rule.extent?, unopened opened]

section Marks

variable {marks : List Char} (caseless : ∀ mark ∈ marks, mark.isAlpha = false)

include caseless

theorem namedMatch?_lower (text : List Char) :
    (namedMatch? (singleMarks marks) (lower text)).map Match.length =
      (namedMatch? (singleMarks marks) text).map Match.length := by
  cases text with
  | nil => rfl
  | cons c text =>
    have run := runLength_lower isKeyChar_toLower text
    unfold runLength at run
    simp only [lower_cons, namedMatch?_cons, toLower_mem_iff caseless, begins_lower isKeyChar_toLower]
    split <;> simp [run]

theorem positionalMatch?_lower (text : List Char) :
    (positionalMatch? (singleMarks marks) (lower text)).map Match.length =
      (positionalMatch? (singleMarks marks) text).map Match.length := by
  cases text with
  | nil => rfl
  | cons c text =>
    have run := runLength_lower isAsciiDigit_toLower text
    unfold runLength at run
    simp only [lower_cons, positionalMatch?_cons, toLower_mem_iff caseless]
    split <;> simp [run]

end Marks

end Extents

section Cased

variable {text other : List Char}

theorem SameLetters.apply {α : Type} (alike : SameLetters text other) {f : List Char → α}
    (blind : ∀ text, f (lower text) = f text) : f text = f other := by
  rw [← blind text, ← blind other, alike]

theorem SameLetters.drop (alike : SameLetters text other) (count : Nat) :
    SameLetters (text.drop count) (other.drop count) := by
  rw [SameLetters, lower_drop, lower_drop, alike]

theorem sameLetters_cons {c d : Char} :
    SameLetters (c :: text) (d :: other) ↔ c.toLower = d.toLower ∧ SameLetters text other := by
  simp [SameLetters, lower_cons]

theorem SameLetters.prefix_iff (alike : SameLetters text other) {mark : List Char}
    (caseless : ∀ c ∈ mark, c.isAlpha = false) : mark <+: text ↔ mark <+: other := by
  rw [← prefix_lower caseless, alike, prefix_lower caseless]

/-- The fixed beginnings that a rule has and that are spelled with a letter in one case only. -/
def Rule.casedOpenings : Rule → List (List Char)
  | .literal _ => [['N', '\x27']]
  | .quotedPlaceholder marks _ => marks.map fun mark => mark.flatten ++ ['N', '\x27']
  | .number => [['0', 'x'], ['0', 'b']]
  | _ => []

theorem literalExtent?_sameLetters {styles : List QuoteStyle} (alike : SameLetters text other)
    (national : ['N', '\x27'] <+: text ↔ ['N', '\x27'] <+: other) :
    literalExtent? styles text = literalExtent? styles other := by
  have same : ∀ style : QuoteStyle, style.extent? text = style.extent? other := by
    intro style
    have opens : style.opening <+: text ↔ style.opening <+: other := by
      cases style with
      | national => exact national
      | _ => exact alike.prefix_iff (by decide)
    have closing : style.closing.isAlpha = false := by cases style <;> decide
    have body := (alike.drop style.opening.length).apply (literalBody_lower closing style.escapes)
    simp only [QuoteStyle.extent?, List.isPrefixOf_iff_prefix, opens, body]
  simp only [literalExtent?, same]

theorem quotedMatch?_sameLetters {marks : List Char} {styles : List QuoteStyle} (alike : SameLetters text other)
    (caseless : ∀ mark ∈ marks, mark.isAlpha = false)
    (opens : ∀ mark ∈ marks, [mark, 'N', '\x27'] <+: text ↔ [mark, 'N', '\x27'] <+: other) :
    (quotedMatch? (singleMarks marks) styles text).map Match.length =
      (quotedMatch? (singleMarks marks) styles other).map Match.length := by
  cases text with
  | nil =>
    cases other with
    | nil => rfl
    | cons => cases alike
  | cons c text =>
    cases other with
    | nil => cases alike
    | cons d other =>
      obtain ⟨heads, tails⟩ := sameLetters_cons.mp alike
      have mark : c ∈ marks ↔ d ∈ marks := by rw [← toLower_mem_iff caseless, heads, toLower_mem_iff caseless]
      simp only [quotedMatch?_cons, mark]
      split
      · rename_i isMark
        have same : c = d := by
          rw [(toLower_eq_iff (caseless d isMark)).mpr rfl] at heads
          exact (toLower_eq_iff (caseless d isMark)).mp heads
        have national := opens d isMark
        rw [same, List.cons_prefix_cons, List.cons_prefix_cons, and_iff_right rfl, and_iff_right rfl] at national
        simp [literalExtent?_sameLetters tails national, Option.map_map, Function.comp_def]
      · rfl

theorem SameLetters.wordExtent? {before after : Option Char} (alike : SameLetters text other)
    (same : before.any isWordChar = after.any isWordChar) (words : List Phrase) :
    wordExtent? words before text = wordExtent? words after other := by
  rw [← wordExtent?_lower same.symm words text, alike, wordExtent?_lower rfl]

/-- A number with a base is found in both texts or in none, unless one begins with the base and the other
does not. -/
theorem basedExtent?_sameLetters {base : Char} {isDigit : Char → Bool}
    (blind : ∀ c : Char, isDigit c.toLower = isDigit c) (alike : SameLetters text other)
    (opens : ['0', base] <+: text ↔ ['0', base] <+: other) :
    basedExtent? base isDigit text = basedExtent? base isDigit other := by
  have unopened : ∀ {text}, ¬ ['0', base] <+: text → basedExtent? base isDigit text = none := by
    intro text closed
    unfold basedExtent?
    split
    · rename_i mark rest
      refine if_neg fun found => closed ?_
      rw [found.1]
      exact ⟨rest, rfl⟩
    · rfl
  by_cases opened : ['0', base] <+: text
  · obtain ⟨rest, rfl⟩ := opened
    obtain ⟨later, rfl⟩ := opens.mp (List.prefix_append _ _)
    have tails : SameLetters rest later := (sameLetters_cons.mp (sameLetters_cons.mp alike).2).2
    have digits := tails.apply (runLength_lower blind)
    have ends := fun length => alike.apply (f := (endsWord · length)) (endsWord_lower · length)
    simp only [List.cons_append, List.nil_append] at ends ⊢
    simp only [basedExtent?, digits, ends]
  · rw [unopened opened, unopened (mt opens.mpr opened)]

theorem numberExtent?_sameLetters (alike : SameLetters text other)
    (opens : ∀ opening ∈ Rule.number.casedOpenings, opening <+: text ↔ opening <+: other) :
    numberExtent? text = numberExtent? other := by
  have hyphen : ∀ c : Char, (c.toLower == '-') = (c == '-') := toLower_invariant (f := (· == '-')) (by decide)
  have signs := alike.apply (begins_lower (p := (· == '-')) hyphen)
  have decimals := alike.apply decimalExtent?_lower
  simp only [Rule.casedOpenings, List.mem_cons, List.not_mem_nil, or_false, forall_eq_or_imp, forall_eq] at opens
  have hexadecimals := basedExtent?_sameLetters isHexDigit_toLower alike opens.1
  have binaries := basedExtent?_sameLetters isBit_toLower alike opens.2
  cases signed : begins (· == '-') text with
  | false =>
    rw [numberExtent?_unsigned signed, numberExtent?_unsigned (signs ▸ signed), decimals, hexadecimals, binaries]
  | true =>
    obtain ⟨rest, rfl⟩ : ∃ rest, text = '-' :: rest := by
      cases text with
      | nil => cases signed
      | cons c rest => exact ⟨rest, by rw [show c = '-' by simpa using signed]⟩
    obtain ⟨later, rfl⟩ : ∃ later, other = '-' :: later := by
      cases other with
      | nil => cases signs
      | cons c later => exact ⟨later, by rw [show c = '-' by simpa [signed] using signs.symm]⟩
    have tails := (sameLetters_cons.mp alike).2
    have gap := tails.apply (runLength_lower isBlank_toLower)
    have later := (tails.drop (blankRun rest)).apply decimalExtent?_lower
    simp only [numberExtent?]
    rw [later, show blankRun rest = blankRun _ from gap]

variable {dialect : Dialect} {rule : Rule} {before after : Option Char}

theorem Dialect.isNameChar_toLower (dialect : Dialect) :
    ∀ c : Char, dialect.isNameChar c.toLower = dialect.isNameChar c :=
  toLower_invariant (by cases dialect <;> decide)

theorem Dialect.caseless_mark {c : Char} (mark : c ∈ dialect.marks ++ dialect.positionalMarks) :
    c.isAlpha = false := by
  have every : ∀ c ∈ dialect.marks ++ dialect.positionalMarks, c.isAlpha = false := by
    cases dialect <;> decide
  exact every c mark

theorem Dialect.caseless_symbol {side : BracketSide} {c : Char} (symbol : c ∈ dialect.lexicon.symbols side) :
    c.isAlpha = false := by
  have every : ∀ side ∈ [BracketSide.opening, .closing], ∀ c ∈ dialect.lexicon.symbols side, c.isAlpha = false := by
    cases dialect <;> decide
  exact every side side.mem_all c symbol

theorem Dialect.caseless_lineCommentMark {mark : Phrase}
    (member : mark ∈ phrases dialect.lexicon.lineCommentMarks) : ∀ c ∈ mark.flatten, c.isAlpha = false := by
  have every : ∀ mark ∈ phrases dialect.lexicon.lineCommentMarks, ∀ c ∈ mark.flatten, c.isAlpha = false := by
    cases dialect <;> decide
  exact every mark member

/-- How far a rule reaches does not depend on the case of letters, if the texts begin alike where the rule has
a fixed beginning with a letter in it. -/
theorem Dialect.extent?_sameLetters (member : rule ∈ dialect.rules) (alike : SameLetters text other)
    (same : before.any isWordChar = after.any isWordChar)
    (opens : ∀ opening ∈ rule.casedOpenings, opening <+: text ↔ opening <+: other) :
    rule.extent? before text = rule.extent? after other := by
  -- most rules reach as far in the text with all its letters in lower case
  have blind : (∀ text, rule.extent? before (lower text) = rule.extent? before text) →
      (∀ text, rule.extent? before text = rule.extent? after text) →
      rule.extent? before text = rule.extent? after other :=
    fun lowered moved => (alike.apply lowered).trans (moved other)
  cases rule with
  | blank =>
    exact blind (fun text => congrArg some (runLength_lower isBlank_toLower text)) fun _ => rfl
  | lineComment marks =>
    have sorted := Dialect.lineComment_mem member
    have single : marks.all Phrase.isMark := Dialect.isOpener_of_isFixed member rfl
    refine blind (fun text => ?_) fun _ => rfl
    rw [Rule.extent?, Rule.match?, markExtent?_lower single (sorted ▸ fun _ => Dialect.caseless_lineCommentMark),
      Rule.extent?, Rule.match?]
    simp only [← lower_drop, lineLength_lower]
  | blockComment =>
    exact blind (blockExtent?_lower before) fun _ => rfl
  | literal styles =>
    have national := opens ['N', '\x27'] (by simp [Rule.casedOpenings])
    rw [Rule.extent?, Rule.match?, literalExtent?_sameLetters alike national, Rule.extent?, Rule.match?]
  | bracketSymbol side symbols =>
    refine blind (fun text => ?_) fun _ => rfl
    cases text with
    | nil => rfl
    | cons c text =>
      have symbol := toLower_mem_iff (c := c) fun d (inSymbols : d ∈ symbols) =>
        Dialect.caseless_symbol (Dialect.bracketSymbol_mem member ▸ inSymbols)
      simp [Rule.extent?, Rule.match?, lower_cons, symbol]
  | bracketWord side words =>
    have start : boundaryAt before text 0 = boundaryAt after other 0 := by
      rw [← boundaryAt_lower same.symm text 0, alike, boundaryAt_lower rfl]
    rw [Rule.extent?, Rule.match?, alike.wordExtent? same words, start, Rule.extent?, Rule.match?]
  | namedPlaceholder marks =>
    refine blind (fun text => ?_) fun _ => rfl
    rw [Rule.extent?, Rule.match?, Dialect.namedPlaceholder_mem member]
    exact namedMatch?_lower (fun mark inMarks => Dialect.caseless_mark (List.mem_append_left _ inMarks)) text
  | quotedPlaceholder marks styles =>
    have sorted := (Dialect.quotedPlaceholder_mem member).1
    subst sorted
    refine quotedMatch?_sameLetters alike ?_ fun mark inMarks => opens [mark, 'N', '\x27'] ?_
    · exact fun mark inMarks => Dialect.caseless_mark (List.mem_append_left _ inMarks)
    · exact List.mem_map.mpr ⟨[[mark]], List.mem_map.mpr ⟨mark, inMarks, rfl⟩, rfl⟩
  | positionalPlaceholder marks =>
    refine blind (fun text => ?_) fun _ => rfl
    rw [Rule.extent?, Rule.match?, Dialect.positionalPlaceholder_mem member]
    exact positionalMatch?_lower (fun mark inMarks => Dialect.caseless_mark (List.mem_append_right _ inMarks)) text
  | number =>
    rw [Rule.extent?, Rule.match?, numberExtent?_sameLetters alike opens, Rule.extent?, Rule.match?]
  | reserved reservedClass words =>
    rw [Rule.extent?, Rule.match?, alike.wordExtent? same words, Rule.extent?, Rule.match?]
  | word extra =>
    refine blind (fun text => ?_) fun _ => rfl
    rw [Rule.extent?, Dialect.word_match? member, runLength_lower dialect.isNameChar_toLower, Rule.extent?,
      Dialect.word_match? member]
  | operator => exact blind (fun text => congrArg some (operatorExtent_lower text)) fun _ => rfl

end Cased

end QueryLayout
