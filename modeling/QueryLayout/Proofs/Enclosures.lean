import QueryLayout.Proofs.Cutting
import QueryLayout.Proofs.Stability

namespace QueryLayout

/-- The quote styles that begin with a quote. What a national string has before its quote is no part of them. -/
def Dialect.plainQuotes (dialect : Dialect) : List QuoteStyle :=
  dialect.lexicon.quoteStyles.filter (· != .national)

/-- The rules for comments and quoted texts, in which nothing else is read. -/
def Dialect.enclosing (dialect : Dialect) : List Rule :=
  [.lineComment (phrases dialect.lexicon.lineCommentMarks), .blockComment, .literal dialect.plainQuotes]

/-- The length of the comment or quoted text that a text begins with. -/
def Dialect.enclosure? (dialect : Dialect) (text : List Char) : Option Nat :=
  (dialect.enclosing.findSome? (·.match? none text)).map Match.length

/-- The block comments of a text, told from the rest of it by nothing but comments and quotes. `skip` counts the
characters that a comment or quoted text before still covers. -/
def Dialect.commentsAfter (dialect : Dialect) : Nat → List Char → List (List Char)
  | _, [] => []
  | skip + 1, _ :: rest => dialect.commentsAfter skip rest
  | 0, c :: rest =>
    match dialect.enclosure? (c :: rest) with
    | none => dialect.commentsAfter 0 rest
    | some length =>
      (if ['/', '*'].isPrefixOf (c :: rest) then [(c :: rest).take length] else []) ++
        dialect.commentsAfter (length - 1) rest

def Dialect.comments (dialect : Dialect) (text : List Char) : List (List Char) :=
  dialect.commentsAfter 0 text

/-- The texts that a comment or quoted text begins with. -/
def Dialect.fences (dialect : Dialect) : List (List Char) :=
  dialect.enclosing.flatMap Rule.openers

/-- A character that no comment or quoted text begins with. -/
def Dialect.isCalm (dialect : Dialect) (c : Char) : Bool :=
  dialect.fences.all fun opener => opener.head? != some c

/-- No comment or quoted text begins in a text that another one follows. -/
def Dialect.Passes (dialect : Dialect) (other : List Char) : List Char → Prop
  | [] => True
  | c :: text => dialect.enclosure? (c :: (text ++ other)) = none ∧ dialect.Passes other text

section Scan

variable {dialect : Dialect} {c : Char} {text other region rest : List Char}

theorem Dialect.commentsAfter_append (first second : List Char) :
    dialect.commentsAfter first.length (first ++ second) = dialect.comments second := by
  induction first with
  | nil => rfl
  | cons c first ih =>
    rw [List.cons_append, List.length_cons, Dialect.commentsAfter]
    exact ih

theorem Dialect.comments_cons (none : dialect.enclosure? (c :: rest) = none) :
    dialect.comments (c :: rest) = dialect.comments rest := by
  unfold Dialect.comments
  rw [Dialect.commentsAfter, none]

/-- What is enclosed is passed at once. -/
theorem Dialect.comments_enclosed (someRegion : region ≠ [])
    (found : dialect.enclosure? (region ++ rest) = some region.length) :
    dialect.comments (region ++ rest) =
      (if ['/', '*'].isPrefixOf (region ++ rest) then [region] else []) ++ dialect.comments rest := by
  obtain ⟨c, region, rfl⟩ := List.exists_cons_of_ne_nil someRegion
  have later := dialect.commentsAfter_append region rest
  have whole : (c :: (region ++ rest)).take (region.length + 1) = c :: region := by
    rw [List.take_succ_cons, List.take_left]
  rw [List.cons_append, List.length_cons] at found
  rw [List.cons_append, Dialect.comments, Dialect.commentsAfter, found]
  simp only [whole, Nat.add_sub_cancel, later]

theorem Dialect.comments_passes (passes : dialect.Passes other text) :
    dialect.comments (text ++ other) = dialect.comments other := by
  induction text with
  | nil => rfl
  | cons c text ih => exact (Dialect.comments_cons passes.1).trans (ih passes.2)

theorem Dialect.isOpener_of_enclosing {rule : Rule} (member : rule ∈ dialect.enclosing) : rule.isOpener := by
  have every : ∀ rule ∈ dialect.enclosing, rule.isOpener := by cases dialect <;> decide
  exact every rule member

theorem Dialect.enclosure?_eq_none_iff :
    dialect.enclosure? text = none ↔ ∀ opener ∈ dialect.fences, ¬ opener <+: text := by
  rw [Dialect.enclosure?, Option.map_eq_none_iff, List.findSome?_eq_none_iff]
  simp only [Dialect.fences, List.mem_flatMap, forall_exists_index, and_imp]
  constructor
  · intro none opener rule member opens
    exact (Rule.match?_eq_none_iff (Dialect.isOpener_of_enclosing member)).mp (none rule member) opener opens
  · intro none rule member
    refine (Rule.match?_eq_none_iff (Dialect.isOpener_of_enclosing member)).mpr fun opener opens => ?_
    exact none opener rule member opens

theorem Dialect.nil_not_mem_fences (dialect : Dialect) : [] ∉ dialect.fences := by
  cases dialect <;> decide

/-- One rule at most finds a comment or quoted text. -/
theorem Dialect.enclosure?_eq_some {rule : Rule} (member : rule ∈ dialect.enclosing) {found : Match}
    (matched : rule.match? none text = some found) : dialect.enclosure? text = some found.length := by
  have starts : ∀ rule ∈ dialect.enclosing, ∀ found, rule.match? none text = some found →
      ∃ opener ∈ rule.openers, opener.head? = text.head? := by
    intro rule member found matched
    by_contra absent
    push Not at absent
    have none : rule.match? none text = none := by
      refine (Rule.match?_eq_none_iff (Dialect.isOpener_of_enclosing member)).mpr fun opener opens starts => ?_
      have someOpener : opener ≠ [] := by
        rintro rfl
        exact dialect.nil_not_mem_fences (List.mem_flatMap.mpr ⟨rule, member, opens⟩)
      obtain ⟨later, rfl⟩ := starts
      exact absent opener opens (List.head?_append_of_ne_nil _ someOpener).symm
    rw [matched] at none
    cases none
  have exclusive : ∀ rule ∈ dialect.enclosing, ∀ other ∈ dialect.enclosing, rule ≠ other →
      ∀ opener ∈ rule.openers, ∀ another ∈ other.openers, opener.head? ≠ another.head? := by
    cases dialect <;> decide
  obtain ⟨opener, opens, atHead⟩ := starts rule member found matched
  cases first : dialect.enclosing.findSome? (·.match? none text) with
  | none =>
    rw [List.findSome?_eq_none_iff.mp first rule member] at matched
    cases matched
  | some other =>
    obtain ⟨another, inRules, atOther⟩ := List.exists_of_findSome?_eq_some first
    obtain ⟨mark, marks, alsoHead⟩ := starts another inRules other atOther
    by_cases same : rule = another
    · rw [← same, matched] at atOther
      rw [Dialect.enclosure?, first, ← Option.some.inj atOther]
      rfl
    · exact absurd (atHead.trans alsoHead.symm) (exclusive rule member another inRules same opener opens mark marks)

end Scan

section Calm

variable {dialect : Dialect} {c : Char} {text other : List Char}

theorem Dialect.isCalm_of_begins {p : Char → Bool} (fences : ∀ opener ∈ dialect.fences, begins p opener = false)
    (holds : p c) : dialect.isCalm c := by
  rw [Dialect.isCalm, List.all_eq_true]
  intro opener member
  have other := fences opener member
  cases opener with
  | nil => rfl
  | cons d opener =>
    rw [begins_cons] at other
    have apart : d ≠ c := by
      rintro rfl
      rw [holds] at other
      cases other
    simpa using apart

theorem Dialect.isCalm_of_isNameChar (name : dialect.isNameChar c) : dialect.isCalm c := by
  refine Dialect.isCalm_of_begins ?_ name
  cases dialect <;> decide

theorem Dialect.isCalm_of_isWordChar (word : isWordChar c) : dialect.isCalm c :=
  Dialect.isCalm_of_isNameChar (dialect.isNameChar_of_isWordChar word)

theorem Dialect.isCalm_of_isBlank (blank : isBlank c) : dialect.isCalm c := by
  refine Dialect.isCalm_of_begins ?_ blank
  cases dialect <;> decide

theorem Dialect.isCalm_of_isKeyChar (key : isKeyChar c) : dialect.isCalm c := by
  refine Dialect.isCalm_of_begins ?_ key
  cases dialect <;> decide

theorem Dialect.isCalm_mark (mark : c ∈ dialect.marks ++ dialect.positionalMarks) : dialect.isCalm c := by
  have every : ∀ c ∈ dialect.marks ++ dialect.positionalMarks, dialect.isCalm c := by
    cases dialect <;> decide
  exact every c mark

theorem Dialect.enclosure?_calm (calm : dialect.isCalm c) (rest : List Char) :
    dialect.enclosure? (c :: rest) = none := by
  rw [Dialect.enclosure?_eq_none_iff]
  rintro opener member ⟨later, split⟩
  have other := List.all_eq_true.mp calm opener member
  cases opener with
  | nil => exact dialect.nil_not_mem_fences member
  | cons d opener =>
    obtain ⟨rfl, _⟩ := List.cons.inj split
    simp at other

theorem Dialect.passes_calm (calm : ∀ c ∈ text, dialect.isCalm c) : dialect.Passes other text := by
  induction text with
  | nil => trivial
  | cons c text ih =>
    refine ⟨Dialect.enclosure?_calm (calm c List.mem_cons_self) _, ih fun d member => ?_⟩
    exact calm d (List.mem_cons_of_mem _ member)

theorem Dialect.comments_gap {gap : List Char} (blank : IsGap gap) :
    dialect.comments (gap ++ other) = dialect.comments other :=
  Dialect.comments_passes (Dialect.passes_calm fun c member => Dialect.isCalm_of_isBlank (blank c member))

/-- Where nothing is enclosed from the first character on, the others may be passed if they are calm. -/
theorem Dialect.comments_tail (start : dialect.enclosure? (text ++ other) = none)
    (calm : ∀ c ∈ text.tail, dialect.isCalm c) : dialect.comments (text ++ other) = dialect.comments other := by
  refine Dialect.comments_passes ?_
  cases text with
  | nil => trivial
  | cons c text => exact ⟨start, Dialect.passes_calm calm⟩

end Calm

section Enclosed

variable {dialect : Dialect} {text other : List Char}

/-- A quoted text is passed, whatever stands in it. -/
theorem Dialect.comments_literal
    (found : literalExtent? dialect.lexicon.quoteStyles (text ++ other) = some text.length) :
    dialect.comments (text ++ other) = dialect.comments other := by
  obtain ⟨style, member, body, rfl, whole⟩ := literalExtent?_eq_some found
  have quoted : ∀ style ∈ dialect.plainQuotes,
      literalBody style.closing style.escapes (body ++ other) = body.length →
      dialect.comments (style.opening ++ body ++ other) = dialect.comments other := by
    intro style plain whole
    have someText : style.opening ++ body ≠ [] := by cases style <;> simp [QuoteStyle.opening]
    have apart : ['/', '*'].isPrefixOf (style.opening ++ body ++ other) = false := by
      cases style <;> simp [QuoteStyle.opening, List.isPrefixOf]
    have size : literalExtent? dialect.plainQuotes (style.opening ++ body ++ other) =
        some (style.opening ++ body).length := by
      rw [List.append_assoc, literalExtent?_opening plain, whole, List.length_append]
    have matched : (Rule.literal dialect.plainQuotes).match? none (style.opening ++ body ++ other) =
        some ⟨(style.opening ++ body).length, []⟩ := by
      simp only [Rule.match?, size, Option.map_some]
    have enclosed : dialect.enclosure? (style.opening ++ body ++ other) = some (style.opening ++ body).length :=
      Dialect.enclosure?_eq_some (by simp [Dialect.enclosing]) matched
    rw [Dialect.comments_enclosed someText enclosed, apart]
    rfl
  by_cases national : style = .national
  · subst style
    have single : .single ∈ dialect.plainQuotes := by
      have every : QuoteStyle.national ∈ dialect.lexicon.quoteStyles → .single ∈ dialect.plainQuotes := by
        cases dialect <;> decide
      exact every member
    have letter : dialect.isCalm 'N' := Dialect.isCalm_of_isWordChar (by decide)
    exact (Dialect.comments_cons (Dialect.enclosure?_calm letter _)).trans (quoted .single single whole)
  · exact quoted style (List.mem_filter.mpr ⟨member, by simpa using national⟩) whole

theorem Dialect.comments_blockComment {body : List Char} (whole : commentBody (body ++ other) = body.length) :
    dialect.comments ('/' :: '*' :: body ++ other) = ('/' :: '*' :: body) :: dialect.comments other := by
  have matched : Rule.blockComment.match? none ('/' :: '*' :: body ++ other) = some ⟨body.length + 2, []⟩ := by
    simp only [List.cons_append, Rule.match?, whole, Nat.add_comm]
  have enclosed : dialect.enclosure? ('/' :: '*' :: body ++ other) = some ('/' :: '*' :: body).length :=
    Dialect.enclosure?_eq_some (by simp [Dialect.enclosing]) matched
  rw [Dialect.comments_enclosed (by simp) enclosed]
  simp [List.isPrefixOf]

theorem Dialect.comments_lineComment {lead : Nat}
    (found : markExtent? (phrases dialect.lexicon.lineCommentMarks) (text ++ other) = some lead)
    (whole : lead + lineLength ((text ++ other).drop lead) = text.length) :
    dialect.comments (text ++ other) = dialect.comments other := by
  have single : (phrases dialect.lexicon.lineCommentMarks).all Phrase.isMark := by cases dialect <;> decide
  have someText : text ≠ [] := by
    rintro rfl
    have positive := markExtent?_pos single found
    rw [List.length_nil] at whole
    omega
  have apart : ['/', '*'].isPrefixOf (text ++ other) = false := by
    obtain ⟨mark, member, line, rfl, _⟩ := lineComment_split dialect.exclusive_lineCommentMarks found whole
    have slash := dialect.lineCommentMarks_slash mark member
    have someMark := (List.all_eq_true.mp single) mark member
    cases flat : mark.flatten with
    | nil => simp [Phrase.isMark, flat] at someMark
    | cons c tail =>
      have other : '/' ≠ c := by
        rintro rfl
        simp [flat] at slash
      simp [List.isPrefixOf, other]
  have matched : (Rule.lineComment (phrases dialect.lexicon.lineCommentMarks)).match? none (text ++ other) =
      some ⟨text.length, []⟩ := by
    simp only [Rule.match?, found, Option.map_some, whole]
  have enclosed : dialect.enclosure? (text ++ other) = some text.length :=
    Dialect.enclosure?_eq_some (by simp [Dialect.enclosing]) matched
  rw [Dialect.comments_enclosed someText enclosed, apart]
  rfl

end Enclosed

section Hyphens

variable {dialect : Dialect} {text other : List Char}

theorem Dialect.isCalm_of_isPlainChar {c : Char} (plain : isPlainChar c) (notHyphen : c ≠ '-') :
    dialect.isCalm c := by
  simp only [isPlainChar, Bool.or_eq_true, beq_iff_eq] at plain
  rcases plain with ((word | blank) | hyphen) | rfl
  · exact Dialect.isCalm_of_isWordChar word
  · exact Dialect.isCalm_of_isBlank blank
  · exact absurd hyphen notHyphen
  · exact Dialect.isCalm_of_isKeyChar (by decide)

/-- A single hyphen begins no comment. -/
theorem Dialect.enclosure?_hyphen {c : Char} (notHyphen : c ≠ '-') (rest : List Char) :
    dialect.enclosure? ('-' :: c :: rest) = none := by
  have double : ∀ opener ∈ dialect.fences, opener.head? = some '-' → opener = ['-', '-'] := by
    cases dialect <;> decide
  rw [Dialect.enclosure?_eq_none_iff]
  rintro opener member ⟨later, split⟩
  cases opener with
  | nil => exact dialect.nil_not_mem_fences member
  | cons d opener =>
    obtain ⟨rfl, inner⟩ := List.cons.inj split
    obtain ⟨_, rfl⟩ := List.cons.inj (double _ member rfl)
    exact notHyphen (List.cons.inj inner).1.symm

theorem Dialect.passes_hyphen (plain : ∀ c ∈ text, isPlainChar c) (single : text.count '-' ≤ 1)
    (final : ∀ c ∈ text.getLast?, c ≠ '-') : dialect.Passes other text := by
  induction text with
  | nil => trivial
  | cons c text ih =>
    obtain ⟨first, later⟩ := List.forall_mem_cons.mp plain
    by_cases hyphen : c = '-'
    · -- no other hyphen follows, so that the rest is calm
      subst c
      have others : ∀ d ∈ text, d ≠ '-' := by
        rintro d member rfl
        have positive := List.count_pos_iff.mpr member
        rw [List.count_cons_self] at single
        omega
      refine ⟨?_, Dialect.passes_calm fun d member =>
        Dialect.isCalm_of_isPlainChar (later d member) (others d member)⟩
      cases text with
      | nil => exact absurd rfl (final '-' rfl)
      | cons d text => exact Dialect.enclosure?_hyphen (others d List.mem_cons_self) _
    · refine ⟨Dialect.enclosure?_calm (Dialect.isCalm_of_isPlainChar first hyphen) _, ih later ?_ fun d last => ?_⟩
      · rwa [List.count_cons_of_ne hyphen] at single
      · refine final d ?_
        rw [List.getLast?_cons, Option.mem_def.mp last]
        rfl

theorem Occurs.count_hyphen {hyphens : Bool} {phrase : Phrase} {raw : List Char} (occurs : Occurs phrase raw)
    (entry : phrase.isEntry hyphens) : raw.count '-' ≤ phrase.flatten.count '-' := by
  have ofPart : ∀ {part spelled}, part.all (isEntryChar hyphens) → Spells part spelled →
      spelled.count '-' ≤ part.count '-' := by
    intro part spelled chars spells
    induction spells with
    | nil => simp
    | @cons p c part spelled same _ ih =>
      obtain ⟨first, later⟩ := Bool.and_eq_true_iff.mp chars
      have fold : c = '-' → p = '-' := by
        rintro rfl
        by_contra notHyphen
        have letter := (entryChar_class first (by simpa [sameFolded] using same)).2.2.2.2 notHyphen
        exact absurd letter (by decide)
      have rest := ih later
      rw [List.count_cons, List.count_cons]
      by_cases hyphen : c = '-'
      · simp [hyphen, fold hyphen, rest]
      · simp only [beq_iff_eq, hyphen, if_false]
        omega
  have chars : ∀ {part}, isEntryPart hyphens part → part.all (isEntryChar hyphens) := by
    intro part isPart
    simp only [isEntryPart, Bool.and_eq_true] at isPart
    exact isPart.1.1.1
  induction occurs with
  | last spells => simpa using ofPart (chars (Phrase.isEntry_singleton entry)) spells
  | @more _ _ _ _ gap _ spells blank _ _ ih =>
    obtain ⟨first, tail⟩ := Phrase.isEntry_tail entry
    have none : gap.count '-' = 0 := List.count_eq_zero.mpr fun member => absurd (blank _ member) (by decide)
    have front := ofPart (chars first) spells
    have back := ih tail
    rw [List.flatten_cons, List.count_append, List.count_append, List.count_append, none]
    omega

theorem count_flatten_le (parts : List (List Char)) :
    parts.flatten.count '-' ≤ ([' '].intercalate parts).count '-' := by
  induction parts with
  | nil => simp
  | cons part parts ih =>
    by_cases last : parts = []
    · simp [last]
    · rw [List.intercalate_cons_of_ne_nil last, List.flatten_cons, List.count_append, List.count_append]
      exact Nat.add_le_add (by simp) ih

/-- No reserved word has more than one hyphen. -/
theorem Dialect.reserved_hyphen {reservedClass : ReservedClass} {words : List Phrase}
    (member : Rule.reserved reservedClass words ∈ dialect.rules) {phrase : Phrase} (inWords : phrase ∈ words) :
    phrase.flatten.count '-' ≤ 1 := by
  rw [Dialect.reserved_mem member] at inWords
  obtain ⟨entry, inEntries, rfl⟩ := mem_phrases.mp inWords
  calc (blankParts entry.toList).flatten.count '-'
    _ ≤ ([' '].intercalate (blankParts entry.toList)).count '-' := count_flatten_le _
    _ = entry.toList.count '-' := by rw [Dialect.intercalate_entry inEntries]
    _ ≤ 1 := Dialect.count_hyphen inEntries

theorem Dialect.bracketWord_hyphen {side : BracketSide} {words : List Phrase}
    (member : Rule.bracketWord side words ∈ dialect.rules) {phrase : Phrase} (inWords : phrase ∈ words) :
    phrase.flatten.count '-' ≤ 1 := by
  obtain ⟨_, part, inParts, rfl⟩ := Dialect.bracketWord_of_mem member inWords
  have every : ∀ part ∈ dialect.bracketParts, [part].flatten.count '-' ≤ 1 := by
    cases dialect <;> decide
  exact every part inParts

/-- Past its sign, a number is made of digits, letters, blanks and a period. -/
theorem Numeral.calm_tail {whole : Bool} {raw : List Char} (numeral : Numeral whole raw) :
    ∀ c ∈ raw.tail, dialect.isCalm c := by
  have digits : ∀ {isDigit : Char → Bool} {raw}, Digits isDigit raw → (∀ c, isDigit c → isWordChar c) →
      ∀ c ∈ raw, dialect.isCalm c :=
    fun all isWord c member => Dialect.isCalm_of_isWordChar (isWord c (all.2 c member))
  have period : dialect.isCalm '.' := Dialect.isCalm_of_isKeyChar (by decide)
  have plain : ∀ {raw}, PlainNumeral whole raw → ∀ c ∈ raw, dialect.isCalm c := by
    intro raw shape
    cases shape with
    | whole all => exact digits all fun _ => isWordChar_of_isAsciiDigit
    | fraction all decimals =>
      have front := digits all fun _ => isWordChar_of_isAsciiDigit
      have back := digits decimals fun _ => isWordChar_of_isAsciiDigit
      simpa [or_imp, forall_and] using ⟨front, period, back⟩
  have based : ∀ {raw base}, isWordChar base → (∀ c ∈ raw, dialect.isCalm c) →
      ∀ c ∈ base :: raw, dialect.isCalm c :=
    fun letter all => List.forall_mem_cons.mpr ⟨Dialect.isCalm_of_isWordChar letter, all⟩
  cases numeral with
  | decimal shape => exact fun c member => plain shape c (List.mem_of_mem_tail member)
  | @negative _ gap _ blank shape =>
    intro c member
    rcases List.mem_append.mp member with inGap | inDigits
    · exact Dialect.isCalm_of_isBlank (blank c inGap)
    · exact plain shape c inDigits
  | hexadecimal all => exact based (by decide) (digits all fun _ => isWordChar_of_isHexDigit)
  | binary all => exact based (by decide) (digits all fun _ => isWordChar_of_isBit)

end Hyphens

section Readers

variable {dialect : Dialect} {before : Option Token} {token : Token} {rest shown other : List Char} {rule : Rule}

/-- Where the rules for comments and quoted texts read nothing, nothing is enclosed. -/
theorem Dialect.enclosure?_of_read? {text : List Char}
    (failed : ∀ rule ∈ dialect.rules, rule.isFixed → rule.rank < 4 → rule.read? before text = none) :
    dialect.enclosure? text = none := by
  have someMarks : dialect.lexicon.lineCommentMarks.isEmpty = false := by cases dialect <;> rfl
  have someQuotes : dialect.lexicon.quoteStyles.isEmpty = false := by cases dialect <;> rfl
  have absent : ∀ rule ∈ dialect.rules, rule.isFixed → rule.rank < 4 → ∀ opener ∈ rule.openers, ¬ opener <+: text :=
    fun rule member fixed low =>
      (Rule.read?_eq_none_iff_openers (Dialect.isOpener_of_isFixed member fixed)).mp (failed rule member fixed low)
  rw [Dialect.enclosure?_eq_none_iff]
  intro opener inFences
  obtain ⟨rule, member, opens⟩ := List.mem_flatMap.mp inFences
  simp only [Dialect.enclosing, List.mem_cons, List.not_mem_nil, or_false] at member
  rcases member with rfl | rfl | rfl
  · refine absent (.lineComment _) ?_ rfl (by simp [Rule.rank]) opener opens
    simp [Dialect.rules, Lexicon.rules, unlessEmpty, someMarks]
  · exact absent .blockComment (by simp [Dialect.rules, Lexicon.rules]) rfl (by simp [Rule.rank]) opener opens
  · obtain ⟨style, plain, rfl⟩ := List.mem_map.mp opens
    refine absent (.literal dialect.lexicon.quoteStyles) ?_ rfl (by simp [Rule.rank]) _ ?_
    · simp [Dialect.rules, Lexicon.rules, unlessEmpty, someQuotes]
    · exact List.mem_map.mpr ⟨style, (List.mem_filter.mp plain).1, rfl⟩

/-- Whether a rule reads a token that may have a comment mark or a quote in it. -/
def Rule.encloses : Rule → Bool
  | .lineComment _ | .blockComment | .literal _ | .quotedPlaceholder _ _ => true
  | _ => false

theorem Rule.rank_of_encloses (plain : rule.encloses = false) (visible : rule.rank ≠ 0) : 4 ≤ rule.rank := by
  cases rule with
  | blank => exact absurd rfl visible
  | lineComment | blockComment | literal | quotedPlaceholder => cases plain
  | bracketSymbol side | bracketWord side => cases side <;> simp [Rule.rank]
  | reserved reservedClass => cases reservedClass <;> simp [Rule.rank]
  | _ => simp [Rule.rank]

variable (someRaw : token.raw ≠ []) (reads : ReadBy dialect before (token.raw ++ rest) token rule)

include someRaw reads

/-- The reserved word or word for a bracket that is read has one hyphen at most. -/
theorem ReadBy.phrase_hyphen (yields : rule.yieldsToPeriod) :
    ∃ word : Phrase, word.isEntry dialect.hyphens ∧ Occurs word token.raw ∧ word.flatten.count '-' ≤ 1 := by
  obtain ⟨_, _, word, inWords, occurs⟩ := reads.phrase_mem someRaw yields
  refine ⟨word, Dialect.isEntry_of_mem_words reads.member word inWords, occurs, ?_⟩
  cases rule with
  | bracketWord => exact Dialect.bracketWord_hyphen reads.member inWords
  | reserved => exact Dialect.reserved_hyphen reads.member inWords
  | _ => cases yields

/-- In names, numbers, operators and brackets only the first character may begin something that is enclosed. -/
theorem ReadBy.calm_tail (plain : rule.encloses = false) (fixed : rule.yieldsToPeriod = false) :
    ∀ c ∈ token.raw.tail, dialect.isCalm c := by
  cases rule with
  | blank =>
    have gap := (reads.blank someRaw).1
    exact fun c member => Dialect.isCalm_of_isBlank (gap c (List.mem_of_mem_tail member))
  | bracketSymbol =>
    obtain ⟨c, _, raw⟩ := reads.symbol someRaw
    simp [raw]
  | namedPlaceholder =>
    obtain ⟨mark, _, name, raw, _, keys, _⟩ := reads.named someRaw
    rw [raw]
    exact fun c member => Dialect.isCalm_of_isKeyChar (keys c member)
  | positionalPlaceholder =>
    obtain ⟨mark, _, digits, raw, every, _⟩ := reads.positional someRaw
    rw [raw]
    exact fun c member => Dialect.isCalm_of_isWordChar (isWordChar_of_isAsciiDigit (every c member))
  | number =>
    obtain ⟨_, numeral, _⟩ := reads.number someRaw
    exact numeral.calm_tail
  | word =>
    exact fun c member => Dialect.isCalm_of_isNameChar ((reads.word someRaw).1 c (List.mem_of_mem_tail member))
  | operator =>
    rcases operator_raw (reads.operator someRaw).1 (List.prefix_append _ _) with operator | ⟨c, single⟩
    · have every : ∀ operator ∈ operators, ∀ c ∈ operator.tail, dialect.isCalm c := by cases dialect <;> decide
      exact every _ operator
    · simp [single]
  | bracketWord | reserved => cases fixed
  | lineComment | blockComment | literal | quotedPlaceholder => cases plain

/-- Names, numbers, operators, brackets and reserved words are passed, also where a reserved word is written in
another way. -/
theorem ReadBy.passes (plain : rule.encloses = false)
    (spelled : rule.yieldsToPeriod →
      ∀ word : Phrase, word.isEntry dialect.hyphens → Occurs word token.raw → Occurs word shown)
    (same : rule.yieldsToPeriod = false → shown = token.raw ∧ dialect.enclosure? (token.raw ++ other) = none) :
    dialect.comments (shown ++ other) = dialect.comments other := by
  cases yields : rule.yieldsToPeriod with
  | false =>
    obtain ⟨rfl, start⟩ := same yields
    exact Dialect.comments_tail start (reads.calm_tail someRaw plain yields)
  | true =>
    obtain ⟨word, entry, occurs, single⟩ := reads.phrase_hyphen someRaw yields
    have written := spelled yields word entry occurs
    refine Dialect.comments_passes (Dialect.passes_hyphen (written.plain entry)
      ((written.count_hyphen entry).trans single) fun c last => ?_)
    obtain ⟨front, d, split, letter⟩ := written.final entry
    rw [split, List.getLast?_concat, Option.mem_some_iff] at last
    rintro rfl
    rw [last] at letter
    exact absurd letter (by decide)

theorem ReadBy.enclosure?_eq_none (plain : rule.encloses = false) :
    dialect.enclosure? (token.raw ++ rest) = none := by
  by_cases blank : rule.rank = 0
  · obtain rfl := Rule.rank_eq_zero blank
    have gap := (reads.blank someRaw).1
    obtain ⟨c, raw, split⟩ := List.exists_cons_of_ne_nil someRaw
    rw [split] at gap ⊢
    exact Dialect.enclosure?_calm (Dialect.isCalm_of_isBlank (gap c List.mem_cons_self)) _
  · exact Dialect.enclosure?_of_read? fun earlier member _ low =>
      reads.failed earlier member (low.trans_le (Rule.rank_of_encloses plain blank))

/-- Of all tokens, only a block comment is one. -/
theorem ReadBy.comments : dialect.comments (token.raw ++ rest) =
    (if token.kind = .blockComment then [token.raw] else []) ++ dialect.comments rest := by
  have passed : rule.encloses = false → dialect.comments (token.raw ++ rest) = dialect.comments rest :=
    fun plain => reads.passes someRaw plain (fun _ _ _ => id) fun _ => ⟨rfl, reads.enclosure?_eq_none someRaw plain⟩
  rw [reads.kind]
  cases rule with
  | lineComment marks =>
    obtain ⟨lead, found, whole⟩ := reads.lineComment someRaw
    exact Dialect.comments_lineComment found whole
  | blockComment =>
    obtain ⟨body, raw, whole⟩ := reads.blockComment someRaw
    rw [raw]
    exact Dialect.comments_blockComment whole
  | literal => exact Dialect.comments_literal (reads.literal someRaw)
  | quotedPlaceholder =>
    obtain ⟨mark, isMark, name, raw, found⟩ := reads.quoted someRaw
    have calm := Dialect.isCalm_mark (List.mem_append_left _ isMark)
    rw [raw]
    exact (Dialect.comments_cons (Dialect.enclosure?_calm calm _)).trans (Dialect.comments_literal found)
  | bracketSymbol side | bracketWord side => cases side <;> exact passed rfl
  | reserved reservedClass => cases reservedClass <;> exact passed rfl
  | blank | namedPlaceholder | positionalPlaceholder | number | word | operator => exact passed rfl

end Readers

/-- The block comments among some tokens. -/
def blockComments (tokens : List Token) : List (List Char) :=
  (tokens.filter fun token => token.kind == .blockComment).map Token.value

theorem Reading.comments {dialect : Dialect} {before : Option Token} {text : List Char} {tokens : List Token}
    (reading : Reading dialect.rules before text tokens) : dialect.comments text = blockComments tokens := by
  induction reading with
  | done => rfl
  | @next before token rest tokens someRaw read _ ih =>
    obtain ⟨rule, reads⟩ := Dialect.readFirst?_eq_some_iff.mp read
    rw [reads.comments someRaw, ih, blockComments, blockComments]
    by_cases comment : token.kind = .blockComment
    · have value := Rule.read?_value reads.read
      rw [comment] at value
      rw [if_pos comment, List.filter_cons_of_pos (by simp [comment]), List.map_cons,
        show token.value = token.raw from value]
      rfl
    · rw [if_neg comment, List.filter_cons_of_neg (by simp [comment])]
      rfl

/-- The block comments of a text can be told by nothing but comments and quotes. -/
theorem Dialect.comments_eq (dialect : Dialect) (text : List Char) :
    dialect.comments text = blockComments (tokenize dialect.rules text) :=
  (dialect.lexicon.reading_tokenize text).comments

end QueryLayout
