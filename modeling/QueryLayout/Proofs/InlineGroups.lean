import QueryLayout.Proofs.LineStarts

namespace QueryLayout

/-- The tokens `before` end inside a group that fits on one line with the tokens after them, and nothing has been
closed since its opening bracket. -/
def EndsInGroup (limit : Int) (before rest : List Token) : Prop :=
  ∃ outer opening inner, before = outer ++ opening :: inner ∧ opening.kind = .opening ∧
    isInlineGroup limit (opening :: (inner ++ rest)) ∧ ∀ token ∈ inner, token.kind ≠ .closing

/-- The characters of a token that is placed on the current line. -/
def Layout.inLine (layout : Layout) (style : Style) (token : Token) : List Char :=
  match token.kind with
  | .blank => []
  | .placeholder => (style.params.resolve layout.cursor token).1
  | _ => token.value

/-- A token is written behind the text, or behind the text without the blanks at its end, and nothing but a space
may follow it. -/
def Layout.AddsInLine (style : Style) (layout : Layout) (token : Token) (next : Layout) : Prop :=
  ∃ kept trail, (kept = layout.text ∨ kept = trimEnd layout.text) ∧ (trail = [] ∨ trail = [' ']) ∧
    next.text = kept ++ (layout.inLine style token ++ trail)

/-- A token that a group on one line may hold. -/
structure Token.FitsGroup (token : Token) : Prop where
  notOpening : token.kind ≠ .opening
  notClosing : token.kind ≠ .closing
  keeps : token.kind.breaksGroup = false
  notSemicolon : token.value ≠ [';']

/-- How long the values of tokens are together. -/
def valueLength : List Token → Nat
  | [] => 0
  | token :: rest => token.value.length + valueLength rest

@[simp] theorem valueLength_nil : valueLength [] = 0 :=
  rfl

@[simp] theorem valueLength_cons (token : Token) (tokens : List Token) :
    valueLength (token :: tokens) = token.value.length + valueLength tokens :=
  rfl

@[simp] theorem valueLength_append (tokens others : List Token) :
    valueLength (tokens ++ others) = valueLength tokens + valueLength others := by
  induction tokens with
  | nil => simp
  | cons token rest ih => rw [List.cons_append, valueLength_cons, ih, valueLength_cons, Nat.add_assoc]

/-- The tokens from `first` to `last` are a group that fits on one line. -/
structure GroupFits (limit : Int) (tokens : List Token) (first last : Nat) : Prop where
  ordered : first < last
  closes : ∃ closing ∈ tokens[last]?, closing.kind = .closing
  plain : ∀ i, first < i → i < last → ∀ token ∈ tokens[i]?,
    token.kind ∉ [.opening, .closing, .clause, .continuation, .lineComment, .blockComment] ∧ token.value ≠ [';']
  short : valueLength ((tokens.drop first).take (last + 1 - first)) ≤ limit

theorem Token.fitsGroup_iff {token : Token} : token.FitsGroup ↔
    token.kind ∉ [.opening, .closing, .clause, .continuation, .lineComment, .blockComment] ∧
      token.value ≠ [';'] := by
  have kinds : token.kind ≠ .opening ∧ token.kind ≠ .closing ∧ token.kind.breaksGroup = false ↔
      token.kind ∉ [.opening, .closing, .clause, .continuation, .lineComment, .blockComment] := by
    cases token.kind <;> decide
  constructor
  · rintro ⟨notOpening, notClosing, keeps, notSemicolon⟩
    exact ⟨kinds.mp ⟨notOpening, notClosing, keeps⟩, notSemicolon⟩
  · rintro ⟨plain, notSemicolon⟩
    obtain ⟨notOpening, notClosing, keeps⟩ := kinds.mpr plain
    exact ⟨notOpening, notClosing, keeps, notSemicolon⟩

section Groups

variable {limit length : Int} {token : Token} {before rest : List Token}

theorem groupCloses_cons_iff : groupCloses limit 1 length (token :: rest) ↔ length + token.value.length ≤ limit ∧
    (token.kind = .closing ∨ token.FitsGroup ∧ groupCloses limit 1 (length + token.value.length) rest) := by
  rw [groupCloses]
  by_cases long : limit < length + token.value.length
  · simp [long]
  · have short : length + token.value.length ≤ limit := Int.not_lt.mp long
    simp only [if_neg long, short, true_and, Token.fitsGroup_iff]
    cases kind : token.kind <;> simp [Kind.breaksGroup]

/-- The look-ahead stops at the first token that is too long, and asks for the closing bracket only after that.
Since no value is shorter than nothing, it is the length of the whole group that decides. -/
theorem groupCloses_iff : groupCloses limit 1 length rest ↔
    ∃ inner closing after, rest = inner ++ closing :: after ∧ closing.kind = .closing ∧
      (∀ token ∈ inner, token.FitsGroup) ∧ length + valueLength (inner ++ [closing]) ≤ limit := by
  induction rest generalizing length with
  | nil => simp [groupCloses]
  | cons token rest ih =>
    rw [groupCloses_cons_iff, ih]
    constructor
    · rintro ⟨short, closing | ⟨fits, inner, closing, after, rfl, isClosing, inside, whole⟩⟩
      · exact ⟨[], token, rest, rfl, closing, by simp, by simpa using short⟩
      · refine ⟨token :: inner, closing, after, rfl, isClosing, List.forall_mem_cons.mpr ⟨fits, inside⟩, ?_⟩
        rw [List.cons_append, valueLength_cons]
        omega
    · rintro ⟨inner, closing, after, split, isClosing, inside, whole⟩
      cases inner with
      | nil =>
        obtain ⟨rfl, rfl⟩ := List.cons.inj split
        exact ⟨by simpa using whole, Or.inl isClosing⟩
      | cons first inner =>
        obtain ⟨rfl, rfl⟩ := List.cons.inj split
        obtain ⟨fits, inside⟩ := List.forall_mem_cons.mp inside
        rw [List.cons_append, valueLength_cons] at whole
        exact ⟨by omega, Or.inr ⟨fits, inner, closing, after, rfl, isClosing, inside, by omega⟩⟩

/-- A group that is open goes on to its closing bracket without any other bracket. -/
theorem groupCloses_split (closes : groupCloses limit 1 length rest) :
    ∃ inner closing after, rest = inner ++ closing :: after ∧ closing.kind = .closing ∧
      ∀ token ∈ inner, token.FitsGroup := by
  obtain ⟨inner, closing, after, split, isClosing, inside, _⟩ := groupCloses_iff.mp closes
  exact ⟨inner, closing, after, split, isClosing, inside⟩

theorem isInlineGroup_cons_iff (isOpening : token.kind = .opening) : isInlineGroup limit (token :: rest) ↔
    token.value.length ≤ limit ∧ groupCloses limit 1 token.value.length rest := by
  rw [isInlineGroup, groupCloses]
  by_cases long : limit < token.value.length
  · simp [long]
  · simp [long, isOpening, Int.not_lt.mp long]

theorem drop_of_getElem? {tokens : List Token} {i : Nat} (found : tokens[i]? = some token) :
    tokens.drop i = token :: tokens.drop (i + 1) := by
  obtain ⟨bound, rfl⟩ := List.getElem?_eq_some_iff.mp found
  exact List.drop_eq_getElem_cons bound

/-- The token at `first` and the tokens behind it are such a group as soon as these go on to a closing bracket. -/
theorem exists_groupFits_iff {tokens : List Token} {first : Nat} {opening : Token}
    (found : tokens[first]? = some opening) : (∃ last, GroupFits limit tokens first last) ↔
      ∃ inner closing after, tokens.drop (first + 1) = inner ++ closing :: after ∧ closing.kind = .closing ∧
        (∀ token ∈ inner, token.FitsGroup) ∧ opening.value.length + valueLength (inner ++ [closing]) ≤ limit := by
  have next : ∀ n, (tokens.drop (first + 1))[n]? = tokens[first + n + 1]? := by
    intro n
    rw [List.getElem?_drop, Nat.add_right_comm]
  have span : ∀ n, (tokens.drop first).take (first + n + 1 + 1 - first) =
      opening :: (tokens.drop (first + 1)).take (n + 1) := by
    intro n
    have size : first + n + 1 + 1 - first = n + 1 + 1 := by omega
    rw [drop_of_getElem? found, size, List.take_succ_cons]
  constructor
  · rintro ⟨last, ordered, ⟨closing, atLast, isClosing⟩, plain, short⟩
    obtain ⟨n, rfl⟩ := Nat.exists_eq_add_of_lt ordered
    rw [Option.mem_def, ← next] at atLast
    refine ⟨(tokens.drop (first + 1)).take n, closing, (tokens.drop (first + 1)).drop (n + 1), ?_, isClosing,
      fun token member => ?_, ?_⟩
    · rw [← drop_of_getElem? atLast, List.take_append_drop]
    · obtain ⟨i, atToken⟩ := List.mem_iff_getElem?.mp member
      rw [List.getElem?_take] at atToken
      split at atToken
      · rw [next] at atToken
        exact Token.fitsGroup_iff.mpr (plain _ (by omega) (by omega) token atToken)
      · cases atToken
    · rw [span, List.take_add_one, atLast] at short
      simpa using short
  · rintro ⟨inner, closing, after, split, isClosing, inside, short⟩
    refine ⟨first + inner.length + 1, by omega, ⟨closing, ?_, isClosing⟩, fun i above below token member => ?_, ?_⟩
    · simp [← next, split]
    · obtain ⟨n, rfl⟩ := Nat.exists_eq_add_of_lt above
      rw [Option.mem_def, ← next, split, List.getElem?_append_left (by omega)] at member
      exact Token.fitsGroup_iff.mp (inside token (List.mem_of_getElem? member))
    · have whole : inner ++ closing :: after = (inner ++ [closing]) ++ after := by simp
      rw [span, split, whole, List.take_left' (by simp)]
      simpa using short

theorem staysInline_of_isInlineGroup {tokens : List Token} (fits : isInlineGroup limit tokens) (inline : Bool) :
    staysInline inline limit tokens = true := by
  simp [staysInline, fits]

theorem not_endsInGroup_nil : ¬EndsInGroup limit [] rest := by
  rintro ⟨outer, opening, inner, split, _⟩
  simp at split

/-- A group is begun by the last token, or goes on with it. -/
theorem endsInGroup_concat : EndsInGroup limit (before ++ [token]) rest ↔
    token.kind = .opening ∧ isInlineGroup limit (token :: rest) ∨
      token.kind ≠ .closing ∧ EndsInGroup limit before (token :: rest) := by
  constructor
  · rintro ⟨outer, opening, inner, split, kind, fits, unclosed⟩
    obtain rfl | ⟨inner, last, rfl⟩ := List.eq_nil_or_concat inner
    · obtain ⟨rfl, same⟩ := List.append_inj' split rfl
      obtain rfl : token = opening := by simpa using same
      exact Or.inl ⟨kind, fits⟩
    · rw [List.concat_eq_append, ← List.cons_append, ← List.append_assoc] at split
      obtain ⟨rfl, same⟩ := List.append_inj' split rfl
      obtain rfl : token = last := by simpa using same
      refine Or.inr ⟨unclosed token (by simp), outer, opening, inner, rfl, kind, ?_, fun other member =>
        unclosed other (by simp [member])⟩
      simpa using fits
  · rintro (⟨kind, fits⟩ | ⟨notClosing, outer, opening, inner, rfl, kind, fits, unclosed⟩)
    · exact ⟨before, token, [], rfl, kind, fits, by simp⟩
    · refine ⟨outer, opening, inner ++ [token], by simp, kind, by simpa using fits, fun other member => ?_⟩
      rcases List.mem_append.mp member with inside | last
      · exact unclosed other inside
      · exact List.mem_singleton.mp last ▸ notClosing

end Groups

/-- The look-ahead from an opening bracket finds a group on one line if and only if one of the tokens after it is
the end of such a group. -/
theorem isInlineGroup_iff (limit : Int) {tokens : List Token} {first : Nat} {opening : Token}
    (found : tokens[first]? = some opening) (isOpening : opening.kind = .opening) :
    isInlineGroup limit (tokens.drop first) ↔ ∃ last, GroupFits limit tokens first last := by
  rw [drop_of_getElem? found, isInlineGroup_cons_iff isOpening, groupCloses_iff, exists_groupFits_iff found,
    and_iff_right_iff_imp]
  rintro ⟨inner, closing, after, _, _, _, short⟩
  omega

/-- The blank counts, and the closing bracket must not go beyond the limit. -/
theorem isInlineGroup_iff_limit :
    let word : Token := ⟨.word, ['a', 'b'], ['a', 'b'], []⟩
    let opening : Token := ⟨.opening, ['('], ['('], []⟩
    let blank : Token := ⟨.blank, [' '], [' '], []⟩
    let closing : Token := ⟨.closing, [')'], [')'], []⟩
    let tokens := [word, opening, blank, word, closing, closing]
    tokens[1]? = some opening ∧ opening.kind = .opening ∧ (∃ last, GroupFits 5 tokens 1 last) ∧
      ¬∃ last, GroupFits 4 tokens 1 last := by
  intro word opening blank closing tokens
  have found : tokens[1]? = some opening := rfl
  exact ⟨found, rfl, (isInlineGroup_iff 5 found rfl).mp (by decide),
    mt (isInlineGroup_iff 4 found rfl).mpr (by decide)⟩

/-- A layout inside a group on one line that stands on the indentation `base`. -/
structure Layout.InGroup (base : Indent) (layout : Layout) : Prop where
  inline : layout.inline = true
  indent : layout.indent = base
  tight : layout.tightGap = []

section Steps

variable {style : Style} {layout : Layout} {token : Token} {rest : List Token} {base : Indent}

theorem Layout.tightGap_step (kind : token.kind ∉ [.blank, .lineComment]) :
    (layout.step style token rest).tightGap = [] := by
  simp only [List.mem_cons, List.not_mem_nil, or_false, not_or] at kind
  simp [Layout.tightGap, Layout.visible_step kind.1, kind.2]

theorem Layout.inGroup_opening (opening : token.kind = .opening)
    (fits : isInlineGroup style.inlineLimit (token :: rest)) :
    (layout.step style token rest).InGroup layout.indent := by
  have stays := staysInline_of_isInlineGroup fits layout.inline
  refine ⟨?_, ?_, Layout.tightGap_step (by simp [opening])⟩
  · rw [layout.inline_step, opening]
    exact stays
  · rw [layout.indent_step, opening]
    simp only [stays, if_true]

theorem Layout.InGroup.step (inGroup : layout.InGroup base) (fits : token.FitsGroup) :
    (layout.step style token rest).InGroup base := by
  have inline := layout.inline_step style token rest
  have indent := layout.indent_step style token rest
  obtain ⟨notOpening, notClosing, keeps, _⟩ := fits
  cases kind : token.kind with
  | opening => exact absurd kind notOpening
  | closing => exact absurd kind notClosing
  | clause | continuation | lineComment | blockComment => simp [kind, Kind.breaksGroup] at keeps
  | blank =>
    rw [Layout.step_of_blank kind]
    exact ⟨inGroup.inline, inGroup.indent, inGroup.tight⟩
  | _ =>
    rw [kind] at inline indent
    exact ⟨inline.trans inGroup.inline, indent.trans inGroup.indent, Layout.tightGap_step (by simp [kind])⟩

theorem Layout.InGroup.upTo {tokens more : List Token} (inGroup : layout.InGroup base)
    (fits : ∀ token ∈ tokens, token.FitsGroup) : (layout.upTo style more tokens).InGroup base :=
  Layout.upTo_keeps (fun layout => layout.InGroup base)
    (fun _ _ _ member inside => inside.step (fits _ member)) inGroup

theorem Layout.InGroup.indent_closing (inGroup : layout.InGroup base) (closing : token.kind = .closing) :
    (layout.step style token rest).indent = base := by
  rw [layout.indent_step, closing]
  simp only [inGroup.inline, if_true, inGroup.indent]

theorem Layout.text_step : (layout.step style token rest).text = (layout.place style token rest).text :=
  rfl

theorem Layout.addsInLine_opening (opening : token.kind = .opening)
    (fits : isInlineGroup style.inlineLimit (token :: rest)) :
    Layout.AddsInLine style layout token (layout.step style token rest) := by
  have stays := staysInline_of_isInlineGroup fits layout.inline
  refine ⟨layout.textBeforeOpening, [], ?_, Or.inl rfl, ?_⟩
  · unfold Layout.textBeforeOpening
    split
    · exact Or.inl rfl
    · exact Or.inr rfl
  · simp only [Layout.text_step, Layout.place, opening, layout.text_placeOpening, stays, if_true, Layout.inLine,
      List.append_nil]

/-- In a group on one line, a token without a rule of its own breaks no line unless it is a semicolon. -/
theorem Layout.InGroup.text_placePlain (inGroup : layout.InGroup base) (notSemicolon : token.value ≠ [';']) :
    ∃ kept trail, (kept = layout.text ∨ kept = trimEnd layout.text) ∧ (trail = [] ∨ trail = [' ']) ∧
      (layout.placePlain style token).text = kept ++ (token.value ++ trail) := by
  rw [layout.text_placePlain, layout.text_placeComma, inGroup.tight, inGroup.inline, Bool.true_or, if_pos rfl,
    if_neg notSemicolon, List.append_nil]
  repeat' split
  · exact ⟨_, [' '], Or.inr rfl, Or.inr rfl, List.append_assoc ..⟩
  · exact ⟨_, [' '], Or.inr rfl, Or.inr rfl, List.append_assoc ..⟩
  · exact ⟨_, [], Or.inr rfl, Or.inl rfl, by rw [List.append_nil]⟩
  · exact ⟨_, [' '], Or.inl rfl, Or.inr rfl, List.append_assoc ..⟩

theorem Layout.InGroup.addsInLine (inGroup : layout.InGroup base) (fits : token.FitsGroup ∨ token.kind = .closing) :
    Layout.AddsInLine style layout token (layout.step style token rest) := by
  unfold Layout.AddsInLine Layout.inLine
  rw [Layout.text_step, Layout.place]
  rcases fits with ⟨notOpening, notClosing, keeps, notSemicolon⟩ | closing
  · cases kind : token.kind with
    | opening => exact absurd kind notOpening
    | closing => exact absurd kind notClosing
    | clause | continuation | lineComment | blockComment => simp [kind, Kind.breaksGroup] at keeps
    | blank => exact ⟨_, [], Or.inl rfl, Or.inl rfl, by simp⟩
    | placeholder =>
      exact ⟨_, [' '], Or.inl rfl, Or.inr rfl, by rw [layout.text_placePlaceholder, List.append_assoc]⟩
    | word | literal | number | operator | reserved => exact inGroup.text_placePlain notSemicolon
  · refine ⟨_, [' '], Or.inr rfl, Or.inr rfl, ?_⟩
    simp only [closing, layout.text_placeClosing, inGroup.inline, inGroup.tight, if_true, List.append_nil,
      List.append_assoc]

end Steps

section Runs

variable (style : Style)

theorem Layout.reached_concat (before : List Token) (token : Token) (rest : List Token) :
    Layout.reached style (before ++ [token]) rest =
      (Layout.reached style before (token :: rest)).step style token rest :=
  Layout.reached_append before [] rest

/-- The layout is in a group on one line exactly behind an opening bracket whose group fits there. -/
theorem Layout.inline_reached (before rest : List Token) :
    (Layout.reached style before rest).inline = true ↔ EndsInGroup style.inlineLimit before rest := by
  induction before using List.reverseRecOn generalizing rest with
  | nil => simp [Layout.reached, Layout.upTo, not_endsInGroup_nil]
  | append_singleton before token ih =>
    have inline := (Layout.reached style before (token :: rest)).inline_step style token rest
    rw [Layout.reached_concat, endsInGroup_concat, ← ih, inline]
    cases kind : token.kind with
    | opening =>
      -- A group on one line holds no other bracket, so the flag is off and the look-ahead alone decides.
      have outside : (Layout.reached style before (token :: rest)).inline = false :=
        (Layout.closes_reached before _).inline_eq_false (Or.inl kind)
      simp [staysInline, outside]
    | _ => simp

variable {opening closing : Token} {inner after : List Token} (outer : List Token)
  (isOpening : opening.kind = .opening)
  (fits : isInlineGroup style.inlineLimit (opening :: (inner ++ closing :: after)))
  (inside : ∀ token ∈ inner, token.FitsGroup)

include isOpening fits inside

/-- Up to its closing bracket, a group on one line stands on the indentation it was opened on. -/
theorem Layout.inGroup_reached {front back : List Token} (split : inner ++ [closing] = front ++ back)
    (someBack : back ≠ []) :
    (Layout.reached style (outer ++ opening :: front) (back ++ after)).InGroup
      (Layout.reached style outer (opening :: (inner ++ closing :: after))).indent := by
  have rest : front ++ (back ++ after) = inner ++ closing :: after := by
    rw [← List.append_assoc, ← split, List.append_assoc, List.singleton_append]
  obtain ⟨others, _, rfl⟩ : ∃ others last, back = others ++ [last] :=
    ⟨_, _, (List.dropLast_concat_getLast someBack).symm⟩
  rw [← List.append_assoc] at split
  obtain ⟨rfl, _⟩ := List.append_inj' split rfl
  rw [Layout.reached_append, rest]
  exact (Layout.inGroup_opening isOpening fits).upTo fun token member =>
    inside token (List.mem_append_left _ member)

/-- Nothing that a group on one line writes breaks a line. -/
theorem Layout.addsInLine_group (isClosing : closing.kind = .closing) {front back : List Token} {token : Token}
    (split : opening :: (inner ++ [closing]) = front ++ token :: back) :
    Layout.AddsInLine style (Layout.reached style (outer ++ front) (token :: (back ++ after))) token
      (Layout.reached style (outer ++ front ++ [token]) (back ++ after)) := by
  rw [Layout.reached_concat]
  cases front with
  | nil =>
    obtain ⟨rfl, rfl⟩ := List.cons.inj split
    refine Layout.addsInLine_opening isOpening ?_
    rwa [List.append_assoc, List.singleton_append]
  | cons first front =>
    obtain ⟨rfl, later⟩ := List.cons.inj split
    have allowed : token.FitsGroup ∨ token.kind = .closing := by
      have member : token ∈ inner ++ [closing] := later ▸ by simp
      rcases List.mem_append.mp member with member | last
      · exact Or.inl (inside token member)
      · exact Or.inr (List.mem_singleton.mp last ▸ isClosing)
    exact (Layout.inGroup_reached style outer isOpening fits inside later (List.cons_ne_nil _ _)).addsInLine allowed

theorem Layout.indent_group (isClosing : closing.kind = .closing) :
    (Layout.reached style (outer ++ opening :: (inner ++ [closing])) after).indent =
      (Layout.reached style outer (opening :: (inner ++ closing :: after))).indent := by
  have last := Layout.inGroup_reached style outer isOpening fits inside rfl (List.cons_ne_nil closing [])
  rw [← List.cons_append, ← List.append_assoc, Layout.reached_concat]
  exact last.indent_closing isClosing

end Runs

/-- The layout is in a group on one line exactly behind an opening bracket whose group fits there, as long as
nothing is closed. Such a group holds no other bracket, leaves the indentation as it was, and none of its tokens
breaks a line. -/
theorem Layout.inline_groups (style : Style) :
    (∀ before rest, (Layout.reached style before rest).inline = true ↔ EndsInGroup style.inlineLimit before rest) ∧
    ∀ outer opening rest, opening.kind = .opening → isInlineGroup style.inlineLimit (opening :: rest) →
      ∃ inner closing after, rest = inner ++ closing :: after ∧ closing.kind = .closing ∧
        (∀ token ∈ inner, token.kind ≠ .opening ∧ token.kind ≠ .closing) ∧
        (Layout.reached style (outer ++ opening :: (inner ++ [closing])) after).indent =
          (Layout.reached style outer (opening :: rest)).indent ∧
        ∀ front token back, opening :: (inner ++ [closing]) = front ++ token :: back →
          Layout.AddsInLine style (Layout.reached style (outer ++ front) (token :: (back ++ after))) token
            (Layout.reached style (outer ++ front ++ [token]) (back ++ after)) := by
  refine ⟨Layout.inline_reached style, fun outer opening rest isOpening fits => ?_⟩
  obtain ⟨_, closes⟩ := groupCloses_of_isInlineGroup isOpening fits
  obtain ⟨inner, closing, after, rfl, isClosing, inside⟩ := groupCloses_split closes
  refine ⟨inner, closing, after, rfl, isClosing, fun token member => ?_, ?_, fun front token back split => ?_⟩
  · exact ⟨(inside token member).notOpening, (inside token member).notClosing⟩
  · exact Layout.indent_group style outer isOpening fits inside isClosing
  · exact Layout.addsInLine_group style outer isOpening fits inside isClosing split

/-- A group of a number and a name, with an open bracket before it and another one behind it. -/
theorem Layout.inline_groups_pair :
    let opening : Token := ⟨.opening, ['('], ['('], []⟩
    let number : Token := ⟨.number, ['1'], ['1'], []⟩
    let comma : Token := ⟨.operator, [','], [','], []⟩
    let word : Token := ⟨.word, ['a'], ['a'], []⟩
    let closing : Token := ⟨.closing, [')'], [')'], []⟩
    let style : Style := { inlineLimit := 5 }
    isInlineGroup 5 (opening :: [number, comma, word, closing, opening]) ∧
      (Layout.reached style [opening, opening, number] [comma, word, closing, opening]).inline = true ∧
      (Layout.reached style [opening, opening, number, comma, word, closing] [opening]).inline = false ∧
      ∃ inner last after, [number, comma, word, closing, opening] = inner ++ last :: after ∧ last.kind = .closing ∧
        (Layout.reached style (opening :: opening :: (inner ++ [last])) after).indent =
          (Layout.reached style [opening] [opening, number, comma, word, closing, opening]).indent := by
  intro opening number comma word closing style
  have fits : isInlineGroup 5 (opening :: [number, comma, word, closing, opening]) := by decide
  obtain ⟨flag, group⟩ := Layout.inline_groups style
  obtain ⟨inner, last, after, split, isClosing, _, indent, _⟩ :=
    group [opening] opening [number, comma, word, closing, opening] rfl fits
  refine ⟨fits, (flag _ _).mpr ⟨[opening], opening, [number], rfl, rfl, fits, by decide⟩, ?_,
    inner, last, after, split, isClosing, indent⟩
  decide

end QueryLayout
