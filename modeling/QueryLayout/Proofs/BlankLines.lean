import QueryLayout.Proofs.Agreement
import QueryLayout.Proofs.LineStarts
import QueryLayout.Proofs.Terminators

namespace QueryLayout

/-- Whether a token that keeps its line breaks goes over several lines. -/
def Token.spansLines (token : Token) : Bool :=
  [Kind.literal, .number, .reserved, .placeholder, .blockComment, .opening, .closing].contains token.kind &&
    token.value.contains '\n'

/-- Between two pieces there is at most one line break, except that a semicolon breaks the line once more behind a
line comment. -/
def Piece.Breaks (first second : Piece) : Prop :=
  '\n' ∈ second.gap →
    (∃ margin, second.gap = '\n' :: margin ∧ '\n' ∉ margin) ∨
      second.gap = ['\n', '\n'] ∧ first.token.kind = .lineComment ∧ second.token.isSemicolon

section Lines

variable {c : Char} {text line first second : List Char} {lines above below : List (List Char)}

theorem not_mem_of_mem_splitOn (member : line ∈ text.splitOn c) : c ∉ line := by
  induction text generalizing line with
  | nil =>
    rw [List.splitOn_nil, List.mem_singleton] at member
    simp [member]
  | cons d text ih =>
    rw [List.splitOn_cons_eq_if_modifyHead] at member
    obtain ⟨head, later, split⟩ := List.exists_cons_of_ne_nil (List.splitOn_ne_nil c text)
    rw [split] at ih member
    split at member <;> rename_i feed
    · rcases List.mem_cons.mp member with rfl | member
      · simp
      · exact ih member
    · rw [List.modifyHead_cons] at member
      rcases List.mem_cons.mp member with rfl | member
      · have other : c ≠ d := fun same => feed (by simp [same])
        simp [other, ih List.mem_cons_self]
      · exact ih (List.mem_cons_of_mem _ member)

theorem intercalate_append (someAbove : above ≠ []) (someBelow : below ≠ []) :
    [c].intercalate (above ++ below) = [c].intercalate above ++ c :: [c].intercalate below := by
  induction above with
  | nil => exact absurd rfl someAbove
  | cons line above ih =>
    rw [List.cons_append, List.intercalate_cons_of_ne_nil (by simp [someBelow])]
    by_cases last : above = []
    · simp [last]
    · rw [ih last, List.intercalate_cons_of_ne_nil last]
      simp

/-- A line goes to the end of the text or to a line break. -/
theorem line_ends (split : text.splitOn c = above ++ line :: below) :
    ∃ front, text = front ++ line ∨ ∃ later, text = front ++ line ++ c :: later := by
  have whole : [c].intercalate (text.splitOn c) = text := List.intercalate_splitOn c
  have start : ∃ front, [c].intercalate (above ++ [line]) = front ++ line := by
    by_cases first : above = []
    · exact ⟨[], by simp [first]⟩
    · exact ⟨[c].intercalate above ++ [c], by rw [intercalate_append first (by simp)]; simp⟩
  obtain ⟨front, start⟩ := start
  refine ⟨front, ?_⟩
  rw [split] at whole
  by_cases last : below = []
  · rw [last] at whole
    exact Or.inl (whole.symm.trans start)
  · rw [List.append_cons, intercalate_append (by simp) last, start] at whole
    exact Or.inr ⟨_, whole.symm⟩

theorem cut_append (split : first ++ second = line ++ c :: text) :
    (∃ later, first = line ++ c :: later ∧ text = later ++ second) ∨
      ∃ between, line = first ++ between ∧ second = between ++ c :: text := by
  rcases List.append_eq_append_iff.mp split with ⟨between, rfl, same⟩ | ⟨later, rfl, same⟩
  · exact Or.inr ⟨between, rfl, same⟩
  · cases later with
    | nil => exact Or.inr ⟨[], by simp, by simpa using same.symm⟩
    | cons d later =>
      obtain ⟨rfl, rfl⟩ := List.cons.inj same
      exact Or.inl ⟨later, rfl, rfl⟩

end Lines

section Pieces

variable {pieces : List Piece} {first second : List Char}

/-- Where no piece spans lines, every line break stands in a gap. -/
theorem Piece.join_break (single : ∀ piece ∈ pieces, '\n' ∉ piece.text)
    (split : Piece.join pieces = first ++ '\n' :: second) :
    ∃ front piece later lead margin, pieces = front ++ piece :: later ∧ piece.gap = lead ++ '\n' :: margin ∧
      first = Piece.join front ++ lead ∧ second = margin ++ (piece.text ++ Piece.join later) := by
  induction pieces generalizing first with
  | nil => simp [Piece.join] at split
  | cons piece later ih =>
    rw [Piece.join_cons, List.append_assoc] at split
    rcases cut_append split with ⟨margin, gap, rfl⟩ | ⟨between, rfl, inText⟩
    · exact ⟨[], piece, later, first, margin, rfl, gap, rfl, rfl⟩
    rcases cut_append inText with ⟨_, text, _⟩ | ⟨between, rfl, inLater⟩
    · exact absurd (text ▸ by simp) (single piece List.mem_cons_self)
    obtain ⟨front, next, more, lead, margin, rfl, gap, rfl, rfl⟩ :=
      ih (fun other member => single other (List.mem_cons_of_mem _ member)) inLater
    refine ⟨piece :: front, next, more, lead, margin, rfl, gap, ?_, rfl⟩
    simp only [Piece.join_cons, List.append_assoc]

theorem Piece.output_break (single : ∀ piece ∈ pieces, '\n' ∉ piece.text)
    (split : Piece.output pieces = first ++ '\n' :: second) :
    ∃ front last piece later lead margin, pieces = front ++ last :: piece :: later ∧
      piece.gap = lead ++ '\n' :: margin ∧ first = Piece.output (front ++ [last]) ++ lead ∧
      second = margin ++ (piece.text ++ Piece.join later) := by
  cases pieces with
  | nil => simp [Piece.output] at split
  | cons start others =>
    rw [Piece.output] at split
    rcases cut_append split with ⟨_, text, _⟩ | ⟨between, rfl, inJoin⟩
    · exact absurd (text ▸ by simp) (single start List.mem_cons_self)
    obtain ⟨front, piece, later, lead, margin, rfl, gap, rfl, rfl⟩ :=
      Piece.join_break (fun other member => single other (List.mem_cons_of_mem _ member)) inJoin
    obtain ⟨before, last, whole⟩ := (List.eq_nil_or_concat' (start :: front)).resolve_left (by simp)
    refine ⟨before, last, piece, later, lead, margin, ?_, gap, ?_, rfl⟩
    · rw [← List.cons_append, whole, List.append_assoc, List.singleton_append]
    · rw [← whole, Piece.output, List.append_assoc]

/-- A text of pieces ends as the last of them does. -/
theorem Piece.output_concat (front : List Piece) (last : Piece) :
    ∃ before, Piece.output (front ++ [last]) = before ++ last.text := by
  cases front with
  | nil => exact ⟨[], by simp [Piece.output, Piece.join]⟩
  | cons start front =>
    refine ⟨start.text ++ (Piece.join front ++ last.gap), ?_⟩
    simp [Piece.output, Piece.join]

end Pieces

/-- Pieces that show without blanks at their ends, each of them in one line, and break the lines between them as
often as they should. -/
structure Piece.Clean (pieces : List Piece) : Prop where
  distinct : ∀ piece ∈ pieces, piece.Distinct
  trimmed : ∀ piece ∈ pieces, trimEnd piece.text = piece.text
  single : ∀ piece ∈ pieces, '\n' ∉ piece.text
  breaks : pieces.IsChain Piece.Breaks

section Clean

variable {pieces front later : List Piece} {last piece : Piece} {line lead margin first second : List Char}
  {above below : List (List Char)}

theorem isBlank_of_getLast? {text : List Char} (trimmed : trimEnd text = text) {c : Char}
    (last : c ∈ text.getLast?) : isBlank c = false := by
  obtain ⟨front, rfl⟩ := List.getLast?_eq_some_iff.mp last
  have visible := List.rdropWhile_eq_self_iff.mp trimmed (by simp)
  simpa using visible

/-- Where a gap may be cut at a line break. -/
theorem Piece.Breaks.cut (breaks : Piece.Breaks last piece) (gap : piece.gap = lead ++ '\n' :: margin) :
    lead = [] ∧ '\n' ∉ margin ∨ last.token.kind = .lineComment ∧ piece.token.isSemicolon ∧
      (lead = [] ∧ margin = ['\n'] ∨ lead = ['\n'] ∧ margin = []) := by
  rcases breaks (by simp [gap]) with ⟨whole, same, single⟩ | ⟨same, comment, semicolon⟩
  · refine Or.inl ?_
    rw [gap] at same
    cases lead with
    | nil =>
      obtain ⟨_, rfl⟩ := List.cons.inj same
      exact ⟨rfl, single⟩
    | cons c lead =>
      obtain ⟨_, rfl⟩ := List.cons.inj same
      exact absurd (by simp) single
  · refine Or.inr ⟨comment, semicolon, ?_⟩
    rw [gap] at same
    cases lead with
    | nil => exact Or.inl ⟨rfl, (List.cons.inj same).2⟩
    | cons c lead =>
      obtain ⟨rfl, rest⟩ := List.cons.inj same
      cases lead with
      | nil => exact Or.inr ⟨rfl, (List.cons.inj rest).2⟩
      | cons d lead => simp at rest

theorem Piece.Clean.breaks_at (clean : Piece.Clean (front ++ last :: piece :: later)) : Piece.Breaks last piece :=
  (List.isChain_cons_cons.mp (List.isChain_append.mp clean.breaks).2.1).1

theorem Piece.Clean.output_trimmed (clean : Piece.Clean pieces) (split : pieces = front ++ last :: later) :
    trimEnd (Piece.output (front ++ [last])) = Piece.output (front ++ [last]) := by
  have member : last ∈ pieces := by simp [split]
  obtain ⟨before, text⟩ := Piece.output_concat front last
  rw [text]
  exact trimEnd_append_of_visible _ (clean.trimmed last member) (clean.distinct last member).2.1

theorem Piece.Clean.output_visible (clean : Piece.Clean pieces) : begins isBlank (Piece.output pieces) = false := by
  cases pieces with
  | nil => rfl
  | cons piece later =>
    obtain ⟨_, someText, visible⟩ := clean.distinct piece List.mem_cons_self
    rw [Piece.output, begins_append someText]
    exact visible

theorem Piece.Clean.trimEnd_output (clean : Piece.Clean pieces) :
    trimEnd (Piece.output pieces) = Piece.output pieces := by
  rcases List.eq_nil_or_concat' pieces with rfl | ⟨front, last, rfl⟩
  · rfl
  · exact clean.output_trimmed rfl

/-- No line ends in blanks. -/
theorem Piece.Clean.line_visible (clean : Piece.Clean pieces) (member : line ∈ (Piece.output pieces).splitOn '\n')
    {c : Char} (final : c ∈ line.getLast?) : isBlank c = false := by
  obtain ⟨above, below, split⟩ := List.append_of_mem member
  obtain ⟨before, whole | ⟨rest, whole⟩⟩ := line_ends split
  · refine isBlank_of_getLast? clean.trimEnd_output ?_
    rw [whole, List.getLast?_append, Option.mem_def.mp final]
    rfl
  obtain ⟨front, last, piece, later, lead, margin, rfl, gap, start, _⟩ := Piece.output_break clean.single whole
  have ends : c ∈ (Piece.output (front ++ [last]) ++ lead).getLast? := by
    rw [← start, List.getLast?_append, Option.mem_def.mp final]
    rfl
  have within : c ≠ '\n' := by
    rintro rfl
    exact not_mem_of_mem_splitOn member (List.mem_of_getLast? final)
  rcases clean.breaks_at.cut gap with ⟨rfl, _⟩ | ⟨_, _, ⟨rfl, _⟩ | ⟨rfl, _⟩⟩
  · rw [List.append_nil] at ends
    exact isBlank_of_getLast? (clean.output_trimmed rfl) ends
  · rw [List.append_nil] at ends
    exact isBlank_of_getLast? (clean.output_trimmed rfl) ends
  · rw [List.getLast?_concat] at ends
    exact absurd (Option.some.inj ends).symm within

/-- Two line breaks in a row stand between a line comment and a semicolon. -/
theorem Piece.Clean.double_break (clean : Piece.Clean pieces)
    (split : Piece.output pieces = first ++ '\n' :: '\n' :: second) :
    ∃ front comment semicolon later, pieces = front ++ comment :: semicolon :: later ∧
      comment.token.kind = .lineComment ∧ semicolon.token.isSemicolon ∧
      first = Piece.output (front ++ [comment]) ∧ second = Piece.output (semicolon :: later) := by
  obtain ⟨front, last, piece, later, lead, margin, rfl, gap, start, rest⟩ := Piece.output_break clean.single split
  have notFeed : ∀ text, piece.text ++ Piece.join later ≠ '\n' :: text := by
    intro text same
    obtain ⟨_, someText, visible⟩ := clean.distinct piece (by simp)
    rw [← begins_append someText (Piece.join later), same, begins_cons] at visible
    revert visible
    decide
  have feed : ∀ c rest, '\n' :: second = c :: rest → c = '\n' := fun c rest same => (List.cons.inj same).1.symm
  rcases clean.breaks_at.cut gap with ⟨rfl, single⟩ | ⟨comment, semicolon, ⟨rfl, rfl⟩ | ⟨rfl, rfl⟩⟩
  · cases margin with
    | nil => exact absurd rest.symm (notFeed second)
    | cons c margin =>
      obtain rfl := feed c _ rest
      exact absurd List.mem_cons_self single
  · refine ⟨front, last, piece, later, rfl, comment, semicolon, by simpa using start, ?_⟩
    exact (List.cons.inj rest).2
  · exact absurd rest.symm (notFeed second)

/-- An empty line stands between a line comment and a semicolon. -/
theorem Piece.Clean.blankLine (clean : Piece.Clean pieces) (someText : Piece.output pieces ≠ [])
    (split : (Piece.output pieces).splitOn '\n' = above ++ [] :: below) :
    above ≠ [] ∧ below ≠ [] ∧ ∃ front comment semicolon later, pieces = front ++ comment :: semicolon :: later ∧
      comment.token.kind = .lineComment ∧ semicolon.token.isSemicolon ∧
      ['\n'].intercalate above = Piece.output (front ++ [comment]) ∧
      ['\n'].intercalate below = Piece.output (semicolon :: later) := by
  have whole : ['\n'].intercalate (above ++ [] :: below) = Piece.output pieces :=
    split ▸ List.intercalate_splitOn '\n'
  have feed : isBlank '\n' = true := by decide
  have someAbove : above ≠ [] := by
    rintro rfl
    rw [List.nil_append] at whole
    by_cases last : below = []
    · rw [last] at whole
      exact someText whole.symm
    · have visible := clean.output_visible
      rw [← whole, List.intercalate_cons_of_ne_nil last, List.nil_append, List.singleton_append, begins_cons, feed]
        at visible
      cases visible
  have someBelow : below ≠ [] := by
    rintro rfl
    rw [intercalate_append someAbove (by simp)] at whole
    have visible : isBlank '\n' = false :=
      isBlank_of_getLast? clean.trimEnd_output (by simp [← whole])
    rw [feed] at visible
    cases visible
  rw [intercalate_append someAbove (by simp), List.intercalate_cons_of_ne_nil someBelow] at whole
  exact ⟨someAbove, someBelow, clean.double_break whole.symm⟩

end Clean

section Gaps

variable {style : Style} {layout : Layout} {token : Token}

/-- The gap before a token is a new line, what stands at the end of the text, or what a mark leaves of it. -/
theorem Layout.gapBefore_cases (layout : Layout) (style : Style) (token : Token) :
    (∃ indent : Indent, layout.gapBefore style token = indent.newLine style.indentUnit) ∨
      layout.gapBefore style token = layout.tail ∨ layout.gapBefore style token = [] ∨
      layout.gapBefore style token = layout.tightGap ∨
      token.isSemicolon ∧ layout.gapBefore style token = layout.tightGap ++ ['\n'] := by
  cases kind : token.kind with
  | blockComment | continuation | clause =>
    simp only [Layout.gapBefore, kind]
    exact Or.inl ⟨_, rfl⟩
  | blank | lineComment | placeholder => simp [Layout.gapBefore, kind]
  | opening =>
    simp only [Layout.gapBefore, kind]
    split <;> simp
  | closing =>
    simp only [Layout.gapBefore, kind]
    split
    · simp
    · exact Or.inl ⟨_, rfl⟩
  | word | literal | number | operator | reserved =>
    have plain : token.kind.isPlain := by rw [kind]; rfl
    rw [layout.gapBefore_plain plain, Token.isSemicolon, plain]
    repeat' split
    all_goals simp_all

/-- A settled layout breaks the line before a token as often as it should. -/
theorem Layout.Settled.breaks (settled : layout.Settled style) (single : '\n' ∉ style.indentUnit) {piece : Piece}
    (last : layout.visible = some piece.token) : Piece.Breaks piece (layout.piece style token) := by
  intro broken
  change '\n' ∈ layout.gapBefore style token at broken
  change (∃ margin, layout.gapBefore style token = _ ∧ _) ∨ layout.gapBefore style token = _ ∧ _
  have once : ∀ indent : Indent, layout.gapBefore style token = indent.newLine style.indentUnit →
      ∃ margin, layout.gapBefore style token = '\n' :: margin ∧ '\n' ∉ margin :=
    fun indent gap => ⟨_, gap, indent.not_mem_text single⟩
  have tight : layout.tightGap = if piece.token.kind = .lineComment then ['\n'] else [] := by
    simp [Layout.tightGap, last]
  rcases layout.gapBefore_cases style token with ⟨indent, gap⟩ | gap | gap | gap | ⟨semicolon, gap⟩
  · exact Or.inl (once indent gap)
  · have tail := settled.tail (gap ▸ broken)
    split at tail
    · exact Or.inl ⟨[], gap.trans tail, by simp⟩
    · exact Or.inl (once _ (gap.trans tail))
  · rw [gap] at broken
    cases broken
  · rw [gap, tight] at broken ⊢
    split at broken
    · exact Or.inl ⟨[], by simp [*], by simp⟩
    · cases broken
  · rw [gap, tight]
    by_cases comment : piece.token.kind = .lineComment
    · exact Or.inr ⟨by simp [comment], comment, semicolon⟩
    · exact Or.inl ⟨[], by simp [comment], by simp⟩

/-- All pieces of a run break the line as often as they should. -/
theorem Layout.Settled.isChain_breaks (absent : style.params = .absent) (blankUnit : IsGap style.indentUnit)
    (single : '\n' ∉ style.indentUnit) {tokens : List Token} (firm : ∀ token ∈ tokens.dropLast, token.Firm style)
    (settled : layout.Settled style) (closes : layout.Closes style tokens) {last : Option Piece}
    (visible : layout.visible = last.map Piece.token) :
    (last.toList ++ Layout.pieces style layout tokens).IsChain Piece.Breaks := by
  induction tokens generalizing layout last with
  | nil => cases last <;> simp [Layout.pieces]
  | cons token rest ih =>
    have later : ∀ last : Option Piece, (layout.step style token rest).visible = last.map Piece.token →
        (last.toList ++ Layout.pieces style (layout.step style token rest) rest).IsChain Piece.Breaks := by
      intro last visible
      by_cases atEnd : rest = []
      · rw [atEnd]
        cases last <;> simp [Layout.pieces]
      · rw [List.dropLast_cons_of_ne_nil atEnd] at firm
        exact ih (fun other member => firm other (List.mem_cons_of_mem _ member))
          (settled.step closes (firm token List.mem_cons_self) absent blankUnit) closes.step visible
    by_cases blank : token.kind = .blank
    · rw [layout.pieces_cons_blank blank]
      exact later last (by rw [Layout.step_of_blank blank, visible])
    · rw [layout.pieces_cons_visible blank]
      have placed := later (some (layout.piece style token)) (Layout.visible_step blank)
      cases last with
      | none => exact placed
      | some piece => exact .cons_cons (settled.breaks single visible) placed

end Gaps

section Texts

theorem not_mem_squeezeAfter (afterBlank : Bool) (text : List Char) : '\n' ∉ squeezeAfter afterBlank text := by
  have feed : isBlank '\n' = true := by decide
  induction text generalizing afterBlank with
  | nil => simp [squeezeAfter]
  | cons c text ih =>
    rw [squeezeAfter]
    repeat' split
    · exact ih true
    · simp [ih true]
    · rename_i visible
      have other : '\n' ≠ c := by
        rintro rfl
        exact visible feed
      simp [other, ih false]

variable {dialect : Dialect} {before : Option Token} {token : Token} {rest : List Char} {rule : Rule}
  (someRaw : token.raw ≠ []) (reads : ReadBy dialect before (token.raw ++ rest) token rule)

include someRaw reads

/-- Names, operators and line comments never span lines. -/
theorem ReadBy.value_single (kind : token.kind ∈ [.word, .operator, .lineComment]) :
    '\n' ∉ trimEnd token.value := by
  have feed : isBlank '\n' = true := by decide
  cases sort : token.kind with
  | word =>
    rw [reads.value_raw (sort ▸ rfl)]
    cases reads.ofKind sort
    intro member
    have visible := dialect.isBlank_of_isNameChar ((reads.word someRaw).1 _ (mem_of_mem_trimEnd member))
    rw [feed] at visible
    cases visible
  | operator =>
    rw [reads.value_raw (sort ▸ rfl)]
    cases reads.ofKind sort
    intro member
    have visible := (reads.operator_chars someRaw _ (mem_of_mem_trimEnd member)).1
    rw [feed] at visible
    cases visible
  | lineComment =>
    rw [reads.value_raw (sort ▸ rfl)]
    cases reads.ofKind sort
    obtain ⟨line, ending, raw, inner, ends⟩ := reads.wholeLine someRaw
    have blank : IsGap ending := by
      cases ends <;> simp [IsGap] <;> decide
    rw [raw, blank.trimEnd_append]
    intro member
    have inside := inner _ (mem_of_mem_trimEnd member)
    cases inside
  | _ => simp [sort] at kind

theorem ReadBy.written_single {style : Style} (absent : style.params = .absent) (notBlank : token.kind ≠ .blank)
    (single : token.spansLines = false) (layout : Layout) : '\n' ∉ trimEnd (layout.written style token) := by
  have kept : token.kind ∈ [.literal, .number, .reserved, .placeholder, .blockComment, .opening, .closing] →
      '\n' ∉ token.value := by
    intro kind
    rw [Token.spansLines, List.contains_iff_mem.mpr kind, Bool.true_and] at single
    simpa using single
  unfold Layout.written
  cases kind : token.kind with
  | blank => exact absurd kind notBlank
  | word | operator | lineComment => exact reads.value_single someRaw (by simp [kind])
  | clause | continuation => exact fun member => not_mem_squeezeAfter false _ (mem_of_mem_trimEnd member)
  | blockComment =>
    rw [reindent_eq_self (kept (by simp [kind]))]
    exact fun member => kept (by simp [kind]) (mem_of_mem_trimEnd member)
  | placeholder =>
    rw [absent]
    exact fun member => kept (by simp [kind]) (mem_of_mem_trimEnd member)
  | literal | number | reserved | opening | closing =>
    exact fun member => kept (by simp [kind]) (mem_of_mem_trimEnd member)

end Texts

section Query

variable {dialect : Dialect} {unit query : List Char}

theorem Dialect.single_pieces (single : ∀ token ∈ tokenize dialect.rules query, token.spansLines = false) :
    ∀ piece ∈ dialect.pieces unit query, '\n' ∉ piece.text := by
  refine Layout.forall_pieces {} _ fun layout token member notBlank => ?_
  obtain ⟨someRaw, _, _, _, reads⟩ := Dialect.reads_of_mem member
  exact reads.written_single someRaw rfl notBlank (single token member) layout

theorem Dialect.trimmed_pieces : ∀ piece ∈ dialect.pieces unit query, trimEnd piece.text = piece.text :=
  Layout.forall_pieces {} _ fun _ _ _ _ => trimEnd_trimEnd _

theorem Dialect.breaks_pieces (isUnit : ∀ c ∈ unit, c = ' ' ∨ c = '\t') :
    (dialect.pieces unit query).IsChain Piece.Breaks := by
  have firm : ∀ token ∈ (tokenize dialect.rules query).dropLast, token.Firm (dialect.style unit .absent) := by
    by_cases none : tokenize dialect.rules query = []
    · simp [none]
    · exact Dialect.firm_of_split unit (List.dropLast_concat_getLast none).symm (by simp)
  have start : (Layout.reached (dialect.style unit .absent) [] []).Settled (dialect.style unit .absent) :=
    Layout.settled_reached rfl (isGap_of_isUnit isUnit) (by simp) []
  have visible : ({} : Layout).visible = (none : Option Piece).map Piece.token := rfl
  exact start.isChain_breaks rfl (isGap_of_isUnit isUnit) (not_mem_of_isUnit isUnit) firm
    (fun inline => by cases inline) visible

theorem Dialect.clean_pieces (isUnit : ∀ c ∈ unit, c = ' ' ∨ c = '\t')
    (single : ∀ token ∈ tokenize dialect.rules query, token.spansLines = false) :
    Piece.Clean (dialect.pieces unit query) where
  distinct := dialect.distinct_pieces (isGap_of_isUnit isUnit) query
  trimmed := Dialect.trimmed_pieces
  single := Dialect.single_pieces single
  breaks := Dialect.breaks_pieces isUnit

/-- A semicolon is written as it is, and a line comment without its line end. -/
theorem Dialect.pieces_text : ∀ piece ∈ dialect.pieces unit query,
    (piece.token.kind = .lineComment → piece.text = trimEnd piece.token.value) ∧
      (piece.token.isSemicolon → piece.text = [';']) := by
  refine Layout.forall_pieces {} _ fun layout token _ _ => ⟨fun comment => ?_, fun semicolon => ?_⟩
  · change token.kind = .lineComment at comment
    simp only [Layout.piece, Layout.written, comment]
  · obtain ⟨plain, value⟩ := Bool.and_eq_true_iff.mp semicolon
    change token.kind.isPlain at plain
    change token.value == [';'] at value
    rw [Layout.piece, layout.written_plain plain, eq_of_beq value]
    rfl

end Query

section Ends

variable {above below : List (List Char)}

/-- The last of some lines is what their text ends in. -/
theorem getLast?_lines (someAbove : above ≠ []) (single : ∀ line ∈ above, '\n' ∉ line) {before final : List Char}
    (inFinal : '\n' ∉ final) (text : ['\n'].intercalate above = before ++ final) :
    above.getLast? = some (lastLine before ++ final) := by
  obtain ⟨init, line, rfl⟩ := (List.eq_nil_or_concat' above).resolve_left someAbove
  have inLine : '\n' ∉ line := single line (by simp)
  have last : lastLine (['\n'].intercalate (init ++ [line])) = line := by
    by_cases first : init = []
    · rw [first, List.nil_append, List.intercalate_singleton]
      exact lastLine_append inLine []
    · rw [intercalate_append first (by simp), List.intercalate_singleton, List.append_cons, lastLine_append inLine,
        lastLine_break, List.nil_append]
  rw [List.getLast?_concat, ← last, text, lastLine_append inFinal]

/-- The first of some lines begins as their text does. -/
theorem head?_lines (someBelow : below ≠ []) {c : Char} (other : c ≠ '\n') {rest : List Char}
    (text : ['\n'].intercalate below = c :: rest) : ∃ later, below.head? = some (c :: later) := by
  obtain ⟨line, more, rfl⟩ := List.exists_cons_of_ne_nil someBelow
  cases line with
  | nil =>
    cases more with
    | nil => cases text
    | cons next more =>
      rw [List.intercalate_cons_cons] at text
      exact absurd (List.cons.inj text).1.symm other
  | cons d line =>
    have first : (['\n'].intercalate ((d :: line) :: more)).head? = some d := by
      cases more with
      | nil => rfl
      | cons next more => rfl
    rw [text] at first
    cases first
    exact ⟨line, rfl⟩

end Ends

/-- Where no token keeps line breaks of its own, no line of a laid out query ends in blanks. Unless nothing is left
of the query, a line is empty only between a line comment and a line that begins with the semicolon after it. -/
theorem Dialect.lines_clean (dialect : Dialect) {unit query : List Char} (isUnit : ∀ c ∈ unit, c = ' ' ∨ c = '\t')
    (single : ∀ token ∈ tokenize dialect.rules query, token.spansLines = false) :
    (∀ line ∈ (dialect.format unit .absent query).splitOn '\n', ∀ c ∈ line.getLast?, isBlank c = false) ∧
    (dialect.format unit .absent query = [] ∨
      ∀ above below, (dialect.format unit .absent query).splitOn '\n' = above ++ [] :: below →
        ∃ front comment semicolon later, dialect.pieces unit query = front ++ comment :: semicolon :: later ∧
          comment.token.kind = .lineComment ∧ semicolon.token.isSemicolon ∧
          ['\n'].intercalate above = Piece.output (front ++ [comment]) ∧
          ['\n'].intercalate below = Piece.output (semicolon :: later) ∧
          (∃ start, above.getLast? = some (start ++ trimEnd comment.token.value)) ∧
          ∃ rest, below.head? = some (';' :: rest)) := by
  have clean : Piece.Clean (dialect.pieces unit query) := Dialect.clean_pieces isUnit single
  rw [dialect.format_eq_output (isGap_of_isUnit isUnit) query]
  refine ⟨fun line member c final => clean.line_visible member final, or_iff_not_imp_left.mpr fun someText => ?_⟩
  intro above below split
  obtain ⟨someAbove, someBelow, front, comment, semicolon, later, pieces, isComment, isSemicolon, upper, lower⟩ :=
    clean.blankLine someText split
  have single : ∀ line ∈ above, '\n' ∉ line := fun line member =>
    not_mem_of_mem_splitOn (split ▸ List.mem_append_left _ member)
  have inComment : comment ∈ dialect.pieces unit query := by simp [pieces]
  have inSemicolon : semicolon ∈ dialect.pieces unit query := by simp [pieces]
  have commentText := (Dialect.pieces_text comment inComment).1 isComment
  have semicolonText := (Dialect.pieces_text semicolon inSemicolon).2 isSemicolon
  obtain ⟨before, ends⟩ := Piece.output_concat front comment
  refine ⟨front, comment, semicolon, later, pieces, isComment, isSemicolon, upper, lower, ⟨lastLine before, ?_⟩, ?_⟩
  · rw [← commentText]
    exact getLast?_lines someAbove single (clean.single comment inComment) (upper.trans ends)
  · have starts : ['\n'].intercalate below = ';' :: Piece.join later := by
      rw [lower, Piece.output, semicolonText]
      rfl
    exact head?_lines someBelow (by decide) starts

/-- A semicolon behind a line comment, with an empty line between them. -/
theorem Dialect.lines_clean_semicolon :
    let query := "--a\n;b".toList
    let lines := (Dialect.n1ql.format ['\t'] .absent query).splitOn '\n'
    (∀ token ∈ tokenize Dialect.n1ql.rules query, token.spansLines = false) ∧
      lines = [['-', '-', 'a']] ++ [] :: [[';'], ['b']] ∧
      (∀ line ∈ lines, ∀ c ∈ line.getLast?, isBlank c = false) ∧
      ∃ front comment semicolon later, Dialect.n1ql.pieces ['\t'] query = front ++ comment :: semicolon :: later ∧
        comment.token.kind = .lineComment ∧ semicolon.token.isSemicolon := by
  intro query lines
  have tokens : tokenize Dialect.n1ql.rules query =
      [⟨.lineComment, "--a\n".toList, "--a\n".toList, []⟩, ⟨.operator, [';'], [';'], []⟩,
        ⟨.word, ['b'], ['b'], []⟩] := by
    rw [← Dialect.byteRules_eq]
    decide +kernel
  have single : ∀ token ∈ tokenize Dialect.n1ql.rules query, token.spansLines = false := by
    rw [tokens]
    decide
  have text : Dialect.n1ql.format ['\t'] .absent query = "--a\n\n;\nb".toList := by
    rw [Dialect.format, layoutQuery, tokens]
    decide +kernel
  have split : lines = [['-', '-', 'a']] ++ [] :: [[';'], ['b']] := by
    simp only [lines, text]
    decide +kernel
  have isUnit : ∀ c ∈ ['\t'], c = ' ' ∨ c = '\t' := by simp
  obtain ⟨visible, blank⟩ := Dialect.lines_clean .n1ql isUnit single
  rcases blank with empty | blank
  · have some : "--a\n\n;\nb".toList ≠ [] := by decide
    exact absurd (text.symm.trans empty) some
  · obtain ⟨front, comment, semicolon, later, pieces, isComment, isSemicolon, _⟩ := blank _ _ split
    exact ⟨single, split, visible, front, comment, semicolon, later, pieces, isComment, isSemicolon⟩

end QueryLayout
