import QueryLayout.Proofs.Numeral
import QueryLayout.Proofs.Opening
import QueryLayout.Proofs.Quoting

namespace QueryLayout

/-- A text begins with the opening quote of one style at most. -/
theorem QuoteStyle.eq_of_prefix {style other : QuoteStyle} {text : List Char} (opens : style.opening <+: text)
    (alsoOpens : other.opening <+: text) : style = other := by
  obtain ⟨rest, rfl⟩ := opens
  cases style <;> cases other <;> first | rfl | simp [QuoteStyle.opening] at alsoOpens

theorem literalExtent?_opening {styles : List QuoteStyle} {style : QuoteStyle} (member : style ∈ styles)
    (body : List Char) :
    literalExtent? styles (style.opening ++ body) =
      some (style.opening.length + literalBody style.closing style.escapes body) := by
  have opens : style.opening <+: style.opening ++ body := List.prefix_append _ _
  cases found : literalExtent? styles (style.opening ++ body) with
  | none => exact absurd opens (literalExtent?_eq_none_iff.mp found style member)
  | some length =>
    obtain ⟨other, _, atOther⟩ := List.exists_of_findSome?_eq_some found
    unfold QuoteStyle.extent? at atOther
    split at atOther
    · rename_i alsoOpens
      have same := QuoteStyle.eq_of_prefix opens (List.isPrefixOf_iff_prefix.mp alsoOpens)
      subst same
      rw [← atOther, List.drop_left]
    · cases atOther

theorem literalExtent?_eq_some {styles : List QuoteStyle} {raw rest : List Char}
    (found : literalExtent? styles (raw ++ rest) = some raw.length) :
    ∃ style ∈ styles, ∃ body, raw = style.opening ++ body ∧
      literalBody style.closing style.escapes (body ++ rest) = body.length := by
  obtain ⟨style, member, atStyle⟩ := List.exists_of_findSome?_eq_some found
  unfold QuoteStyle.extent? at atStyle
  split at atStyle
  · rename_i opens
    obtain ⟨text, split⟩ := List.isPrefixOf_iff_prefix.mp opens
    rw [← split, List.drop_left] at atStyle
    have size := Option.some.inj atStyle
    rcases List.append_eq_append_iff.mp split with ⟨body, rfl, rfl⟩ | ⟨extra, inside, rfl⟩
    · rw [List.length_append] at size
      exact ⟨style, member, body, rfl, by omega⟩
    · have short := congrArg List.length inside
      rw [List.length_append] at short
      have none : literalBody style.closing style.escapes text = 0 := by omega
      have empty : extra = [] := List.length_eq_zero_iff.mp (by omega)
      subst empty
      exact ⟨style, member, [], by simpa using inside.symm, by simpa using none⟩
  · cases atStyle

theorem QuoteStyle.trimEnd_opening (style : QuoteStyle) : trimEnd style.opening = style.opening := by
  cases style <;> decide

theorem QuoteStyle.isBlank_closing (style : QuoteStyle) : isBlank style.closing = false := by
  cases style <;> decide

theorem trimEnd_of_getLast? {text : List Char} {c : Char} (final : text.getLast? = some c)
    (visible : isBlank c = false) : trimEnd text = text := by
  obtain ⟨front, rfl⟩ := List.getLast?_eq_some_iff.mp final
  rw [trimEnd_concat, visible]
  rfl

/-- A literal is read again wherever no other closing quote follows it, and an open one at the end of
a text also without the blanks at its end. -/
theorem literalExtent?_keep {styles : List QuoteStyle} {raw rest other : List Char}
    (found : literalExtent? styles (raw ++ rest) = some raw.length) (atEnd : rest = [] → other = [])
    (single : ∀ style ∈ styles, begins (· == style.closing) other = false) :
    literalExtent? styles (trimEnd raw ++ other) = some (trimEnd raw).length ∧
      (rest ≠ [] → trimEnd raw = raw) := by
  obtain ⟨style, member, body, rfl, whole⟩ := literalExtent?_eq_some found
  rw [trimEnd_append_of_trimmed style.trimEnd_opening, List.append_assoc, literalExtent?_opening member]
  by_cases more : rest = []
  · rw [more, List.append_nil] at whole
    obtain ⟨gap, _, split⟩ := trimEnd_append_gap body
    rw [split] at whole
    have cut := literalBody_take style.closing style.escapes gap (trimEnd body) whole
    rw [atEnd more, List.append_nil, cut, List.length_append]
    exact ⟨rfl, fun some => absurd more some⟩
  · have closed := closedBody_of_literalBody style.closing style.escapes more body whole
    have trimmed := trimEnd_of_getLast? closed.getLast? style.isBlank_closing
    rw [trimmed, closed.literalBody_append (single style member), List.length_append]
    exact ⟨rfl, fun _ => rfl⟩

/-- Marks of one character each. -/
def singleMarks (marks : List Char) : List Phrase :=
  marks.map fun c => [[c]]

theorem Phrase.extent?_singleton (mark c : Char) (text : List Char) :
    Phrase.extent? (· == ·) [[mark]] (c :: text) = if mark = c then some 1 else none := by
  simp [Phrase.extent?, startsWith]

theorem namedMatch?_cons (marks : List Char) (c : Char) (text : List Char) :
    namedMatch? (singleMarks marks) (c :: text) =
      if c ∈ marks ∧ begins isKeyChar text then
        some ⟨1 + (text.takeWhile isKeyChar).length, text.takeWhile isKeyChar⟩
      else none := by
  induction marks with
  | nil => rfl
  | cons mark marks ih =>
    unfold namedMatch? singleMarks at ih ⊢
    rw [List.map_cons, List.findSome?_cons, ih, Phrase.extent?_singleton]
    by_cases same : mark = c
    · cases key : begins isKeyChar text <;> simp [same, begins_takeWhile, key]
    · simp [same, Ne.symm same]

theorem quotedMatch?_cons (marks : List Char) (styles : List QuoteStyle) (c : Char) (text : List Char) :
    quotedMatch? (singleMarks marks) styles (c :: text) =
      if c ∈ marks then
        (literalExtent? styles text).map fun length => ⟨1 + length, unquote (text.take length)⟩
      else none := by
  induction marks with
  | nil => rfl
  | cons mark marks ih =>
    unfold quotedMatch? singleMarks at ih ⊢
    rw [List.map_cons, List.findSome?_cons, ih, Phrase.extent?_singleton]
    by_cases same : mark = c
    · cases found : literalExtent? styles text <;> simp [same, found]
    · simp [same, Ne.symm same]

theorem markExtent?_cons (marks : List Char) (c : Char) (text : List Char) :
    markExtent? (singleMarks marks) (c :: text) = if c ∈ marks then some 1 else none := by
  induction marks with
  | nil => rfl
  | cons mark marks ih =>
    unfold markExtent? singleMarks at ih ⊢
    rw [List.map_cons, List.findSome?_cons, ih, Phrase.extent?_singleton]
    by_cases same : mark = c
    · simp [same]
    · simp [same, Ne.symm same]

theorem positionalMatch?_cons (marks : List Char) (c : Char) (text : List Char) :
    positionalMatch? (singleMarks marks) (c :: text) =
      if c ∈ marks then
        some ⟨1 + (text.takeWhile isAsciiDigit).length, text.takeWhile isAsciiDigit⟩
      else none := by
  unfold positionalMatch?
  rw [markExtent?_cons]
  split <;> simp

/-- An operator is read again where no other one begins that did not begin before. -/
theorem operatorExtent_of_absent {raw rest other : List Char} (found : operatorExtent (raw ++ rest) = raw.length)
    (absent : ∀ operator ∈ operators, ¬ operator <+: raw ++ rest → ¬ operator <+: raw ++ other) :
    operatorExtent (raw ++ other) = raw.length := by
  unfold operatorExtent at found ⊢
  cases first : operators.find? (·.isPrefixOf (raw ++ rest)) with
  | none =>
    have none : operators.find? (·.isPrefixOf (raw ++ other)) = none := by
      rw [List.find?_eq_none] at first ⊢
      intro operator member starts
      exact absent operator member (fun before => first operator member (List.isPrefixOf_iff_prefix.mpr before))
        (List.isPrefixOf_iff_prefix.mp starts)
    rw [first] at found
    rw [none]
    exact found
  | some operator =>
    rw [first] at found
    obtain ⟨starts, before, after, split, failed⟩ := List.find?_eq_some_iff_append.mp first
    have same : operator = raw := by
      have prefixes := List.isPrefixOf_iff_prefix.mp starts
      exact (List.prefix_of_prefix_length_le prefixes (List.prefix_append _ _)
        (Nat.le_of_eq found)).eq_of_length found
    subst same
    have again : operators.find? (·.isPrefixOf (operator ++ other)) = some operator := by
      refine List.find?_eq_some_iff_append.mpr ⟨List.isPrefixOf_iff_prefix.mpr (List.prefix_append _ _),
        before, after, split, fun earlier member => ?_⟩
      have inOperators : earlier ∈ operators := by simp [split, member]
      have failedHere : earlier.isPrefixOf (operator ++ rest) = false := by simpa using failed earlier member
      have none : ¬ earlier <+: operator ++ other := by
        refine absent earlier inOperators fun starts => ?_
        rw [List.isPrefixOf_iff_prefix.mpr starts] at failedHere
        cases failedHere
      simpa [← List.isPrefixOf_iff_prefix] using none
    rw [again]

theorem operatorExtent_keep {raw rest other : List Char} (found : operatorExtent (raw ++ rest) = raw.length)
    (fits : ∀ operator ∈ operators, ∀ c, other.head? = some c → ¬ raw ++ [c] <+: operator) :
    operatorExtent (raw ++ other) = raw.length :=
  operatorExtent_of_absent found fun operator member none => not_prefix_of_append none (fits operator member)

/-- Marks that end visibly and of which a text begins with one at most. -/
def exclusiveMarks (marks : List Phrase) : Bool :=
  marks.all fun mark => mark.isMark && trimEnd mark.flatten == mark.flatten &&
    marks.all fun other => mark.flatten.head? != other.flatten.head? || mark == other

theorem markExtent?_exclusive {marks : List Phrase} (exclusive : exclusiveMarks marks) {mark : Phrase}
    (member : mark ∈ marks) (text : List Char) :
    markExtent? marks (mark.flatten ++ text) = some mark.flatten.length := by
  simp only [exclusiveMarks, List.all_eq_true, Bool.and_eq_true, Bool.or_eq_true, bne_iff_ne, beq_iff_eq]
    at exclusive
  have single : marks.all Phrase.isMark := by
    simpa using fun other inMarks => (exclusive other inMarks).1.1
  cases found : markExtent? marks (mark.flatten ++ text) with
  | none => exact absurd (List.prefix_append _ _) ((markExtent?_eq_none_iff single).mp found mark member)
  | some length =>
    obtain ⟨other, inMarks, atOther⟩ := List.exists_of_findSome?_eq_some found
    rw [Phrase.extent?_mark (exclusive other inMarks).1.1] at atOther
    split at atOther
    · rename_i starts
      obtain ⟨rest, split⟩ := List.isPrefixOf_iff_prefix.mp starts
      have someMark : mark.flatten ≠ [] := by
        have isMark := (exclusive mark member).1.1
        simp only [Phrase.isMark, Bool.and_eq_true] at isMark
        simpa using isMark.2
      have someOther : other.flatten ≠ [] := by
        have isMark := (exclusive other inMarks).1.1
        simp only [Phrase.isMark, Bool.and_eq_true] at isMark
        simpa using isMark.2
      have heads : mark.flatten.head? = other.flatten.head? := by
        have same := congrArg List.head? split
        rw [List.head?_append_of_ne_nil _ someOther, List.head?_append_of_ne_nil _ someMark] at same
        exact same.symm
      rcases (exclusive mark member).2 other inMarks with differ | rfl
      · exact absurd heads differ
      · exact atOther.symm
    · cases atOther

/-- A line comment is one of the marks and the rest of its line. -/
theorem lineComment_split {marks : List Phrase} (exclusive : exclusiveMarks marks) {raw rest : List Char}
    {lead : Nat} (found : markExtent? marks (raw ++ rest) = some lead)
    (whole : lead + lineLength ((raw ++ rest).drop lead) = raw.length) :
    ∃ mark ∈ marks, ∃ line, raw = mark.flatten ++ line ∧ trimEnd mark.flatten = mark.flatten ∧
      lineLength (line ++ rest) = line.length := by
  obtain ⟨mark, member, atMark⟩ := List.exists_of_findSome?_eq_some found
  simp only [exclusiveMarks, List.all_eq_true, Bool.and_eq_true, beq_iff_eq] at exclusive
  obtain ⟨⟨isMark, visible⟩, _⟩ := exclusive mark member
  rw [Phrase.extent?_mark isMark] at atMark
  split at atMark
  case isFalse => cases atMark
  rename_i starts
  cases atMark
  obtain ⟨line, rfl⟩ : ∃ line, raw = mark.flatten ++ line := by
    have short : mark.flatten.length ≤ raw.length := by omega
    obtain ⟨line, split⟩ := List.prefix_of_prefix_length_le (List.isPrefixOf_iff_prefix.mp starts)
      (List.prefix_append raw rest) short
    exact ⟨line, split.symm⟩
  rw [List.append_assoc, List.drop_left, List.length_append] at whole
  exact ⟨mark, member, line, rfl, visible, by omega⟩

/-- A line comment is read again without the blanks at its end where a line break follows it or nothing
at all. The line break is part of it. -/
theorem lineComment_keep {marks : List Phrase} (exclusive : exclusiveMarks marks) {raw rest : List Char}
    {lead : Nat} (found : markExtent? marks (raw ++ rest) = some lead)
    (whole : lead + lineLength ((raw ++ rest).drop lead) = raw.length) {ending : List Char}
    (isEnd : ending = [] ∨ ending = ['\n']) (other : List Char) (atEnd : ending = [] → other = []) :
    ∃ lead, markExtent? marks (trimEnd raw ++ (ending ++ other)) = some lead ∧
      lead + lineLength ((trimEnd raw ++ (ending ++ other)).drop lead) = (trimEnd raw ++ ending).length := by
  obtain ⟨mark, member, line, rfl, visible, whole⟩ := lineComment_split exclusive found whole
  have noBreak := trimEnd_line rest line whole
  have trimmed := trimEnd_append_of_trimmed visible line
  refine ⟨mark.flatten.length, ?_, ?_⟩
  · rw [trimmed, List.append_assoc]
    exact markExtent?_exclusive exclusive member _
  · rw [trimmed, List.append_assoc, List.drop_left, lineLength_append noBreak]
    rcases isEnd with rfl | rfl
    · rw [atEnd rfl]
      simp [lineLength]
    · simp [lineLength]

theorem reindent_append (indent first second : List Char) :
    reindent indent (first ++ second) = reindent indent first ++ reindent indent second :=
  List.flatMap_append

/-- A block comment is read again however far its lines are pushed in. -/
theorem blockComment_keep {indent body rest other : List Char} (blank : IsGap indent)
    (whole : commentBody (body ++ rest) = body.length) (atEnd : rest = [] → other = []) :
    commentBody (trimEnd (reindent indent body) ++ other) = (trimEnd (reindent indent body)).length ∧
      (rest ≠ [] → trimEnd (reindent indent body) = reindent indent body) := by
  have kept := commentBody_reindent blank atEnd body whole
  by_cases more : rest = []
  · rw [atEnd more, List.append_nil] at kept ⊢
    obtain ⟨gap, _, split⟩ := trimEnd_append_gap (reindent indent body)
    rw [split] at kept
    exact ⟨commentBody_take gap _ kept, fun some => absurd more some⟩
  · obtain ⟨front, rfl⟩ := commentBody_closed more body whole
    have closing : reindent indent ['*', '/'] = ['*', '/'] := rfl
    have visible : isBlank '/' = false := by decide
    have trimmed : trimEnd (reindent indent (front ++ ['*', '/'])) = reindent indent (front ++ ['*', '/']) := by
      refine trimEnd_of_getLast? ?_ visible
      rw [reindent_append, closing]
      simp
    rw [trimmed]
    exact ⟨kept, fun _ => rfl⟩

end QueryLayout
