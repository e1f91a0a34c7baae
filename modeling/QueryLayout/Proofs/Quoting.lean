import QueryLayout.Layout
import QueryLayout.Proofs.CharClass
import QueryLayout.Proofs.Extent

namespace QueryLayout

/-- What stands in a closed literal after its opening quote: a doubled quote and an escaped character
do not close it, and nothing follows the quote that does. -/
inductive ClosedBody (closing : Char) (escapes : Bool) : List Char → Prop
  | close : ClosedBody closing escapes [closing]
  | doubled {body} : ClosedBody closing escapes body → ClosedBody closing escapes (closing :: closing :: body)
  | escaped {c body} : '\\' ≠ closing → escapes = true → ClosedBody closing escapes body →
      ClosedBody closing escapes ('\\' :: c :: body)
  | char {c body} : c ≠ closing → (escapes && c == '\\') = false → ClosedBody closing escapes body →
      ClosedBody closing escapes (c :: body)

theorem ClosedBody.getLast? {closing : Char} {escapes : Bool} {body : List Char}
    (closed : ClosedBody closing escapes body) : body.getLast? = some closing := by
  induction closed with
  | close => rfl
  | doubled _ ih | escaped _ _ _ ih | char _ _ _ ih => simp [List.getLast?_cons, ih]

theorem ClosedBody.literalBody_append {closing : Char} {escapes : Bool} {body rest : List Char}
    (closed : ClosedBody closing escapes body) (single : begins (· == closing) rest = false) :
    literalBody closing escapes (body ++ rest) = body.length := by
  induction closed with
  | close =>
    cases rest with
    | nil => rfl
    | cons c rest =>
      have differs : c ≠ closing := by simpa using single
      simp [literalBody, differs]
  | doubled _ ih =>
    simp only [List.cons_append, literalBody, if_true, ih, List.length_cons]
    omega
  | escaped other escapes _ ih =>
    subst escapes
    simp only [List.cons_append, literalBody, other, if_false, beq_self_eq_true, Bool.and_self, if_true, ih,
      List.length_cons]
    omega
  | @char c body other plain closed ih =>
    obtain ⟨next, tail, rfl⟩ : ∃ next tail, body = next :: tail := by cases closed <;> exact ⟨_, _, rfl⟩
    simp only [List.cons_append] at ih
    simp only [List.cons_append, literalBody, other, if_false, plain, Bool.false_eq_true, ih, List.length_cons]
    omega

theorem literalBody_pos (closing : Char) (escapes : Bool) {text : List Char} (someText : text ≠ []) :
    0 < literalBody closing escapes text := by
  fun_cases literalBody closing escapes text with
  | case1 => exact absurd rfl someText
  | case2 | case4 => exact Nat.one_pos
  | case3 | case5 | case6 => omega

/-- A literal that ends before its text does is closed. -/
theorem closedBody_of_literalBody (closing : Char) (escapes : Bool) {rest : List Char} (someRest : rest ≠ []) :
    ∀ body : List Char, literalBody closing escapes (body ++ rest) = body.length → ClosedBody closing escapes body
  | [], whole => absurd whole (literalBody_pos closing escapes someRest).ne'
  | [c], whole => by
    obtain ⟨next, rest, rfl⟩ := List.exists_cons_of_ne_nil someRest
    have more := literalBody_pos closing escapes (List.cons_ne_nil next rest)
    simp only [List.cons_append, List.nil_append, literalBody, List.length_singleton] at whole
    split at whole
    · rename_i ends
      rw [ends]
      exact .close
    · split at whole <;> omega
  | c :: next :: body, whole => by
    simp only [List.cons_append, literalBody, List.length_cons] at whole
    split at whole
    · rename_i ends
      split at whole
      · rename_i doubled
        rw [ends, doubled]
        exact .doubled (closedBody_of_literalBody closing escapes someRest body (by omega))
      · omega
    · rename_i other
      split at whole
      · rename_i escape
        obtain ⟨escapes', rfl⟩ : escapes = true ∧ c = '\\' := by simpa using escape
        exact .escaped other escapes' (closedBody_of_literalBody closing escapes someRest body (by omega))
      · rename_i plain
        refine .char other (Bool.eq_false_iff.mpr plain) ?_
        exact closedBody_of_literalBody closing escapes someRest (next :: body)
          (by simp only [List.cons_append, List.length_cons]; omega)

/-- A literal that runs to the end of its text does so wherever the text is cut off. -/
theorem literalBody_take (closing : Char) (escapes : Bool) (more : List Char) :
    ∀ text : List Char, literalBody closing escapes (text ++ more) = (text ++ more).length →
      literalBody closing escapes text = text.length
  | [], _ => rfl
  | [_], _ => rfl
  | c :: next :: text, whole => by
    simp only [List.cons_append, literalBody, List.length_cons, List.length_append] at whole ⊢
    split at whole
    · rename_i ends
      split at whole
      · rename_i doubled
        have rest := literalBody_take closing escapes more text (by rw [List.length_append]; omega)
        simp only [ends, doubled, if_true, rest]
        omega
      · omega
    · rename_i other
      split at whole
      · rename_i escape
        have rest := literalBody_take closing escapes more text (by rw [List.length_append]; omega)
        simp only [other, if_false, escape, if_true, rest]
        omega
      · rename_i plain
        have rest := literalBody_take closing escapes more (next :: text)
          (by simp only [List.cons_append, List.length_cons, List.length_append]; omega)
        simp only [other, if_false, plain, Bool.false_eq_true, rest, List.length_cons]
        omega

theorem commentBody_cons {c : Char} {text : List Char} (other : ∀ rest, c :: text ≠ '*' :: '/' :: rest) :
    commentBody (c :: text) = 1 + commentBody text := by
  rw [commentBody]
  exact fun rest star slash => other rest (by rw [star, slash])

theorem commentBody_gap {gap : List Char} (blank : IsGap gap) (text : List Char) :
    commentBody (gap ++ text) = gap.length + commentBody text := by
  induction gap with
  | nil => simp
  | cons c gap ih =>
    obtain ⟨blankHead, blankRest⟩ := isGap_cons.mp blank
    rw [List.cons_append, commentBody_cons, ih blankRest, List.length_cons]
    · omega
    · intro rest same
      rw [(List.cons.inj same).1] at blankHead
      exact absurd blankHead (by decide)

theorem commentBody_eq_zero {text : List Char} (none : commentBody text = 0) : text = [] := by
  fun_cases commentBody text with
  | case1 => cases none
  | case2 => simp [commentBody] at none
  | case3 => rfl

theorem reindent_cons (indent : List Char) (c : Char) (text : List Char) :
    reindent indent (c :: text) = (if c = '\n' then '\n' :: indent else [c]) ++ reindent indent text :=
  rfl

theorem head?_reindent (indent text : List Char) : (reindent indent text).head? = text.head? := by
  cases text with
  | nil => rfl
  | cons c text =>
    rw [reindent_cons]
    split
    · rename_i feed
      simp [feed]
    · rfl

/-- Pushing in the lines of a comment does not change where it ends. -/
theorem commentBody_reindent {indent rest other : List Char} (blank : IsGap indent)
    (atEnd : rest = [] → other = []) :
    ∀ body : List Char, commentBody (body ++ rest) = body.length →
      commentBody (reindent indent body ++ other) = (reindent indent body).length
  | [], whole => by
    rw [atEnd (commentBody_eq_zero whole)]
    rfl
  | c :: body, whole => by
    by_cases closes : ∃ later, c :: (body ++ rest) = '*' :: '/' :: later
    · obtain ⟨later, split⟩ := closes
      obtain ⟨rfl, slash⟩ := List.cons.inj split
      rw [List.cons_append, slash, commentBody, List.length_cons] at whole
      have single : body = ['/'] := by
        cases body with
        | nil => cases whole
        | cons d body =>
          have short : body = [] := List.length_eq_zero_iff.mp (by simpa using whole.symm)
          rw [short, (List.cons.inj slash).1]
      rw [single]
      simp [reindent, commentBody]
    · have goesOn : ∀ later, c :: (body ++ rest) ≠ '*' :: '/' :: later := fun later same => closes ⟨later, same⟩
      rw [List.cons_append, commentBody_cons goesOn, List.length_cons] at whole
      have inner := commentBody_reindent blank atEnd body (by omega)
      rw [reindent_cons, List.append_assoc, List.length_append]
      split
      · rename_i feed
        rw [List.cons_append, commentBody_cons (by simp), commentBody_gap blank, inner, List.length_cons]
        omega
      · rw [List.singleton_append, commentBody_cons, inner, List.length_singleton]
        intro later same
        obtain ⟨star, slash⟩ := List.cons.inj same
        cases body with
        | nil =>
          rw [atEnd (commentBody_eq_zero (by simpa using whole))] at slash
          cases slash
        | cons d body =>
          have first := congrArg List.head? slash
          rw [List.head?_append, head?_reindent] at first
          have same : d = '/' := by simpa using first
          exact goesOn (body ++ rest) (by rw [star, same]; rfl)

theorem commentBody_take (more : List Char) :
    ∀ text : List Char, commentBody (text ++ more) = (text ++ more).length → commentBody text = text.length
  | [], _ => rfl
  | c :: text, whole => by
    by_cases closes : ∃ later, c :: text = '*' :: '/' :: later
    · obtain ⟨later, split⟩ := closes
      rw [split] at whole ⊢
      simp only [List.cons_append, commentBody, List.length_cons, List.length_append] at whole ⊢
      omega
    · have goesOn : ∀ later, c :: text ≠ '*' :: '/' :: later := fun later same => closes ⟨later, same⟩
      rw [commentBody_cons goesOn, List.length_cons]
      by_cases crossing : ∃ later, c :: (text ++ more) = '*' :: '/' :: later
      · obtain ⟨later, split⟩ := crossing
        -- the closing pair begins with the last character of the text
        cases text with
        | nil => simp [commentBody]
        | cons d text =>
          obtain ⟨star, slash⟩ := List.cons.inj split
          exact absurd (by rw [star, (List.cons.inj slash).1]) (goesOn text)
      · have passes : ∀ later, c :: (text ++ more) ≠ '*' :: '/' :: later :=
          fun later same => crossing ⟨later, same⟩
        rw [List.cons_append, commentBody_cons passes, List.length_cons] at whole
        have rest := commentBody_take more text (by omega)
        omega

/-- A comment reaches through the first `*/`, or to the end of its text where there is none. -/
theorem commentBody_first {rest : List Char} :
    ∀ body : List Char, commentBody (body ++ rest) = body.length →
      (∃ front, body = front ++ ['*', '/'] ∧ ¬ ['*', '/'] <:+: front ++ ['*']) ∨
        (rest = [] ∧ ¬ ['*', '/'] <:+: body)
  | [], whole => Or.inr ⟨commentBody_eq_zero whole, by simp⟩
  | c :: body, whole => by
    by_cases closes : ['*', '/'] <+: c :: (body ++ rest)
    · obtain ⟨later, split⟩ := closes
      obtain ⟨rfl, slash⟩ := List.cons.inj split
      have slash : body ++ rest = '/' :: later := slash.symm
      rw [List.cons_append, slash, commentBody, List.length_cons] at whole
      cases body with
      | nil => cases whole
      | cons d body =>
        have short : body = [] := List.length_eq_zero_iff.mp (by simpa using whole.symm)
        rw [short, (List.cons.inj slash).1]
        exact Or.inl ⟨[], rfl, by decide⟩
    · have goesOn : ∀ later, c :: (body ++ rest) ≠ '*' :: '/' :: later :=
        fun later same => closes ⟨later, same.symm⟩
      rw [List.cons_append, commentBody_cons goesOn, List.length_cons] at whole
      -- nothing begins here, so that what is found first is found in the rest
      have later : ∀ front, front <+: body ++ rest → ¬ ['*', '/'] <:+: front → ¬ ['*', '/'] <:+: c :: front := by
        intro front starts none found
        rcases List.infix_cons_iff.mp found with here | inside
        · exact closes (here.trans (List.prefix_cons_inj c |>.mpr starts))
        · exact none inside
      have inner : commentBody (body ++ rest) = body.length := by omega
      rcases commentBody_first body inner with ⟨front, rfl, none⟩ | ⟨atEnd, none⟩
      · refine Or.inl ⟨c :: front, rfl, later _ ?_ none⟩
        exact ⟨'/' :: rest, by simp⟩
      · exact Or.inr ⟨atEnd, later _ (List.prefix_append _ _) none⟩

/-- A comment that ends before its text does is closed. -/
theorem commentBody_closed {rest : List Char} (someRest : rest ≠ []) (body : List Char)
    (whole : commentBody (body ++ rest) = body.length) : ∃ front, body = front ++ ['*', '/'] := by
  rcases commentBody_first body whole with ⟨front, split, _⟩ | ⟨atEnd, _⟩
  · exact ⟨front, split⟩
  · exact absurd atEnd someRest

def isLineEnd (c : Char) : Bool :=
  c == '\n' || c == '\r'

theorem lineLength_append {line : List Char} (whole : ∀ c ∈ line, isLineEnd c = false) (rest : List Char) :
    lineLength (line ++ rest) = line.length + lineLength rest := by
  induction line with
  | nil => simp
  | cons c line ih =>
    have first := whole c List.mem_cons_self
    simp only [isLineEnd, Bool.or_eq_false_iff, beq_eq_false_iff_ne] at first
    rw [List.cons_append, lineLength, ih fun d member => whole d (List.mem_cons_of_mem _ member), List.length_cons]
    · omega
    all_goals simp [first.1, first.2]

/-- A line break is all that is left of a line from where it begins. -/
theorem isGap_of_isLineEnd {c : Char} {line rest : List Char} (ends : isLineEnd c)
    (whole : lineLength (c :: (line ++ rest)) = (c :: line).length) : IsGap (c :: line) := by
  simp only [isLineEnd, Bool.or_eq_true, beq_iff_eq] at ends
  rcases ends with rfl | rfl
  · have short : line = [] := by simpa [lineLength] using whole.symm
    rw [short]
    exact isGap_cons.mpr ⟨by decide, isGap_nil⟩
  · cases line with
    | nil => exact isGap_cons.mpr ⟨by decide, isGap_nil⟩
    | cons d line =>
      by_cases feed : d = '\n'
      · have short : line = [] := by simpa [lineLength, feed] using whole.symm
        rw [short, feed]
        exact isGap_cons.mpr ⟨by decide, isGap_cons.mpr ⟨by decide, isGap_nil⟩⟩
      · rw [List.cons_append, lineLength] at whole
        · simp at whole
        · simp [feed]

/-- A line that ends before its text does ends in a blank. -/
theorem lineLength_final {rest : List Char} (someRest : rest ≠ []) :
    ∀ line : List Char, lineLength (line ++ rest) = line.length → ∃ front c, line = front ++ [c] ∧ isBlank c
  | [], whole => by
    cases rest with
    | nil => exact absurd rfl someRest
    | cons c rest =>
      rw [List.nil_append] at whole
      unfold lineLength at whole
      split at whole <;> simp_all
  | c :: line, whole => by
    cases ends : isLineEnd c with
    | true =>
      have gap := isGap_of_isLineEnd ends whole
      obtain ⟨front, d, split⟩ := (List.eq_nil_or_concat' (c :: line)).resolve_left (by simp)
      exact ⟨front, d, split, gap d (by simp [split])⟩
    | false =>
      have later := lineLength_append (show ∀ d ∈ [c], isLineEnd d = false by simpa using ends) (line ++ rest)
      simp only [List.singleton_append, List.length_singleton] at later
      rw [List.cons_append, later, List.length_cons] at whole
      obtain ⟨front, d, rfl, blank⟩ := lineLength_final someRest line (by omega)
      exact ⟨c :: front, d, rfl, blank⟩

/-- A line without the blanks at its end has no line break. -/
theorem trimEnd_line (rest : List Char) :
    ∀ line : List Char, lineLength (line ++ rest) = line.length → ∀ c ∈ trimEnd line, isLineEnd c = false
  | [], _ => by simp
  | c :: line, whole => by
    cases ends : isLineEnd c with
    | true =>
      rw [trimEnd_eq_nil_iff.mpr (isGap_of_isLineEnd ends whole)]
      simp
    | false =>
      have front : trimEnd (c :: line) = if trimEnd line = [] then trimEnd [c] else c :: trimEnd line :=
        trimEnd_append [c] line
      have later := lineLength_append (show ∀ d ∈ [c], isLineEnd d = false by simpa using ends) (line ++ rest)
      simp only [List.singleton_append, List.length_singleton] at later
      rw [List.cons_append, later, List.length_cons] at whole
      have inner := trimEnd_line rest line (by omega)
      have single : ∀ d ∈ trimEnd [c], isLineEnd d = false := by
        intro d member
        obtain ⟨gap, _, split⟩ := trimEnd_append_gap [c]
        have same : d ∈ [c] := by
          rw [split]
          exact List.mem_append_left _ member
        rwa [List.mem_singleton.mp same]
      rw [front]
      split
      · exact single
      · intro d member
        rcases List.mem_cons.mp member with rfl | member
        · exact ends
        · exact inner d member

end QueryLayout
