import QueryLayout.Proofs.Glyphs
import QueryLayout.Proofs.Lexemes

namespace QueryLayout

section Collapsing

variable {first second c : Char} {text : List Char}

theorem collapsePair_pair (first second : Char) (text : List Char) :
    collapsePair first second (first :: second :: text) = second :: collapsePair first second text := by
  simp [collapsePair]

/-- A character that begins no pair stays. -/
theorem collapsePair_cons (apart : c = first → begins (· == second) text = false) :
    collapsePair first second (c :: text) = c :: collapsePair first second text := by
  cases text with
  | nil => rfl
  | cons next text =>
    rw [collapsePair, if_neg]
    rintro ⟨same, rfl⟩
    simpa using apart same

end Collapsing

/-- Leaves out every second one of the closing quotes in a row. The last one that was kept may still wait for
its second. -/
def skipSeconds (closing : Char) : Bool → List Char → List Char
  | _, [] => []
  | waiting, c :: text =>
    if c = closing then
      if waiting then skipSeconds closing false text else closing :: skipSeconds closing true text
    else c :: skipSeconds closing false text

theorem collapsePair_self (closing : Char) :
    ∀ text : List Char, collapsePair closing closing text = skipSeconds closing false text
  | [] => rfl
  | [c] => by
    by_cases quote : c = closing <;> simp [collapsePair, skipSeconds, quote]
  | c :: next :: text => by
    by_cases quote : c = closing
    · subst c
      by_cases again : next = closing
      · subst next
        simp [collapsePair_pair, skipSeconds, collapsePair_self closing text]
      · rw [collapsePair_cons fun _ => by simpa using again, collapsePair_self closing (next :: text)]
        simp [skipSeconds, again]
    · rw [collapsePair_cons fun same => absurd same quote, collapsePair_self closing (next :: text)]
      simp [skipSeconds, quote]

/-- Undoes the escapes of closing quotes in a text and then the doubled ones. -/
def undo (closing : Char) (waiting : Bool) (text : List Char) : List Char :=
  skipSeconds closing waiting (collapsePair '\\' closing text)

/-- What is left of a literal between its quotes: the written glyphs. Those of an open literal lose a closing
quote at their end, which is taken for that of the literal. -/
def bare (closing : Char) (closed : Bool) (glyphs : List Glyph) : List Char :=
  let text := glyphs.flatMap (Glyph.written closing)
  if !closed && text.getLast? == some closing then text.dropLast else text

/-- Glyphs that a literal cannot hold on to when its escapes are undone before its doubled quotes. -/
inductive Misread (closing : Char) (closed : Bool) (glyphs : List Glyph) : Prop
  /-- A backslash that stands for itself looks like an escape of the doubled quote after it. -/
  | backslash {glyph} : glyph = .plain '\\' ∨ glyph = .escaped '\\' → [glyph, .doubled] <:+: glyphs →
      Misread closing closed glyphs
  /-- Two escaped quotes with nothing but doubled ones between them look like doubled ones themselves. -/
  | merged (between : Nat) :
      .escaped closing :: (List.replicate between .doubled ++ [.escaped closing]) <:+: glyphs →
      Misread closing closed glyphs
  /-- With an escaped quote and nothing but doubled ones at its end, an open literal looks closed. -/
  | cut (after : Nat) : closed = false → .escaped closing :: List.replicate after .doubled <:+ glyphs →
      Misread closing closed glyphs

/-- A quote before these glyphs, undone from an escape, is taken together with one of them. -/
def Merges (closing : Char) (closed : Bool) (glyphs : List Glyph) : Prop :=
  (∃ between, List.replicate between .doubled ++ [.escaped closing] <+: glyphs) ∨
    (closed = false ∧ ∃ after, glyphs = List.replicate after .doubled)

/-- Whether the quote that a glyph leaves waits for a second one. -/
def Glyph.waits (closing : Char) (waiting : Bool) : Glyph → Bool
  | .plain _ => false
  | .doubled => waiting
  | .escaped c => c == closing

section Glyphs

variable {closing : Char} {closed waiting : Bool} {glyph : Glyph} {glyphs : List Glyph} {text : List Char}

theorem Glyph.written_ne_nil (closing : Char) (glyph : Glyph) : glyph.written closing ≠ [] := by
  cases glyph <;> simp [Glyph.written]

theorem merges_nil : Merges closing closed [] ↔ closed = false := by
  constructor
  · rintro (⟨between, starts⟩ | ⟨opened, _⟩)
    · simp at starts
    · exact opened
  · exact fun opened => Or.inr ⟨opened, 0, rfl⟩

theorem merges_doubled : Merges closing closed (.doubled :: glyphs) ↔ Merges closing closed glyphs := by
  constructor
  · rintro (⟨between, starts⟩ | ⟨opened, after, all⟩)
    · cases between with
      | zero => simp at starts
      | succ between => exact Or.inl ⟨between, by simpa [List.replicate_succ] using starts⟩
    · cases after with
      | zero => cases all
      | succ after => exact Or.inr ⟨opened, after, by simpa [List.replicate_succ] using all⟩
  · rintro (⟨between, starts⟩ | ⟨opened, after, rfl⟩)
    · exact Or.inl ⟨between + 1, by simpa [List.replicate_succ] using starts⟩
    · exact Or.inr ⟨opened, after + 1, by simp [List.replicate_succ]⟩

theorem merges_escaped : Merges closing closed (.escaped closing :: glyphs) :=
  Or.inl ⟨0, by simp⟩

theorem not_merges (notDoubled : glyph ≠ .doubled) (notEscaped : glyph ≠ .escaped closing) :
    ¬ Merges closing closed (glyph :: glyphs) := by
  rintro (⟨between, starts⟩ | ⟨opened, after, all⟩)
  · cases between with
    | zero =>
      obtain rfl : .escaped closing = glyph := by simpa using starts
      exact notEscaped rfl
    | succ between =>
      obtain ⟨rfl, _⟩ : .doubled = glyph ∧ _ := by simpa [List.replicate_succ] using starts
      exact notDoubled rfl
  · cases after with
    | zero => cases all
    | succ after => exact notDoubled (List.cons.inj all).1

theorem not_misread_nil : ¬ Misread closing closed [] := by
  rintro (⟨_, found⟩ | ⟨_, found⟩ | ⟨_, _, found⟩) <;> simp at found

/-- Glyphs are misread from the first one on or later. -/
theorem misread_cons :
    Misread closing closed (glyph :: glyphs) ↔
      ((glyph = .plain '\\' ∨ glyph = .escaped '\\') ∧ glyphs.head? = some .doubled) ∨
        (glyph = .escaped closing ∧ Merges closing closed glyphs) ∨ Misread closing closed glyphs := by
  constructor
  · rintro (⟨backslash, found⟩ | ⟨between, found⟩ | ⟨after, opened, found⟩)
    · rcases List.infix_cons_iff.mp found with here | later
      · obtain ⟨rfl, starts⟩ := List.cons_prefix_cons.mp here
        obtain ⟨rest, rfl⟩ := starts
        exact Or.inl ⟨backslash, rfl⟩
      · exact Or.inr (Or.inr (.backslash backslash later))
    · rcases List.infix_cons_iff.mp found with here | later
      · obtain ⟨rfl, starts⟩ := List.cons_prefix_cons.mp here
        exact Or.inr (Or.inl ⟨rfl, Or.inl ⟨between, starts⟩⟩)
      · exact Or.inr (Or.inr (.merged between later))
    · rcases List.suffix_cons_iff.mp found with here | later
      · obtain ⟨rfl, rfl⟩ := List.cons.inj here
        exact Or.inr (Or.inl ⟨rfl, Or.inr ⟨opened, after, rfl⟩⟩)
      · exact Or.inr (Or.inr (.cut after opened later))
  · rintro (⟨backslash, next⟩ | ⟨rfl, ⟨between, starts⟩ | ⟨opened, after, rfl⟩⟩ | later)
    · obtain ⟨rest, rfl⟩ := List.head?_eq_some_iff.mp next
      exact .backslash backslash ⟨[], rest, rfl⟩
    · exact .merged between (List.cons_prefix_cons.mpr ⟨rfl, starts⟩).isInfix
    · exact .cut after opened (List.suffix_refl _)
    · cases later with
      | backslash backslash found => exact .backslash backslash (List.infix_cons found)
      | merged between found => exact .merged between (List.infix_cons found)
      | cut after opened found => exact .cut after opened (found.trans (List.suffix_cons _ _))

/-- Where nothing is lost at the first glyph, what follows decides. -/
theorem misread_or_merges_cons
    (apart : glyph = .plain '\\' ∨ glyph = .escaped '\\' → glyphs.head? ≠ some .doubled)
    (single : glyph = .escaped closing → waiting = false) :
    (¬ Misread closing closed (glyph :: glyphs) ∧ (waiting = true → ¬ Merges closing closed (glyph :: glyphs))) ↔
      ¬ Misread closing closed glyphs ∧ (glyph.waits closing waiting = true → ¬ Merges closing closed glyphs) := by
  have kept : ¬ ((glyph = .plain '\\' ∨ glyph = .escaped '\\') ∧ glyphs.head? = some .doubled) :=
    fun both => apart both.1 both.2
  rw [misread_cons, or_iff_right kept]
  cases glyph with
  | plain c =>
    have unmerged : ¬ Merges closing closed (.plain c :: glyphs) := not_merges (by simp) (by simp)
    simp [unmerged, Glyph.waits]
  | doubled => simp [merges_doubled, Glyph.waits]
  | escaped c =>
    by_cases quote : c = closing
    · subst c
      simp only [single rfl, Glyph.waits, beq_self_eq_true]
      tauto
    · have unmerged : ¬ Merges closing closed (.escaped c :: glyphs) := not_merges (by simp) (by simpa using quote)
      simp [unmerged, quote, Glyph.waits]

end Glyphs

section Undoing

variable {closing c : Char} (other : closing ≠ '\\') {closed waiting : Bool} {glyph : Glyph} {glyphs : List Glyph}
  {text : List Char}

theorem undo_char (notQuote : c ≠ closing) (apart : c = '\\' → begins (· == closing) text = false) :
    undo closing waiting (c :: text) = c :: undo closing false text := by
  simp only [undo, collapsePair_cons apart, skipSeconds, notQuote, if_false]

include other

theorem undo_quote :
    undo closing waiting (closing :: text) =
      if waiting then undo closing false text else closing :: undo closing true text := by
  simp only [undo, collapsePair_cons fun same => absurd same other, skipSeconds, if_true]

/-- A backslash goes wherever a closing quote comes after it. -/
theorem undo_backslash :
    undo closing waiting ('\\' :: closing :: text) = undo closing waiting (closing :: text) := by
  simp only [undo, collapsePair_pair, collapsePair_cons fun same => absurd same other]

theorem undo_doubled :
    undo closing waiting (closing :: closing :: text) = closing :: undo closing waiting text := by
  cases waiting <;> simp [undo_quote other]

/-- What the undoing of a glyph loses: a backslash before a closing quote, or a quote that one before it
waits for. -/
def Loses (closing : Char) (waiting : Bool) (glyph : Glyph) (text : List Char) : Prop :=
  ((glyph = .plain '\\' ∨ glyph = .escaped '\\') ∧ begins (· == closing) text) ∨
    (glyph = .escaped closing ∧ waiting)

/-- The first glyph of a text is undone alone where that loses nothing. -/
theorem undo_glyph (fits : .plain closing ≠ glyph) (keeps : ¬ Loses closing waiting glyph text) :
    undo closing waiting (glyph.written closing ++ text) =
      glyph.meant closing ++ undo closing (glyph.waits closing waiting) text := by
  have apart : glyph = .plain '\\' ∨ glyph = .escaped '\\' → begins (· == closing) text = false := by
    intro backslash
    by_contra quote
    exact keeps (Or.inl ⟨backslash, by simpa using quote⟩)
  cases glyph with
  | plain c =>
    exact undo_char (fun quote => fits (by rw [quote])) fun backslash => apart (Or.inl (by rw [backslash]))
  | doubled => exact undo_doubled other
  | escaped c =>
    by_cases quote : c = closing
    · subst c
      obtain rfl : waiting = false := by
        by_contra waits
        exact keeps (Or.inr ⟨rfl, by simpa using waits⟩)
      simp [Glyph.written, Glyph.meant, Glyph.waits, undo_backslash other, undo_quote other]
    · have inner : undo closing false (c :: text) = c :: undo closing false text :=
        undo_char quote fun backslash => apart (Or.inr (by rw [backslash]))
      have outer : undo closing waiting ('\\' :: c :: text) = '\\' :: undo closing false (c :: text) :=
        undo_char other.symm fun _ => by simpa using quote
      have settled : (c == closing) = false := beq_eq_false_iff_ne.mpr quote
      simp [Glyph.written, Glyph.meant, Glyph.waits, quote, settled, outer, inner]

theorem undo_lost (loses : Loses closing waiting glyph text) :
    ∃ kept later, kept.length < (glyph.meant closing).length ∧
      undo closing waiting (glyph.written closing ++ text) = kept ++ undo closing later text := by
  rcases loses with ⟨backslash, quote⟩ | ⟨rfl, rfl⟩
  · obtain ⟨rest, rfl⟩ : ∃ rest, text = closing :: rest := by
      cases text with
      | nil => cases quote
      | cons c rest => exact ⟨rest, by rw [show c = closing by simpa using quote]⟩
    rcases backslash with rfl | rfl
    · exact ⟨[], waiting, Nat.one_pos, undo_backslash other⟩
    · refine ⟨['\\'], false, by simp [Glyph.meant, other.symm], ?_⟩
      have outer : undo closing waiting ('\\' :: '\\' :: closing :: rest) =
          '\\' :: undo closing false ('\\' :: closing :: rest) :=
        undo_char other.symm fun _ => by simpa using other.symm
      simp [Glyph.written, outer, undo_backslash other]
  · refine ⟨[], false, by simp [Glyph.meant], ?_⟩
    simp [Glyph.written, undo_backslash other, undo_quote other]

end Undoing

section Bare

variable {closing : Char} (other : closing ≠ '\\') {closed waiting : Bool} {glyph : Glyph} {glyphs : List Glyph}

/-- Only the last glyph of an open literal can lose its end. -/
theorem bare_cons (goesOn : closed = true ∨ glyphs ≠ []) :
    bare closing closed (glyph :: glyphs) = glyph.written closing ++ bare closing closed glyphs := by
  cases closed with
  | true => rfl
  | false =>
    obtain ⟨next, later, rfl⟩ := List.exists_cons_of_ne_nil (goesOn.resolve_left (by simp))
    have someLater : (next :: later).flatMap (Glyph.written closing) ≠ [] := by
      simp [next.written_ne_nil]
    simp only [bare, @List.flatMap_cons _ _ glyph, List.getLast?_append_of_ne_nil _ someLater,
      List.dropLast_append_of_ne_nil someLater]
    split <;> rfl

/-- The last glyph of an open literal is cut if it ends in a closing quote. -/
theorem bare_last (fits : .plain closing ≠ glyph) :
    bare closing false [glyph] =
      match glyph with
      | .plain c => [c]
      | .doubled => [closing]
      | .escaped c => if c = closing then ['\\'] else ['\\', c] := by
  cases glyph with
  | plain c =>
    have notQuote : c ≠ closing := fun quote => fits (by rw [quote])
    simp [bare, Glyph.written, notQuote]
  | doubled => simp [bare, Glyph.written]
  | escaped c => by_cases quote : c = closing <;> simp [bare, Glyph.written, quote]

include other

theorem begins_bare (fits : .plain closing ∉ glyphs) :
    begins (· == closing) (bare closing closed glyphs) ↔ glyphs.head? = some .doubled := by
  cases glyphs with
  | nil => simp [bare]
  | cons glyph glyphs =>
    have fitsHere := List.ne_of_not_mem_cons fits
    by_cases goesOn : closed = true ∨ glyphs ≠ []
    · rw [bare_cons goesOn, begins_append (glyph.written_ne_nil closing)]
      cases glyph with
      | plain c => simpa [Glyph.written] using Ne.symm fitsHere
      | doubled => simp [Glyph.written]
      | escaped c => simpa [Glyph.written] using other.symm
    · obtain ⟨rfl, rfl⟩ : closed = false ∧ glyphs = [] := by simpa using goesOn
      rw [bare_last fitsHere]
      cases glyph with
      | plain c => simpa using Ne.symm fitsHere
      | doubled => simp
      | escaped c => by_cases quote : c = closing <;> simp [quote, other.symm]

theorem undo_last (fits : .plain closing ≠ glyph) :
    undo closing waiting (bare closing false [glyph]) =
      match glyph with
      | .plain c => [c]
      | .doubled => if waiting then [] else [closing]
      | .escaped c => if c = closing then ['\\'] else ['\\', c] := by
  have alone : ∀ {c waiting}, c ≠ closing → undo closing waiting [c] = [c] := fun notQuote =>
    undo_char notQuote fun _ => rfl
  rw [bare_last fits]
  cases glyph with
  | plain c => exact alone fun quote => fits (by rw [quote])
  | doubled => exact undo_quote other
  | escaped c =>
    by_cases quote : c = closing
    · simpa [quote] using alone other.symm
    · have outer : undo closing waiting ['\\', c] = '\\' :: undo closing false [c] :=
        undo_char other.symm fun _ => by simpa using quote
      simpa [quote, alone quote] using outer

/-- Undoing never makes a text longer than what its glyphs stand for. -/
theorem length_undo_le (fits : .plain closing ∉ glyphs) :
    (undo closing waiting (bare closing closed glyphs)).length ≤ (glyphs.flatMap (Glyph.meant closing)).length := by
  induction glyphs generalizing waiting with
  | nil => simp [bare, undo, collapsePair, skipSeconds]
  | cons glyph glyphs ih =>
    have fitsHere := List.ne_of_not_mem_cons fits
    have fitsLater := List.not_mem_of_not_mem_cons fits
    by_cases goesOn : closed = true ∨ glyphs ≠ []
    · rw [bare_cons goesOn, List.flatMap_cons, List.length_append]
      by_cases loses : Loses closing waiting glyph (bare closing closed glyphs)
      · obtain ⟨kept, later, short, undone⟩ := undo_lost other loses
        have rest := @ih later fitsLater
        rw [undone, List.length_append]
        omega
      · rw [undo_glyph other fitsHere loses, List.length_append]
        exact Nat.add_le_add_left (ih fitsLater) _
    · obtain ⟨rfl, rfl⟩ : closed = false ∧ glyphs = [] := by simpa using goesOn
      rw [undo_last other fitsHere]
      cases glyph with
      | plain c => simp [Glyph.meant]
      | doubled => cases waiting <;> simp [Glyph.meant]
      | escaped c => by_cases quote : c = closing <;> simp [Glyph.meant, quote]

theorem undo_cons_ne (fits : .plain closing ∉ glyphs) (goesOn : closed = true ∨ glyphs ≠ [])
    (loses : Loses closing waiting glyph (bare closing closed glyphs)) :
    undo closing waiting (bare closing closed (glyph :: glyphs)) ≠
      (glyph :: glyphs).flatMap (Glyph.meant closing) := by
  obtain ⟨kept, later, short, undone⟩ := undo_lost other loses
  have rest : (undo closing later (bare closing closed glyphs)).length ≤ _ := length_undo_le other fits
  intro same
  rw [bare_cons goesOn, undone, List.flatMap_cons] at same
  have size := congrArg List.length same
  simp only [List.length_append] at size
  omega

/-- The last glyph of an open literal is lost if it is an escaped quote, and otherwise only to a quote that
waits. -/
theorem undo_last_iff (fits : .plain closing ≠ glyph) :
    undo closing waiting (bare closing false [glyph]) = glyph.meant closing ↔
      ¬ Misread closing false [glyph] ∧ (waiting = true → ¬ Merges closing false [glyph]) := by
  rw [undo_last other fits]
  have merges : Merges closing false [] := merges_nil.mpr rfl
  by_cases escaped : glyph = .escaped closing
  · subst glyph
    refine iff_of_false (by simp [Glyph.meant, other.symm]) fun kept => kept.1 ?_
    exact misread_cons.mpr (Or.inr (Or.inl ⟨rfl, merges⟩))
  · rw [misread_or_merges_cons (by simp) fun same => absurd same escaped]
    simp only [not_misread_nil, merges, not_true, not_false_eq_true, true_and, imp_false, Bool.not_eq_true]
    cases glyph with
    | plain c => simp [Glyph.meant, Glyph.waits]
    | doubled => cases waiting <;> simp [Glyph.meant, Glyph.waits]
    | escaped c =>
      have notQuote : c ≠ closing := by simpa using escaped
      simp [Glyph.meant, Glyph.waits, notQuote]

/-- Undoing a text gives what its glyphs stand for exactly if they are not misread, and if none of them is
taken together with a quote that waits. -/
theorem undo_bare_iff (fits : .plain closing ∉ glyphs) (present : closed = true ∨ waiting = false ∨ glyphs ≠ []) :
    undo closing waiting (bare closing closed glyphs) = glyphs.flatMap (Glyph.meant closing) ↔
      ¬ Misread closing closed glyphs ∧ (waiting = true → ¬ Merges closing closed glyphs) := by
  induction glyphs generalizing waiting with
  | nil =>
    have whole : undo closing waiting (bare closing closed []) = [] := by
      simp [bare, undo, collapsePair, skipSeconds]
    refine iff_of_true whole ⟨not_misread_nil, fun waits merges => ?_⟩
    simp [waits, merges_nil.mp merges] at present
  | cons glyph glyphs ih =>
    have fitsHere := List.ne_of_not_mem_cons fits
    have fitsLater := List.not_mem_of_not_mem_cons fits
    by_cases goesOn : closed = true ∨ glyphs ≠ []
    · have next : begins (· == closing) (bare closing closed glyphs) ↔ glyphs.head? = some .doubled :=
        begins_bare other fitsLater
      by_cases loses : Loses closing waiting glyph (bare closing closed glyphs)
      · -- what is lost at the first glyph never comes back, since undoing adds nothing later
        refine iff_of_false (undo_cons_ne other fitsLater goesOn loses) ?_
        rintro ⟨kept, apart⟩
        rcases loses with ⟨backslash, quote⟩ | ⟨rfl, waits⟩
        · exact kept (misread_cons.mpr (Or.inl ⟨backslash, next.mp quote⟩))
        · exact apart waits merges_escaped
      · rw [bare_cons goesOn, List.flatMap_cons, undo_glyph other fitsHere loses, List.append_cancel_left_eq,
          ih fitsLater (by tauto)]
        refine (misread_or_merges_cons (fun backslash quote => ?_) fun escaped => ?_).symm
        · exact loses (Or.inl ⟨backslash, next.mpr quote⟩)
        · by_contra waits
          exact loses (Or.inr ⟨escaped, by simpa using waits⟩)
    · obtain ⟨rfl, rfl⟩ : closed = false ∧ glyphs = [] := by simpa using goesOn
      rw [List.flatMap_singleton]
      exact undo_last_iff other fitsHere

end Bare

namespace QuoteStyle

/-- The glyphs of a literal after its opening quote. -/
def glyphs (style : QuoteStyle) (literal : List Char) : List Glyph :=
  style.scan (literal.drop style.opening.length)

/-- Whether a closing quote follows the glyphs of a literal. -/
def isClosed (style : QuoteStyle) (literal : List Char) : Bool :=
  literal == style.opening ++ ((style.glyphs literal).flatMap (Glyph.written style.closing) ++ [style.closing])

/-- What a literal says when it is read once from left to right. -/
def content (style : QuoteStyle) (literal : List Char) : List Char :=
  (style.glyphs literal).flatMap (Glyph.meant style.closing)

theorem unquote_opening (style : QuoteStyle) (body : List Char) :
    unquote (style.opening ++ body) =
      undo style.closing false (if body.getLast? = some style.closing then body.dropLast else body) := by
  unfold undo
  rw [← collapsePair_self]
  cases style <;> simp [unquote, opening, closing] <;> rfl

variable {style : QuoteStyle} {literal : List Char}

/-- A literal is its opening quote, its glyphs and, if it is closed, its closing quote. -/
theorem literal_eq (whole : style.extent? literal = some literal.length) :
    .plain style.closing ∉ style.glyphs literal ∧
      literal = style.opening ++ ((style.glyphs literal).flatMap (Glyph.written style.closing) ++
        if style.isClosed literal then [style.closing] else []) := by
  unfold extent? at whole
  split at whole
  case isFalse => cases whole
  rename_i opens
  obtain ⟨body, rfl⟩ := List.isPrefixOf_iff_prefix.mp opens
  have inside : style.glyphs (style.opening ++ body) = style.scan body := by rw [glyphs, List.drop_left]
  rw [List.drop_left, Option.some.injEq, List.length_append, Nat.add_left_cancel_iff] at whole
  have found := @scans_of_literalBody style [] body (by rwa [List.append_nil])
  rw [List.append_nil] at found
  rw [inside, List.append_cancel_left_eq]
  rcases found with ⟨_, _, _, scans⟩ | ⟨_, scans⟩
  · have closed : style.isClosed (style.opening ++ body) := by
      rw [isClosed, inside, beq_iff_eq, List.append_cancel_left_eq]
      exact scans.text_eq
    rw [closed]
    exact ⟨scans.closing_not_plain, scans.text_eq⟩
  · have split := scans.text_eq
    have opened : style.isClosed (style.opening ++ body) = false := by
      rw [isClosed, inside, beq_eq_false_iff_ne, ne_eq, List.append_cancel_left_eq]
      intro closed
      have size := congrArg List.length (split.symm.trans closed)
      simp at size
    rw [opened]
    exact ⟨scans.closing_not_plain, split⟩

theorem unquote_eq_undo (whole : style.extent? literal = some literal.length) :
    unquote literal =
      undo style.closing false (bare style.closing (style.isClosed literal) (style.glyphs literal)) := by
  obtain ⟨_, split⟩ := literal_eq whole
  conv_lhs => rw [split, unquote_opening]
  cases style.isClosed literal <;> simp [bare]

/-- Taking the quotes off a literal gives what the literal says, exactly if no glyphs of it are misread. -/
theorem unquote_eq_content_iff (style : QuoteStyle) {literal : List Char}
    (whole : style.extent? literal = some literal.length) :
    unquote literal = style.content literal ↔
      ¬ Misread style.closing (style.isClosed literal) (style.glyphs literal) := by
  rw [unquote_eq_undo whole, content,
    undo_bare_iff style.closing_ne_backslash (literal_eq whole).1 (Or.inr (Or.inl rfl))]
  simp

/-- A doubled and an escaped quote are told apart where something stands between them. -/
theorem unquote_eq_content_iff_mixed :
    let literal := "'a''b\\'c\\d'".toList
    QuoteStyle.single.extent? literal = some literal.length ∧
      QuoteStyle.single.content literal = "a'b'c\\d".toList ∧
      ¬ Misread '\x27' true (QuoteStyle.single.glyphs literal) := by
  intro literal
  have whole : QuoteStyle.single.extent? literal = some literal.length := by decide
  exact ⟨whole, by decide, (unquote_eq_content_iff .single whole).mp (by decide)⟩

/-- A backslash is lost in brackets, where it escapes nothing. Of two escaped quotes in a row one is lost, and the
escaped quote at the end of an open literal is taken for the closing one. -/
theorem not_unquote_eq_content :
    let bracket := "[a\\]]b]".toList
    let merged := "'\\'\\''".toList
    let opened := "'abc\\'".toList
    (QuoteStyle.bracket.extent? bracket = some bracket.length ∧
        unquote bracket = "a]b".toList ∧ QuoteStyle.bracket.content bracket = "a\\]b".toList) ∧
      (QuoteStyle.single.extent? merged = some merged.length ∧
        unquote merged = "'".toList ∧ QuoteStyle.single.content merged = "''".toList) ∧
      QuoteStyle.single.extent? opened = some opened.length ∧
        unquote opened = "abc\\".toList ∧ QuoteStyle.single.content opened = "abc'".toList := by
  decide

end QuoteStyle

end QueryLayout
