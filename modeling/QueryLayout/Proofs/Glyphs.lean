import QueryLayout.Proofs.Quoting

namespace QueryLayout

/-- What a reader takes from a quoted text in one step: a character that stands for itself, a doubled
closing quote, or a backslash with the character that it takes along. -/
inductive Glyph where
  | plain (c : Char)
  | doubled
  | escaped (c : Char)
deriving DecidableEq, Repr

def Glyph.written (closing : Char) : Glyph → List Char
  | .plain c => [c]
  | .doubled => [closing, closing]
  | .escaped c => ['\\', c]

/-- A doubled or escaped closing quote stands for one. Before any other character a backslash stays. -/
def Glyph.meant (closing : Char) : Glyph → List Char
  | .plain c => [c]
  | .doubled => [closing]
  | .escaped c => if c = closing then [closing] else ['\\', c]

namespace QuoteStyle

/-- A reader steps over the first glyph of a text. It passes a closing quote only together with a second
one, and where backslashes escape, only one at the very end of a text stands alone. -/
inductive Steps (style : QuoteStyle) : Glyph → List Char → List Char → Prop
  | plain {c rest} : c ≠ style.closing → (style.escapes → c = '\\' → rest = []) →
      Steps style (.plain c) (c :: rest) rest
  | doubled {rest} : Steps style .doubled (style.closing :: style.closing :: rest) rest
  | escaped {c rest} : style.escapes → Steps style (.escaped c) ('\\' :: c :: rest) rest

/-- A reader goes through a quoted text from left to right until only a rest of it is left. -/
inductive Scans (style : QuoteStyle) : List Char → List Glyph → List Char → Prop
  | here {text} : Scans style text [] text
  | step {glyph text rest glyphs later} : style.Steps glyph text rest → Scans style rest glyphs later →
      Scans style text (glyph :: glyphs) later

/-- A reader cannot go on. -/
def Stops (style : QuoteStyle) (text : List Char) : Prop :=
  ∀ glyph rest, ¬ style.Steps glyph text rest

/-- The glyphs of a quoted text up to the closing quote, or all of them where there is none. -/
def scan (style : QuoteStyle) : List Char → List Glyph
  | [] => []
  | [c] => if c = style.closing then [] else [.plain c]
  | c :: next :: rest =>
    if c = style.closing then
      if next = style.closing then .doubled :: scan style rest else []
    else if style.escapes && c == '\\' then .escaped next :: scan style rest
    else .plain c :: scan style (next :: rest)

variable {style : QuoteStyle} {glyph other : Glyph} {glyphs others : List Glyph} {text rest later : List Char}

theorem closing_ne_backslash (style : QuoteStyle) : style.closing ≠ '\\' := by
  cases style <;> decide

/-- A reader stops at the end of a text and before a closing quote that is not doubled. -/
theorem stops_iff :
    style.Stops text ↔ text = [] ∨ ∃ later, text = style.closing :: later ∧
      begins (· == style.closing) later = false := by
  constructor
  · intro stops
    cases text with
    | nil => exact Or.inl rfl
    | cons c rest =>
      by_cases closes : c = style.closing
      · subst c
        refine Or.inr ⟨rest, rfl, ?_⟩
        cases rest with
        | nil => rfl
        | cons d rest =>
          by_contra doubled
          obtain rfl : d = style.closing := by simpa using doubled
          exact stops _ _ .doubled
      · exfalso
        by_cases escape : style.escapes ∧ c = '\\'
        · obtain ⟨escapes, rfl⟩ := escape
          cases rest with
          | nil => exact stops _ _ (.plain closes fun _ _ => rfl)
          | cons d rest => exact stops _ _ (.escaped escapes)
        · exact stops _ _ (.plain closes fun escapes backslash => absurd ⟨escapes, backslash⟩ escape)
  · rintro (rfl | ⟨later, rfl, single⟩) glyph rest steps
    · cases steps
    · generalize atClosing : style.closing :: later = text at steps
      cases steps with
      | plain other => exact other (List.cons.inj atClosing).1.symm
      | doubled =>
        rw [(List.cons.inj atClosing).2] at single
        simp at single
      | escaped => exact style.closing_ne_backslash (List.cons.inj atClosing).1

theorem Steps.unique (steps : style.Steps glyph text rest) (also : style.Steps other text later) :
    glyph = other ∧ rest = later := by
  have apart := style.closing_ne_backslash
  generalize same : text = here at also
  cases steps <;> cases also <;> grind

/-- A reader has one way of going through a text. -/
theorem Scans.unique (scans : style.Scans text glyphs rest) (stops : style.Stops rest)
    (also : style.Scans text others later) (stopsToo : style.Stops later) : glyphs = others ∧ rest = later := by
  induction scans generalizing others with
  | here =>
    cases also with
    | here => exact ⟨rfl, rfl⟩
    | step steps => exact absurd steps (stops _ _)
  | step steps _ ih =>
    cases also with
    | here => exact absurd steps (stopsToo _ _)
    | step stepsToo scansToo =>
      obtain ⟨rfl, rfl⟩ := steps.unique stepsToo
      obtain ⟨rfl, rfl⟩ := ih stops scansToo
      exact ⟨rfl, rfl⟩

theorem Steps.text_eq (steps : style.Steps glyph text rest) : text = glyph.written style.closing ++ rest := by
  cases steps <;> rfl

theorem Scans.text_eq (scans : style.Scans text glyphs rest) :
    text = glyphs.flatMap (Glyph.written style.closing) ++ rest := by
  induction scans with
  | here => rfl
  | step steps _ ih => rw [List.flatMap_cons, List.append_assoc, ← ih, ← steps.text_eq]

theorem Scans.closing_not_plain (scans : style.Scans text glyphs rest) : .plain style.closing ∉ glyphs := by
  induction scans with
  | here => exact List.not_mem_nil
  | step steps _ ih =>
    refine List.not_mem_cons_of_ne_of_not_mem ?_ ih
    rintro rfl
    cases steps with
    | plain other => exact other rfl

/-- A reader goes on until it has to stop. -/
theorem exists_scans (style : QuoteStyle) (text : List Char) :
    ∃ rest, style.Scans text (style.scan text) rest ∧ style.Stops rest := by
  fun_induction scan style text with
  | case1 => exact ⟨[], .here, stops_iff.mpr (Or.inl rfl)⟩
  | case2 => exact ⟨[style.closing], .here, stops_iff.mpr (Or.inr ⟨[], rfl, rfl⟩)⟩
  | case3 c other => exact ⟨[], .step (.plain other fun _ _ => rfl) .here, stops_iff.mpr (Or.inl rfl)⟩
  | case4 rest ih =>
    obtain ⟨later, scans, stops⟩ := ih
    exact ⟨later, .step .doubled scans, stops⟩
  | case5 next rest single =>
    exact ⟨_, .here, stops_iff.mpr (Or.inr ⟨_, rfl, by simpa using single⟩)⟩
  | case6 c next rest other escape ih =>
    obtain ⟨later, scans, stops⟩ := ih
    obtain ⟨escapes, rfl⟩ : style.escapes = true ∧ c = '\\' := by simpa using escape
    exact ⟨later, .step (.escaped escapes) scans, stops⟩
  | case7 c next rest other plain ih =>
    obtain ⟨later, scans, stops⟩ := ih
    refine ⟨later, .step (.plain other fun escapes backslash => ?_) scans, stops⟩
    simp [escapes, backslash] at plain

theorem Steps.literalBody_eq (steps : style.Steps glyph text rest) :
    literalBody style.closing style.escapes text =
      (glyph.written style.closing).length + literalBody style.closing style.escapes rest := by
  cases steps with
  | @plain c _ other alone =>
    cases rest with
    | nil => rfl
    | cons next rest =>
      have plain : (style.escapes && c == '\\') = false := by
        by_contra escape
        obtain ⟨escapes, backslash⟩ : style.escapes = true ∧ c = '\\' := by simpa using escape
        cases alone escapes backslash
      simp [literalBody, other, plain, Glyph.written]
  | doubled => simp [literalBody, Glyph.written]
  | escaped escapes => simp [literalBody, style.closing_ne_backslash.symm, escapes, Glyph.written]

theorem Scans.literalBody_eq (scans : style.Scans text glyphs rest) :
    literalBody style.closing style.escapes text =
      (glyphs.flatMap (Glyph.written style.closing)).length + literalBody style.closing style.escapes rest := by
  induction scans with
  | here => simp
  | step steps _ ih => rw [steps.literalBody_eq, ih, List.flatMap_cons, List.length_append, Nat.add_assoc]

theorem literalBody_closing (single : begins (· == style.closing) later = false) :
    literalBody style.closing style.escapes (style.closing :: later) = 1 := by
  cases later with
  | nil => rfl
  | cons c later =>
    have differs : c ≠ style.closing := by simpa using single
    simp [literalBody, differs]

/-- Where a literal ends, a reader stops: it has come to the closing quote there or to the end of the text. -/
theorem scans_of_literalBody {body : List Char}
    (whole : literalBody style.closing style.escapes (body ++ rest) = body.length) :
    (∃ front, body = front ++ [style.closing] ∧ begins (· == style.closing) rest = false ∧
        style.Scans (body ++ rest) (style.scan (body ++ rest)) (style.closing :: rest)) ∨
      (rest = [] ∧ style.Scans body (style.scan body) []) := by
  obtain ⟨stop, scans, stops⟩ := style.exists_scans (body ++ rest)
  have split := scans.text_eq
  rw [scans.literalBody_eq] at whole
  rcases stops_iff.mp stops with rfl | ⟨later, rfl, single⟩
  · have size := congrArg List.length split
    simp only [literalBody, List.append_nil, List.length_append] at whole size
    obtain rfl : rest = [] := List.length_eq_zero_iff.mp (by omega)
    rw [List.append_nil] at scans
    exact Or.inr ⟨rfl, scans⟩
  · rw [literalBody_closing single] at whole
    rw [← List.singleton_append, ← List.append_assoc] at split
    obtain ⟨atEnd, rfl⟩ := List.append_inj split (by simp [← whole])
    exact Or.inl ⟨_, atEnd, single, scans⟩

end QuoteStyle

end QueryLayout
