import QueryLayout.Proofs.Occurrence

namespace QueryLayout

/-- Two spellings of one visible character. -/
structure Respells (c d : Char) : Prop where
  same : foldCase c = foldCase d
  word : isWordChar c = isWordChar d
  visible : isBlank c = false
  shown : isBlank d = false

/-- A text and another one that shows its words in the same order as far as a reserved word could
reach into them. The two agree up to case on each word of the second text, and where they no longer
do, no reserved word goes on in the second. -/
inductive Tracks (hyphens : Bool) : List Char → List Char → Prop
  | stop {text shown} : begins isWordChar shown = false → Tracks hyphens text shown
  | last {word text spelled shown} : List.Forall₂ Respells word spelled →
      begins isWordChar text = false →
      begins (fun c => isWordChar c || (hyphens && c == '-')) shown = false →
      begins isWordChar (shown.dropWhile isBlank) = false →
      Tracks hyphens (word ++ text) (spelled ++ shown)
  | more {word gap text spelled space shown} : List.Forall₂ Respells word spelled →
      IsGap gap → gap ≠ [] → begins isBlank text = false →
      IsGap space → space ≠ [] → begins isBlank shown = false →
      Tracks hyphens text shown →
      Tracks hyphens (word ++ gap ++ text) (spelled ++ space ++ shown)

theorem forall₂_respells {part word spelled : List Char} (respelled : List.Forall₂ Respells word spelled)
    (pairs : Spells part spelled) :
    Spells part word := by
  induction respelled generalizing part with
  | nil => exact pairs
  | cons first _ ih =>
    cases pairs with
    | cons same pairs =>
      refine .cons ?_ (ih pairs)
      simpa [sameFolded, first.same] using same

/-- A part of a reserved word that begins where a word begins does not reach past its end. -/
theorem part_within {hyphens : Bool} {part spelled word later shown : List Char}
    (entry : isEntryPart hyphens part)
    (pairs : Spells part spelled)
    (split : word ++ shown = spelled ++ later)
    (ends : begins (fun c => isWordChar c || (hyphens && c == '-')) shown = false) :
    ∃ tail, word = spelled ++ tail ∧ later = tail ++ shown := by
  rcases List.append_eq_append_iff.mp split with ⟨extra, rfl, rfl⟩ | ⟨tail, rfl, rfl⟩
  · cases extra with
    | nil => exact ⟨[], by simp, by simp⟩
    | cons c extra =>
      have sort := isEntryPart_chars entry pairs c (by simp)
      rw [List.cons_append, begins_cons, sort.2.2] at ends
      cases ends
  · exact ⟨tail, rfl, rfl⟩

/-- No part of a reserved word goes on where blanks begin. -/
theorem begins_gap (hyphens : Bool) {gap : List Char} (isGap : IsGap gap) (someGap : gap ≠ []) (rest : List Char) :
    begins (fun c => isWordChar c || (hyphens && c == '-')) (gap ++ rest) = false := by
  rw [begins_append someGap]
  refine begins_of_isGap isGap fun c blank => ?_
  have nonword := isWordChar_eq_false_of_isBlank blank
  have other : (c == '-') = false := by
    by_contra hyphen
    rw [show c = '-' by simpa using hyphen] at blank
    exact absurd blank (by decide)
  simp [nonword, other]

theorem begins_respells {word spelled : List Char} (respelled : List.Forall₂ Respells word spelled)
    {text shown : List Char} (same : begins isWordChar text = begins isWordChar shown) :
    begins isWordChar (word ++ text) = begins isWordChar (spelled ++ shown) := by
  cases respelled with
  | nil => exact same
  | cons first _ => exact first.word

/-- Two ways of cutting a text into blanks and the rest are the same way. -/
theorem gap_append_inj {gap space text shown : List Char} (split : gap ++ text = space ++ shown)
    (isGap : IsGap gap) (isSpace : IsGap space) (visible : begins isBlank text = false)
    (alsoVisible : begins isBlank shown = false) : gap = space ∧ text = shown := by
  have run := blankRun_append isGap visible
  rw [split, blankRun_append isSpace alsoVisible] at run
  exact List.append_inj split run.symm

/-- The last part of a reserved word, found in the second of two words that agree up to case. -/
theorem occurs_last {hyphens : Bool} {word written part spelled text shown later : List Char}
    (respelled : List.Forall₂ Respells word written) (entry : isEntryPart hyphens part)
    (pairs : Spells part spelled)
    (split : written ++ shown = spelled ++ later) (ends : begins isWordChar later = false)
    (wordEnds : begins isWordChar text = false)
    (shownEnds : begins (fun c => isWordChar c || (hyphens && c == '-')) shown = false) :
    ∃ raw rest, word ++ text = raw ++ rest ∧ Occurs [part] raw ∧ begins isWordChar rest = false := by
  obtain ⟨tail, rfl, rfl⟩ := part_within entry pairs split shownEnds
  have shownWord : begins isWordChar shown = false := by
    cases shown with
    | nil => rfl
    | cons c shown => exact (Bool.or_eq_false_iff.mp shownEnds).1
  have front := List.forall₂_take_append _ _ _ respelled
  have back := List.forall₂_drop_append _ _ _ respelled
  refine ⟨word.take spelled.length, word.drop spelled.length ++ text, ?_, ?_, ?_⟩
  · rw [← List.append_assoc, List.take_append_drop]
  · exact .last (forall₂_respells front pairs)
  · rw [begins_respells back (wordEnds.trans shownWord.symm), ends]

/-- A part of a reserved word that another one follows covers the whole of a word. -/
theorem part_covers {hyphens : Bool} {word written part spelled shown gap later : List Char}
    (respelled : List.Forall₂ Respells word written) (entry : isEntryPart hyphens part)
    (pairs : Spells part spelled)
    (isGap : IsGap gap) (someGap : gap ≠ []) (split : written ++ shown = spelled ++ gap ++ later)
    (shownEnds : begins (fun c => isWordChar c || (hyphens && c == '-')) shown = false) :
    written = spelled ∧ shown = gap ++ later := by
  rw [List.append_assoc] at split
  obtain ⟨tail, rfl, rest⟩ := part_within entry pairs split shownEnds
  cases tail with
  | nil => exact ⟨by simp, rest.symm⟩
  | cons c tail =>
    obtain ⟨b, blanks, rfl⟩ := List.exists_cons_of_ne_nil someGap
    have back := List.forall₂_drop_append _ _ _ respelled
    have same : b = c := (List.cons.inj rest).1
    have blank := (isGap_cons.mp isGap).1
    obtain ⟨_, _, first, _, _⟩ := List.forall₂_cons_right_iff.mp back
    rw [same, first.shown] at blank
    cases blank

/-- A reserved word that stands in the second text stands in the first. -/
theorem Tracks.occurs {hyphens : Bool} {text shown : List Char} (tracks : Tracks hyphens text shown)
    {phrase : Phrase} (entry : phrase.isEntry hyphens) {spelled later : List Char}
    (split : shown = spelled ++ later) (occurs : Occurs phrase spelled)
    (ends : begins isWordChar later = false) :
    ∃ raw rest, text = raw ++ rest ∧ Occurs phrase raw ∧ begins isWordChar rest = false := by
  induction tracks generalizing phrase spelled with
  | stop nonword =>
    obtain ⟨c, rest, rfl, word, _⟩ := occurs.first entry
    rw [split, List.cons_append, begins_cons, word] at nonword
    cases nonword
  | @last word text written shown respelled wordEnds shownEnds alone =>
    cases occurs with
    | last pairs =>
      exact occurs_last respelled (Phrase.isEntry_singleton entry) pairs split ends wordEnds shownEnds
    | @more part next rest front gap back pairs isGap someGap occurs =>
      -- the next part would have to begin where no word begins
      rw [List.append_assoc] at split
      obtain ⟨firstPart, tail⟩ := Phrase.isEntry_tail entry
      obtain ⟨rfl, rfl⟩ := part_covers respelled firstPart pairs isGap someGap split shownEnds
      obtain ⟨c, visible, rfl, word, _⟩ := occurs.first tail
      rw [List.dropWhile_append_of_pos isGap, List.cons_append,
        List.dropWhile_cons_of_neg (by simp [isBlank_eq_false_of_isWordChar word]), begins_cons, word] at alone
      cases alone
  | @more word gap text written space shown respelled isGap someGap visible isSpace someSpace shows tracks ih =>
    rw [List.append_assoc] at split
    have shownEnds := begins_gap hyphens isSpace someSpace shown
    cases occurs with
    | last pairs =>
      have wordEnds : begins isWordChar (gap ++ text) = false := by
        rw [begins_append someGap]
        exact begins_of_isGap isGap fun c => isWordChar_eq_false_of_isBlank
      rw [List.append_assoc]
      exact occurs_last respelled (Phrase.isEntry_singleton entry) pairs split ends wordEnds shownEnds
    | @more part next rest front blanks back pairs isBlanks someBlanks occurs =>
      obtain ⟨firstPart, tail⟩ := Phrase.isEntry_tail entry
      rw [List.append_assoc] at split
      obtain ⟨rfl, covered⟩ :=
        part_covers respelled firstPart pairs isBlanks someBlanks split shownEnds
      obtain ⟨c, hidden, backSplit, letter, _⟩ := occurs.first tail
      have showsBack : begins isBlank (back ++ later) = false := by
        rw [backSplit]
        exact isBlank_eq_false_of_isWordChar letter
      obtain ⟨rfl, rfl⟩ := gap_append_inj covered isSpace isBlanks shows showsBack
      obtain ⟨raw, rest, rfl, found, wordEnds⟩ := ih tail rfl occurs
      exact ⟨word ++ gap ++ raw, rest, by simp, .more (forall₂_respells respelled pairs) isGap someGap found,
        wordEnds⟩

/-- What follows a word in a text and in another one that tracks it: no part of a reserved word in
the second text, or blanks in both and then texts of which the second tracks the first. -/
def Follows (hyphens : Bool) (text shown : List Char) : Prop :=
  (begins isWordChar text = false ∧
    begins (fun c => isWordChar c || (hyphens && c == '-')) shown = false ∧
    begins isWordChar (shown.dropWhile isBlank) = false) ∨
  ∃ gap later space after, text = gap ++ later ∧ shown = space ++ after ∧
    IsGap gap ∧ gap ≠ [] ∧ begins isBlank later = false ∧
    IsGap space ∧ space ≠ [] ∧ begins isBlank after = false ∧ Tracks hyphens later after

theorem Follows.tracks {hyphens : Bool} {text shown word spelled : List Char} (follows : Follows hyphens text shown)
    (respelled : List.Forall₂ Respells word spelled) : Tracks hyphens (word ++ text) (spelled ++ shown) := by
  rcases follows with ⟨ends, shownEnds, alone⟩ |
    ⟨gap, later, space, after, rfl, rfl, isGap, someGap, visible, isSpace, someSpace, shows, tracks⟩
  · exact .last respelled ends shownEnds alone
  · rw [← List.append_assoc, ← List.append_assoc]
    exact .more respelled isGap someGap visible isSpace someSpace shows tracks

/-- A spelling of a reserved word, and another one in upper case with its own blanks. -/
inductive Raised : Phrase → List Char → List Char → Prop
  | last {part spelled} : Spells part spelled → Raised [part] spelled (spelled.map raiseCase)
  | more {part next parts spelled gap space later after} : Spells part spelled →
      IsGap gap → gap ≠ [] → IsGap space → space ≠ [] → Raised (next :: parts) later after →
      Raised (part :: next :: parts) (spelled ++ gap ++ later) (spelled.map raiseCase ++ space ++ after)

theorem upperCase_append (first second : List Char) :
    upperCase (first ++ second) = upperCase first ++ upperCase second :=
  List.flatMap_append

theorem upperCase_spelled {hyphens : Bool} {part spelled : List Char} (entry : isEntryPart hyphens part)
    (spells : Spells part spelled) : upperCase spelled = spelled.map raiseCase := by
  have chars := isEntryPart_chars entry spells
  clear spells
  induction spelled with
  | nil => rfl
  | cons c rest ih =>
    have raised := (chars c List.mem_cons_self).1.raiseCase_class.1
    have later := ih fun d member => chars d (List.mem_cons_of_mem _ member)
    simp only [upperCase, List.flatMap_cons, List.map_cons, raised, List.singleton_append] at later ⊢
    rw [later]

/-- A blank has no case. -/
theorem upperCase_gap {gap : List Char} (blank : IsGap gap) : upperCase gap = gap := by
  have every : ∀ range ∈ blankRanges, ∀ code ∈ List.range' range.first (range.last + 1 - range.first),
      upperChar (Char.ofNat code) = [Char.ofNat code] := by decide +kernel
  induction gap with
  | nil => rfl
  | cons c rest ih =>
    obtain ⟨blankHead, blankRest⟩ := isGap_cons.mp blank
    obtain ⟨range, member, lower, upper⟩ := CodeRange.exists_of_covers blankHead
    have same := every range member c.toNat (by rw [List.mem_range'_1]; omega)
    rw [Char.ofNat_toNat] at same
    have later := ih blankRest
    simp only [upperCase, List.flatMap_cons, same, List.singleton_append] at later ⊢
    rw [later]

theorem Occurs.raised_upperCase {hyphens : Bool} {phrase : Phrase} {raw : List Char} (occurs : Occurs phrase raw)
    (entry : phrase.isEntry hyphens) : Raised phrase raw (upperCase raw) := by
  induction occurs with
  | last spells =>
    rw [upperCase_spelled (Phrase.isEntry_singleton entry) spells]
    exact .last spells
  | more spells isGap someGap _ ih =>
    obtain ⟨first, tail⟩ := Phrase.isEntry_tail entry
    rw [upperCase_append, upperCase_append, upperCase_gap isGap, upperCase_spelled first spells]
    exact .more spells isGap someGap isGap someGap (ih tail)

theorem squeezeAfter_visible {text : List Char} (visible : ∀ c ∈ text, isBlank c = false) (some : text ≠ [])
    (afterBlank : Bool) (rest : List Char) :
    squeezeAfter afterBlank (text ++ rest) = text ++ squeezeAfter false rest := by
  induction text generalizing afterBlank with
  | nil => exact absurd rfl some
  | cons c text ih =>
    simp only [List.cons_append, squeezeAfter, visible c List.mem_cons_self, Bool.false_eq_true, if_false]
    by_cases empty : text = []
    · simp [empty]
    · rw [ih (fun d member => visible d (List.mem_cons_of_mem _ member)) empty false]

theorem squeezeAfter_gap {gap : List Char} (blank : IsGap gap) (rest : List Char) :
    squeezeAfter true (gap ++ rest) = squeezeAfter true rest := by
  induction gap with
  | nil => rfl
  | cons c gap ih =>
    obtain ⟨blankHead, blankRest⟩ := isGap_cons.mp blank
    simp only [List.cons_append, squeezeAfter, blankHead, if_true]
    exact ih blankRest

theorem squeezeAfter_begins {text : List Char} (visible : begins isBlank text = false) (afterBlank : Bool) :
    squeezeAfter afterBlank text = squeeze text := by
  cases text with
  | nil => rfl
  | cons c text => simp only [squeeze, squeezeAfter, show isBlank c = false from visible]; rfl

theorem squeeze_gap {gap rest : List Char} (blank : IsGap gap) (some : gap ≠ [])
    (visible : begins isBlank rest = false) : squeeze (gap ++ rest) = ' ' :: squeeze rest := by
  obtain ⟨c, gap, rfl⟩ := List.exists_cons_of_ne_nil some
  obtain ⟨blankHead, blankRest⟩ := isGap_cons.mp blank
  simp only [squeeze, List.cons_append, squeezeAfter, blankHead, if_true, Bool.false_eq_true, if_false]
  rw [squeezeAfter_gap blankRest, squeezeAfter_begins visible]
  rfl

theorem raiseCase_spelled {hyphens : Bool} {part spelled : List Char} (entry : isEntryPart hyphens part)
    (spells : Spells part spelled) :
    List.Forall₂ Respells spelled (spelled.map raiseCase) ∧ Spells part (spelled.map raiseCase) := by
  have chars := isEntryPart_chars entry spells
  clear entry
  induction spells with
  | nil => exact ⟨.nil, .nil⟩
  | @cons p c part spelled same _ ih =>
    obtain ⟨respelled, spells⟩ := ih fun d member => chars d (List.mem_cons_of_mem _ member)
    obtain ⟨cased, visible, _⟩ := chars c List.mem_cons_self
    obtain ⟨_, _, fold, word, blank⟩ := cased.raiseCase_class
    refine ⟨.cons ⟨fold.symm, word.symm, visible, blank.trans visible⟩ respelled, .cons ?_ spells⟩
    simpa [sameFolded, fold] using same

theorem Raised.occurs {hyphens : Bool} {phrase : Phrase} {raw shown : List Char} (raised : Raised phrase raw shown)
    (entry : phrase.isEntry hyphens) : Occurs phrase raw ∧ Occurs phrase shown := by
  induction raised with
  | last spells => exact ⟨.last spells, .last (raiseCase_spelled (Phrase.isEntry_singleton entry) spells).2⟩
  | more spells isGap someGap isSpace someSpace _ ih =>
    obtain ⟨first, tail⟩ := Phrase.isEntry_tail entry
    obtain ⟨before, after⟩ := ih tail
    exact ⟨.more spells isGap someGap before,
      .more (raiseCase_spelled first spells).2 isSpace someSpace after⟩

theorem Raised.squeeze {hyphens : Bool} {phrase : Phrase} {raw shown : List Char}
    (raised : Raised phrase raw shown) (entry : phrase.isEntry hyphens) :
    Raised phrase raw (squeeze shown) := by
  induction raised with
  | @last part spelled spells =>
    have first := Phrase.isEntry_singleton entry
    obtain ⟨c, rest, atHead, _⟩ := isEntryPart_begins first (raiseCase_spelled first spells).2
    have whole := squeezeAfter_visible
      (fun d member => (isEntryPart_chars first (raiseCase_spelled first spells).2 d member).2.1)
      (by simp [atHead]) false []
    simp only [List.append_nil, squeezeAfter] at whole
    rw [QueryLayout.squeeze, whole]
    exact .last spells
  | @more part next parts spelled gap space later after spells isGap someGap isSpace someSpace raised ih =>
    obtain ⟨first, tail⟩ := Phrase.isEntry_tail entry
    obtain ⟨c, rest, atHead, _⟩ := isEntryPart_begins first (raiseCase_spelled first spells).2
    obtain ⟨d, back, atBack, letter, _⟩ := (raised.occurs tail).2.first tail
    have visible : begins isBlank after = false := by
      rw [atBack]
      exact isBlank_eq_false_of_isWordChar letter
    have whole := squeezeAfter_visible
      (fun d member => (isEntryPart_chars first (raiseCase_spelled first spells).2 d member).2.1)
      (by simp [atHead]) false (space ++ after)
    have oneSpace : IsGap [' '] := isGap_cons.mpr ⟨by decide, isGap_nil⟩
    rw [QueryLayout.squeeze, List.append_assoc (spelled.map raiseCase), whole, ← QueryLayout.squeeze,
      squeeze_gap isSpace someSpace visible]
    have placed := Raised.more spells isGap someGap oneSpace (by simp) (ih tail)
    simpa using placed

/-- A reserved word in upper case is tracked by the way it was written. -/
theorem Raised.tracks {hyphens : Bool} {phrase : Phrase} {raw shown text after : List Char}
    (raised : Raised phrase raw shown) (entry : phrase.isEntry hyphens) (follows : Follows hyphens text after) :
    Tracks hyphens (raw ++ text) (shown ++ after) := by
  induction raised with
  | last spells =>
    exact follows.tracks (raiseCase_spelled (Phrase.isEntry_singleton entry) spells).1
  | @more part next parts spelled gap space later back spells isGap someGap isSpace someSpace raised ih =>
    obtain ⟨first, tail⟩ := Phrase.isEntry_tail entry
    obtain ⟨inRaw, inShown⟩ := raised.occurs tail
    obtain ⟨c, _, atRaw, letter, _⟩ := inRaw.first tail
    obtain ⟨d, _, atShown, capital, _⟩ := inShown.first tail
    rw [List.append_assoc _ later, List.append_assoc _ back]
    refine .more (raiseCase_spelled first spells).1 isGap someGap ?_ isSpace someSpace ?_ (ih tail)
    · rw [atRaw]
      exact isBlank_eq_false_of_isWordChar letter
    · rw [atShown]
      exact isBlank_eq_false_of_isWordChar capital

end QueryLayout
