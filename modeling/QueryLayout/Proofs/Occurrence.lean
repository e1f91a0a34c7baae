import Mathlib.Data.List.Forall2
import Mathlib.Data.List.TakeWhile
import QueryLayout.Proofs.CharClass
import QueryLayout.Proofs.Extent

namespace QueryLayout

def isCapital (c : Char) : Bool :=
  'A' ≤ c && c ≤ 'Z'

/-- A character that reserved words are spelled with. -/
def isEntryChar (hyphens : Bool) (c : Char) : Bool :=
  isCapital c || isAsciiDigit c || c == '_' || (hyphens && c == '-')

/-- A part of a reserved word: at least two characters, the first a capital and the last no hyphen. -/
def isEntryPart (hyphens : Bool) (part : List Char) : Bool :=
  part.all (isEntryChar hyphens) && begins isCapital part && part.getLast? != some '-' && 1 < part.length

/-- A reserved word in its parts. -/
def Phrase.isEntry (hyphens : Bool) (phrase : Phrase) : Bool :=
  !phrase.isEmpty && phrase.all (isEntryPart hyphens)

theorem lt_of_isEntryChar {hyphens : Bool} {c : Char} (entry : isEntryChar hyphens c) : c.toNat < 128 := by
  simp only [isEntryChar, isCapital, Bool.or_eq_true, Bool.and_eq_true, decide_eq_true_eq, Char.le_def,
    UInt32.le_iff_toNat_le, beq_iff_eq] at entry
  rcases entry with ((⟨_, capital⟩ | digit) | rfl) | ⟨_, rfl⟩
  · exact Nat.lt_of_le_of_lt capital (by decide)
  · exact lt_of_isAsciiDigit digit
  all_goals decide

/-- Whatever the case it is written in, a character of a reserved word is a word character or a
hyphen, and never a blank. -/
theorem entryChar_class {hyphens : Bool} {p c : Char} (entry : isEntryChar hyphens p)
    (same : foldCase p = foldCase c) :
    IsAsciiCased c ∧ isBlank c = false ∧ (isWordChar c || (hyphens && c == '-')) ∧
      (isCapital p → isWordChar c ∧ isAsciiDigit c = false) ∧ (p ≠ '-' → isWordChar c) := by
  have check : ∀ flag ∈ [false, true], ∀ code < 128, isEntryChar flag (Char.ofNat code) →
      (foldCase (Char.ofNat code)).toNat < 128 ∧ foldCase (Char.ofNat code) ≠ '\x00' ∧
      isBlank (foldCase (Char.ofNat code)) = false ∧
      (isWordChar (foldCase (Char.ofNat code)) ∨ flag ∧ foldCase (Char.ofNat code) = '-') ∧
      (isCapital (Char.ofNat code) → isWordChar (foldCase (Char.ofNat code)) ∧
        isAsciiDigit (foldCase (Char.ofNat code)) = false) ∧
      (Char.ofNat code ≠ '-' → isWordChar (foldCase (Char.ofNat code))) := by
    decide
  have atChar := check hyphens (by cases hyphens <;> decide) p.toNat (lt_of_isEntryChar entry)
  rw [Char.ofNat_toNat, same] at atChar
  obtain ⟨low, visible, blank, sort, capital, letter⟩ := atChar entry
  have cased : IsAsciiCased c := ⟨low, visible⟩
  obtain ⟨word, gap, digit, hyphen⟩ := cased.foldCase_class
  refine ⟨cased, gap ▸ blank, ?_, ?_, ?_⟩
  · rcases sort with isWord | ⟨flag, isHyphen⟩
    · simp [← word, isWord]
    · simp [flag, hyphen isHyphen]
  · rw [← word, ← digit]
    exact capital
  · rw [← word]
    exact letter

theorem startsWith_iff {same : Char → Char → Bool} {part text : List Char} :
    startsWith same part text ↔ ∃ spelled rest, text = spelled ++ rest ∧
      List.Forall₂ (fun p c => same p c = true) part spelled := by
  constructor
  · intro starts
    fun_induction startsWith same part text with
    | case1 text => exact ⟨[], text, rfl, .nil⟩
    | case2 => cases starts
    | case3 p part c text ih =>
      obtain ⟨first, later⟩ := Bool.and_eq_true_iff.mp starts
      obtain ⟨spelled, rest, rfl, pairs⟩ := ih later
      exact ⟨c :: spelled, rest, rfl, .cons first pairs⟩
  · rintro ⟨spelled, rest, rfl, pairs⟩
    induction pairs with
    | nil => simp [startsWith]
    | cons first _ ih => simp [startsWith, first, ih]

/-- A part of a phrase, written in any case. -/
abbrev Spells (part spelled : List Char) : Prop :=
  List.Forall₂ (fun p c => sameFolded p c = true) part spelled

/-- A spelling of a phrase: its parts in any case, with blanks between them. -/
inductive Occurs : Phrase → List Char → Prop
  | last {part spelled} : Spells part spelled → Occurs [part] spelled
  | more {part next parts spelled gap later} : Spells part spelled →
      IsGap gap → gap ≠ [] → Occurs (next :: parts) later → Occurs (part :: next :: parts) (spelled ++ gap ++ later)

theorem blankRun_append {gap text : List Char} (blank : IsGap gap) (visible : begins isBlank text = false) :
    blankRun (gap ++ text) = gap.length :=
  runLength_append blank visible

theorem Phrase.occurs_of_extent? {phrase : Phrase} {text : List Char} {length : Nat} (someParts : phrase ≠ [])
    (found : phrase.extent? sameFolded text = some length) :
    ∃ raw rest, text = raw ++ rest ∧ raw.length = length ∧ Occurs phrase raw := by
  fun_induction Phrase.extent? sameFolded phrase text generalizing length with
  | case1 => exact absurd rfl someParts
  | case2 text part starts =>
    cases found
    obtain ⟨spelled, rest, rfl, pairs⟩ := startsWith_iff.mp starts
    exact ⟨spelled, rest, rfl, pairs.length_eq.symm, .last pairs⟩
  | case3 => cases found
  | case4 => cases found
  | case5 part parts text more starts gap positive =>
    rename_i ih
    obtain ⟨later, atLater, rfl⟩ := Option.map_eq_some_iff.mp found
    obtain ⟨spelled, rest, rfl, pairs⟩ := startsWith_iff.mp starts
    obtain ⟨blanks, visible, rfl, isGap, _, run⟩ := exists_runLength isBlank rest
    have size : gap = blanks.length := by
      simp only [gap, pairs.length_eq, List.drop_left]
      exact run
    have after : (spelled ++ (blanks ++ visible)).drop (part.length + gap) = visible := by
      rw [size, pairs.length_eq, ← List.append_assoc, ← List.length_append, List.drop_left]
    have someMore : parts ≠ [] := fun none => more none
    obtain ⟨raw, rest, split, rfl, occurs⟩ := ih someMore atLater
    rw [after] at split
    subst visible
    obtain ⟨next, parts, rfl⟩ := List.exists_cons_of_ne_nil someMore
    have someGap : blanks ≠ [] := by
      rintro rfl
      exact positive size
    refine ⟨spelled ++ blanks ++ raw, rest, by simp, ?_, .more pairs isGap someGap occurs⟩
    simp only [List.length_append, size, pairs.length_eq]
  | case6 => cases found

theorem Phrase.isEntry_tail {hyphens : Bool} {part next : List Char} {parts : Phrase}
    (entry : Phrase.isEntry hyphens (part :: next :: parts)) :
    isEntryPart hyphens part ∧ Phrase.isEntry hyphens (next :: parts) := by
  simp only [Phrase.isEntry, List.all_cons, Bool.and_eq_true] at entry ⊢
  exact ⟨entry.2.1, rfl, entry.2.2⟩

theorem Phrase.isEntry_singleton {hyphens : Bool} {part : List Char} (entry : Phrase.isEntry hyphens [part]) :
    isEntryPart hyphens part := by
  simpa [Phrase.isEntry] using entry

theorem isEntryPart_chars {hyphens : Bool} {part spelled : List Char} (entry : isEntryPart hyphens part)
    (pairs : Spells part spelled) :
    ∀ c ∈ spelled, IsAsciiCased c ∧ isBlank c = false ∧ (isWordChar c || (hyphens && c == '-')) := by
  simp only [isEntryPart, Bool.and_eq_true, List.all_eq_true] at entry
  have chars := entry.1.1.1
  clear entry
  induction pairs with
  | nil => simp
  | @cons p c part spelled same _ ih =>
    intro d member
    rcases List.mem_cons.mp member with rfl | member
    · have sort := entryChar_class (chars p List.mem_cons_self) (by simpa [sameFolded] using same)
      exact ⟨sort.1, sort.2.1, sort.2.2.1⟩
    · exact ih (fun q inPart => chars q (List.mem_cons_of_mem _ inPart)) d member

theorem isEntryPart_begins {hyphens : Bool} {part spelled : List Char} (entry : isEntryPart hyphens part)
    (pairs : Spells part spelled) :
    ∃ c rest, spelled = c :: rest ∧ isWordChar c ∧ isAsciiDigit c = false := by
  simp only [isEntryPart, Bool.and_eq_true] at entry
  obtain ⟨⟨⟨chars, first⟩, _⟩, _⟩ := entry
  cases pairs with
  | nil => cases first
  | @cons p c part rest same pairs =>
    have entryChar : isEntryChar hyphens p := List.all_eq_true.mp chars p List.mem_cons_self
    have sort := entryChar_class entryChar (by simpa [sameFolded] using same)
    exact ⟨c, rest, rfl, sort.2.2.2.1 first⟩

theorem Occurs.first {hyphens : Bool} {phrase : Phrase} {raw : List Char} (occurs : Occurs phrase raw)
    (entry : phrase.isEntry hyphens) : ∃ c rest, raw = c :: rest ∧ isWordChar c ∧ isAsciiDigit c = false := by
  cases occurs with
  | last pairs => exact isEntryPart_begins (Phrase.isEntry_singleton entry) pairs
  | more pairs _ _ _ =>
    obtain ⟨c, rest, rfl, sort⟩ := isEntryPart_begins (Phrase.isEntry_tail entry).1 pairs
    exact ⟨c, _, rfl, sort⟩

theorem Phrase.extent?_of_occurs {hyphens : Bool} {phrase : Phrase} {raw : List Char}
    (entry : phrase.isEntry hyphens) (occurs : Occurs phrase raw) (rest : List Char) :
    phrase.extent? sameFolded (raw ++ rest) = some raw.length := by
  induction occurs with
  | last pairs =>
    have starts := startsWith_iff.mpr ⟨_, rest, rfl, pairs⟩
    simp only [Phrase.extent?, starts, if_true, pairs.length_eq]
  | @more part next parts spelled gap later pairs isGap someGap occurs ih =>
    have starts : startsWith sameFolded part (spelled ++ gap ++ later ++ rest) :=
      startsWith_iff.mpr ⟨spelled, gap ++ later ++ rest, by simp, pairs⟩
    have tail := (Phrase.isEntry_tail entry).2
    obtain ⟨c, visible, rfl, word, _⟩ := occurs.first tail
    have run : blankRun ((spelled ++ gap ++ c :: visible ++ rest).drop part.length) = gap.length := by
      rw [pairs.length_eq, List.append_assoc, List.append_assoc, List.drop_left]
      exact blankRun_append isGap (isBlank_eq_false_of_isWordChar word)
    have after : (spelled ++ gap ++ c :: visible ++ rest).drop (part.length + gap.length) =
        c :: visible ++ rest := by
      rw [pairs.length_eq, ← List.length_append, List.append_assoc (spelled ++ gap), List.drop_left]
    have positive : gap.length ≠ 0 := by simpa using someGap
    simp only [Phrase.extent?, starts, if_true, run, positive, if_false, after, ih tail, Option.map_some,
      List.length_append]
    rw [pairs.length_eq]

theorem isEntryPart_final {hyphens : Bool} {part spelled : List Char} (entry : isEntryPart hyphens part)
    (pairs : Spells part spelled) :
    ∃ lead c, spelled = lead ++ [c] ∧ isWordChar c := by
  simp only [isEntryPart, Bool.and_eq_true, bne_iff_ne] at entry
  obtain ⟨⟨⟨chars, _⟩, final⟩, size⟩ := entry
  have backward := List.forall₂_reverse_iff.mpr pairs
  cases atEnd : part.reverse with
  | nil =>
    rw [List.reverse_eq_nil_iff.mp atEnd] at size
    cases size
  | cons p init =>
    have split : part = init.reverse ++ [p] := by
      rw [← List.reverse_reverse part, atEnd, List.reverse_cons]
    rw [atEnd] at backward
    cases backReverse : spelled.reverse with
    | nil =>
      rw [backReverse] at backward
      cases backward
    | cons c lead =>
      rw [backReverse] at backward
      cases backward with
      | cons same _ =>
        have entryChar : isEntryChar hyphens p := List.all_eq_true.mp chars p (by simp [split])
        have sort := entryChar_class entryChar (by simpa [sameFolded] using same)
        refine ⟨lead.reverse, c, ?_, sort.2.2.2.2 ?_⟩
        · rw [← List.reverse_reverse spelled, backReverse, List.reverse_cons]
        · rintro rfl
          simp [split] at final

theorem Occurs.final {hyphens : Bool} {phrase : Phrase} {raw : List Char} (occurs : Occurs phrase raw)
    (entry : phrase.isEntry hyphens) : ∃ lead c, raw = lead ++ [c] ∧ isWordChar c := by
  induction occurs with
  | last pairs => exact isEntryPart_final (Phrase.isEntry_singleton entry) pairs
  | more pairs _ _ _ ih =>
    obtain ⟨lead, c, rfl, word⟩ := ih (Phrase.isEntry_tail entry).2
    exact ⟨_, c, (List.append_assoc _ _ _).symm, word⟩

theorem Occurs.boundaryAt {hyphens : Bool} {phrase : Phrase} {raw : List Char} (occurs : Occurs phrase raw)
    (entry : phrase.isEntry hyphens) (before : Option Char) (rest : List Char) :
    boundaryAt before (raw ++ rest) raw.length = !begins isWordChar rest := by
  obtain ⟨lead, c, rfl, word⟩ := occurs.final entry
  have after : (lead ++ [c] ++ rest)[(lead ++ [c]).length]? = rest.head? := by
    rw [List.getElem?_append_right (Nat.le_refl _), Nat.sub_self, List.head?_eq_getElem?]
  have atEnd : (lead ++ [c] ++ rest)[(lead ++ [c]).length - 1]? = some c := by
    simp
  simp only [QueryLayout.boundaryAt, isBoundary, after, atEnd]
  simp [word, begins]

/-- A reserved word is found where it is spelled out and no word character follows. -/
theorem Phrase.wordExtent_iff {hyphens : Bool} {word : Phrase} (entry : word.isEntry hyphens)
    {before : Option Char} {text : List Char} {length : Nat} :
    (word.extent? sameFolded text).filter (boundaryAt before text) = some length ↔
      ∃ raw rest, text = raw ++ rest ∧ raw.length = length ∧ Occurs word raw ∧
        begins isWordChar rest = false := by
  rw [Option.filter_eq_some_iff]
  constructor
  · rintro ⟨found, boundary⟩
    have someParts : word ≠ [] := by
      rintro rfl
      cases entry
    obtain ⟨raw, rest, rfl, rfl, occurs⟩ := Phrase.occurs_of_extent? someParts found
    rw [occurs.boundaryAt entry] at boundary
    exact ⟨raw, rest, rfl, rfl, occurs, by simpa using boundary⟩
  · rintro ⟨raw, rest, rfl, rfl, occurs, ends⟩
    refine ⟨Phrase.extent?_of_occurs entry occurs rest, ?_⟩
    rw [occurs.boundaryAt entry, ends]
    rfl

end QueryLayout
