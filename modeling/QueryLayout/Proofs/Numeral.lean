import Mathlib.Data.List.TakeWhile
import QueryLayout.Proofs.CharClass
import QueryLayout.Proofs.Extent

namespace QueryLayout

/-- One or more digits of some base. -/
def Digits (isDigit : Char → Bool) (text : List Char) : Prop :=
  text ≠ [] ∧ ∀ c ∈ text, isDigit c

/-- The two forms of a decimal number, without a fraction and with one. -/
inductive PlainNumeral : Bool → List Char → Prop
  | whole {digits} : Digits isAsciiDigit digits → PlainNumeral true digits
  | fraction {digits decimals} : Digits isAsciiDigit digits → Digits isAsciiDigit decimals →
      PlainNumeral false (digits ++ '.' :: decimals)

/-- All forms of a number. The flag tells a decimal number without a fraction from the others. -/
inductive Numeral : Bool → List Char → Prop
  | decimal {whole raw} : PlainNumeral whole raw → Numeral whole raw
  | negative {whole gap raw} : IsGap gap → PlainNumeral whole raw → Numeral whole ('-' :: (gap ++ raw))
  | hexadecimal {digits} : Digits isHexDigit digits → Numeral false ('0' :: 'x' :: digits)
  | binary {digits} : Digits isBit digits → Numeral false ('0' :: 'b' :: digits)

/-- Whether a text begins with a period and digits that no word character follows. -/
def fractionAt (text : List Char) : Bool :=
  fractionRun text != 0 && !begins isWordChar (text.drop (1 + fractionRun text))

theorem endsWord_append (first second : List Char) :
    endsWord (first ++ second) first.length = !begins isWordChar second := by
  unfold endsWord begins
  rw [List.getElem?_append_right (Nat.le_refl _), Nat.sub_self, List.head?_eq_getElem?]

theorem decimalExtent?_append {digits rest : List Char} (all : Digits isAsciiDigit digits)
    (ends : begins isAsciiDigit rest = false) :
    decimalExtent? (digits ++ rest) =
      if fractionAt rest then some (digits.length + (1 + fractionRun rest))
      else if begins isWordChar rest then none
      else some digits.length := by
  have run := runLength_append all.2 ends
  have positive : digits.length ≠ 0 := by simpa using all.1
  have after : fractionRun rest ≠ 0 →
      endsWord (digits ++ rest) (digits.length + 1 + fractionRun rest) =
        !begins isWordChar (rest.drop (1 + fractionRun rest)) := by
    intro some
    have inside := fractionRun_lt some
    have size : (digits ++ rest.take (1 + fractionRun rest)).length = digits.length + 1 + fractionRun rest := by
      rw [List.length_append, List.length_take]
      omega
    rw [← size, ← endsWord_append, List.append_assoc, List.take_append_drop]
  rw [decimalExtent?_eq]
  simp only [run, List.drop_left, positive, if_false, endsWord_append]
  unfold fractionAt
  by_cases none : fractionRun rest = 0
  · simp only [none, ne_eq, not_true_eq_false, false_and, if_false, bne_self_eq_false, Bool.false_and,
      Bool.false_eq_true]
    cases begins isWordChar rest <;> rfl
  · rw [after none]
    simp only [ne_eq, none, not_false_eq_true, true_and, bne_iff_ne, Bool.and_eq_true, Nat.add_assoc]
    cases begins isWordChar rest <;> rfl

theorem decimalExtent?_eq_none {text : List Char} (notDigit : begins isAsciiDigit text = false) :
    decimalExtent? text = none := by
  rw [decimalExtent?_eq]
  simp only [runLength_eq_zero_iff.mpr notDigit, if_true]

theorem fractionRun_append {decimals rest : List Char} (all : Digits isAsciiDigit decimals)
    (ends : begins isAsciiDigit rest = false) : fractionRun ('.' :: (decimals ++ rest)) = decimals.length := by
  rw [fractionRun, runLength_append all.2 ends]

theorem PlainNumeral.of_decimalExtent? {text : List Char} {length : Nat}
    (found : decimalExtent? text = some length) :
    ∃ whole raw rest, text = raw ++ rest ∧ raw.length = length ∧ PlainNumeral whole raw ∧
      begins isWordChar rest = false ∧ (whole = true → fractionAt rest = false) := by
  obtain ⟨digits, rest, rfl, all, ends, run⟩ := exists_runLength isAsciiDigit text
  by_cases none : digits = []
  · rw [none] at found run
    rw [decimalExtent?_eq] at found
    simp only [run, List.length_nil, if_true, reduceCtorEq] at found
  rw [decimalExtent?_append ⟨none, all⟩ ends] at found
  split at found
  · rename_i fraction
    simp only [fractionAt, Bool.and_eq_true, bne_iff_ne, Bool.not_eq_true'] at fraction
    obtain ⟨after, rfl⟩ : ∃ after, rest = '.' :: after := by
      have some := fraction.1
      unfold fractionRun at some
      split at some
      · exact ⟨_, rfl⟩
      · exact absurd rfl some
    obtain ⟨decimals, later, rfl, allDecimals, decimalsEnd, decimalsRun⟩ := exists_runLength isAsciiDigit after
    have size : fractionRun ('.' :: (decimals ++ later)) = decimals.length := decimalsRun
    rw [size] at fraction found
    have someDecimals : decimals ≠ [] := by simpa using fraction.1
    cases found
    refine ⟨false, digits ++ '.' :: decimals, later, by simp, by simp [Nat.add_comm],
      .fraction ⟨none, all⟩ ⟨someDecimals, allDecimals⟩, ?_, by simp⟩
    have wordEnds := fraction.2
    rwa [Nat.add_comm, List.drop_succ_cons, List.drop_left] at wordEnds
  · rename_i noFraction
    split at found
    · cases found
    · rename_i wordEnds
      cases found
      exact ⟨true, digits, rest, rfl, rfl, .whole ⟨none, all⟩, by simpa using wordEnds,
        fun _ => by simpa using noFraction⟩

theorem PlainNumeral.decimalExtent? {whole : Bool} {raw rest : List Char} (decimal : PlainNumeral whole raw)
    (ends : begins isWordChar rest = false) (noFraction : whole = true → fractionAt rest = false) :
    decimalExtent? (raw ++ rest) = some raw.length := by
  have notDigit := begins_eq_false_of_imp (fun c => isWordChar_of_isAsciiDigit) ends
  cases decimal with
  | whole all => rw [decimalExtent?_append all notDigit, noFraction rfl, ends]; rfl
  | @fraction digits decimals all some =>
    have run := fractionRun_append some notDigit
    have fraction : fractionAt ('.' :: (decimals ++ rest)) := by
      have positive : decimals.length ≠ 0 := by simpa using some.1
      simp [fractionAt, run, positive, Nat.add_comm 1, ends]
    rw [List.append_assoc, List.cons_append, decimalExtent?_append all (by simp; decide), fraction, run]
    simp
    omega

theorem basedExtent?_eq_some_iff {base : Char} {isDigit : Char → Bool} (isWord : ∀ c, isDigit c → isWordChar c)
    {text : List Char} {length : Nat} :
    basedExtent? base isDigit text = some length ↔
      ∃ digits rest, text = '0' :: base :: (digits ++ rest) ∧ digits.length + 2 = length ∧ Digits isDigit digits ∧
        begins isWordChar rest = false := by
  have ending : ∀ mark digits rest,
      endsWord ('0' :: mark :: (digits ++ rest)) (2 + digits.length) = !begins isWordChar rest := by
    intro mark digits rest
    rw [← endsWord_append ('0' :: mark :: digits) rest, List.length_cons, List.length_cons, Nat.add_comm 2]
    rfl
  constructor
  · intro found
    unfold basedExtent? at found
    split at found
    · rename_i mark after
      obtain ⟨digits, rest, rfl, all, ends, run⟩ := exists_runLength isDigit after
      simp only [run, ending] at found
      split at found
      · rename_i conditions
        obtain ⟨rfl, positive, wordEnds⟩ := conditions
        cases found
        exact ⟨digits, rest, rfl, Nat.add_comm _ _, ⟨by simpa using positive, all⟩, by simpa using wordEnds⟩
      · cases found
    · cases found
  · rintro ⟨digits, rest, rfl, rfl, all, ends⟩
    have run := runLength_append all.2 (begins_eq_false_of_imp isWord ends)
    have positive : digits.length ≠ 0 := by simpa using all.1
    simp only [basedExtent?, run, ending, ends]
    simp [Nat.add_comm, all.1]

theorem isWordChar_of_isBit {c : Char} (bit : isBit c) : isWordChar c := by
  simp only [isBit, Bool.or_eq_true, beq_iff_eq] at bit
  rcases bit with rfl | rfl <;> decide

theorem numberExtent?_unsigned {text : List Char} (unsigned : begins (· == '-') text = false) :
    numberExtent? text = ((decimalExtent? text).or (basedExtent? 'x' isHexDigit text)).or
      (basedExtent? 'b' isBit text) := by
  unfold numberExtent?
  split
  · cases unsigned
  · rfl

theorem PlainNumeral.first {whole : Bool} {raw : List Char} (decimal : PlainNumeral whole raw) :
    ∃ c rest, raw = c :: rest ∧ isAsciiDigit c := by
  have head : ∀ digits, Digits isAsciiDigit digits → ∃ c rest, digits = c :: rest ∧ isAsciiDigit c := by
    rintro digits ⟨someDigits, all⟩
    obtain ⟨c, rest, rfl⟩ := List.exists_cons_of_ne_nil someDigits
    exact ⟨c, rest, rfl, all c List.mem_cons_self⟩
  cases decimal with
  | whole all => exact head _ all
  | fraction all _ =>
    obtain ⟨c, rest, rfl, digit⟩ := head _ all
    exact ⟨c, _, rfl, digit⟩

theorem PlainNumeral.starts_visible {whole : Bool} {raw : List Char} (decimal : PlainNumeral whole raw)
    (rest : List Char) : begins isBlank (raw ++ rest) = false := by
  obtain ⟨c, tail, rfl, digit⟩ := decimal.first
  exact isBlank_eq_false_of_isWordChar (isWordChar_of_isAsciiDigit digit)

theorem PlainNumeral.unsigned {whole : Bool} {raw : List Char} (decimal : PlainNumeral whole raw)
    (rest : List Char) : begins (· == '-') (raw ++ rest) = false := by
  obtain ⟨c, tail, rfl, digit⟩ := decimal.first
  by_contra hyphen
  rw [show c = '-' by simpa using hyphen] at digit
  exact absurd digit (by decide)

/-- Digits that run into a word, as in `0x1F` and `9th`, are no decimal number. -/
def RunsIntoWord (text : List Char) : Prop :=
  ∃ digits c rest, text = digits ++ c :: rest ∧ Digits isAsciiDigit digits ∧ isWordChar c ∧ isAsciiDigit c = false

theorem fractionRun_eq_zero {c : Char} (other : c ≠ '.') (rest : List Char) : fractionRun (c :: rest) = 0 := by
  unfold fractionRun
  split
  · rename_i same
    exact absurd (List.cons.inj same).1 other
  · rfl

theorem not_period_of_isWordChar {c : Char} (word : isWordChar c) : c ≠ '.' := by
  rintro rfl
  exact absurd word (by decide)

theorem RunsIntoWord.decimalExtent? {text : List Char} (runs : RunsIntoWord text) (rest : List Char) :
    decimalExtent? (text ++ rest) = none := by
  obtain ⟨digits, c, later, rfl, all, word, notDigit⟩ := runs
  have none := fractionRun_eq_zero (not_period_of_isWordChar word) (later ++ rest)
  rw [List.append_assoc, List.cons_append, decimalExtent?_append all (by simpa using notDigit)]
  simp [fractionAt, none, word]

theorem RunsIntoWord.fractionAt {text : List Char} (runs : RunsIntoWord text) (rest : List Char) :
    fractionAt ('.' :: (text ++ rest)) = false := by
  obtain ⟨digits, c, later, rfl, all, word, notDigit⟩ := runs
  have ends : begins isAsciiDigit (c :: (later ++ rest)) = false := by simpa using notDigit
  have run := fractionRun_append all ends
  rw [List.append_assoc, List.cons_append]
  simp [QueryLayout.fractionAt, run, Nat.add_comm 1, word]

theorem runsIntoWord_based {base : Char} (word : isWordChar base) (notDigit : isAsciiDigit base = false)
    (digits : List Char) : RunsIntoWord ('0' :: base :: digits) :=
  ⟨['0'], base, digits, rfl, ⟨by simp, by decide⟩, word, notDigit⟩

theorem numberExtent?_signed {gap text : List Char} (blank : IsGap gap) (visible : begins isBlank text = false) :
    numberExtent? ('-' :: (gap ++ text)) = (decimalExtent? text).map (1 + gap.length + ·) := by
  have run : blankRun (gap ++ text) = gap.length := runLength_append blank visible
  simp only [numberExtent?, run, List.drop_left]

theorem isBlank_eq_false_of_isAsciiDigit {c : Char} (digit : isAsciiDigit c) : isBlank c = false :=
  isBlank_eq_false_of_isWordChar (isWordChar_of_isAsciiDigit digit)

theorem Numeral.of_numberExtent? {text : List Char} {length : Nat} (found : numberExtent? text = some length) :
    ∃ whole raw rest, text = raw ++ rest ∧ raw.length = length ∧ Numeral whole raw ∧
      begins isWordChar rest = false ∧ (whole = true → fractionAt rest = false) := by
  by_cases signed : begins (· == '-') text
  · obtain ⟨after, rfl⟩ : ∃ after, text = '-' :: after := by
      cases text with
      | nil => cases signed
      | cons c after => exact ⟨after, by rw [show c = '-' by simpa using signed]⟩
    obtain ⟨gap, visible, rfl, blank, ends, _⟩ := exists_runLength isBlank after
    rw [numberExtent?_signed blank ends] at found
    obtain ⟨digits, atDigits, rfl⟩ := Option.map_eq_some_iff.mp found
    obtain ⟨whole, raw, rest, rfl, rfl, shape, wordEnds, fraction⟩ := PlainNumeral.of_decimalExtent? atDigits
    refine ⟨whole, '-' :: (gap ++ raw), rest, by simp, ?_, .negative blank shape, wordEnds, fraction⟩
    simp only [List.length_cons, List.length_append]
    omega
  · rw [numberExtent?_unsigned (by simpa using signed)] at found
    simp only [Option.or_eq_some_iff] at found
    rcases found with (decimal | ⟨_, hexadecimal⟩) | ⟨_, binary⟩
    · obtain ⟨whole, raw, rest, rfl, rfl, shape, ends, fraction⟩ := PlainNumeral.of_decimalExtent? decimal
      exact ⟨whole, raw, rest, rfl, rfl, .decimal shape, ends, fraction⟩
    · obtain ⟨digits, rest, rfl, rfl, all, ends⟩ :=
        (basedExtent?_eq_some_iff fun c => isWordChar_of_isHexDigit).mp hexadecimal
      exact ⟨false, '0' :: 'x' :: digits, rest, rfl, rfl, .hexadecimal all, ends, by simp⟩
    · obtain ⟨digits, rest, rfl, rfl, all, ends⟩ :=
        (basedExtent?_eq_some_iff fun c => isWordChar_of_isBit).mp binary
      exact ⟨false, '0' :: 'b' :: digits, rest, rfl, rfl, .binary all, ends, by simp⟩

/-- A number is read as far as it is spelled out, if no word character follows, nor a fraction where it has none. -/
theorem Numeral.numberExtent? {whole : Bool} {raw rest : List Char} (numeral : Numeral whole raw)
    (ends : begins isWordChar rest = false) (noFraction : whole = true → fractionAt rest = false) :
    numberExtent? (raw ++ rest) = some raw.length := by
  cases numeral with
  | decimal shape =>
    rw [numberExtent?_unsigned (shape.unsigned rest), shape.decimalExtent? ends noFraction]
    rfl
  | @negative _ gap raw blank shape =>
    rw [List.cons_append, List.append_assoc, numberExtent?_signed blank (shape.starts_visible rest),
      shape.decimalExtent? ends noFraction]
    simp only [Option.map_some, List.length_cons, List.length_append, Option.some.injEq]
    omega
  | @hexadecimal digits all =>
    have noDecimal := (runsIntoWord_based (show isWordChar 'x' by decide) (by decide) digits).decimalExtent? rest
    have found : basedExtent? 'x' isHexDigit ('0' :: 'x' :: (digits ++ rest)) = some (digits.length + 2) :=
      (basedExtent?_eq_some_iff fun c => isWordChar_of_isHexDigit).mpr ⟨digits, rest, rfl, rfl, all, ends⟩
    rw [numberExtent?_unsigned (by rfl), noDecimal, List.cons_append, List.cons_append, found]
    rfl
  | @binary digits all =>
    have noDecimal := (runsIntoWord_based (show isWordChar 'b' by decide) (by decide) digits).decimalExtent? rest
    have noHex : basedExtent? 'x' isHexDigit ('0' :: 'b' :: (digits ++ rest)) = none := by
      simp [basedExtent?]
    have found : basedExtent? 'b' isBit ('0' :: 'b' :: (digits ++ rest)) = some (digits.length + 2) :=
      (basedExtent?_eq_some_iff fun c => isWordChar_of_isBit).mpr ⟨digits, rest, rfl, rfl, all, ends⟩
    rw [numberExtent?_unsigned (by rfl), noDecimal, List.cons_append, List.cons_append, noHex, found]
    rfl

/-- A number is one of the forms of a number, taken as long as it can be. -/
theorem numberExtent?_eq_some_iff {text : List Char} {length : Nat} :
    numberExtent? text = some length ↔
      ∃ whole raw rest, text = raw ++ rest ∧ raw.length = length ∧ Numeral whole raw ∧
        begins isWordChar rest = false ∧ (whole = true → fractionAt rest = false) := by
  refine ⟨Numeral.of_numberExtent?, ?_⟩
  rintro ⟨whole, raw, rest, rfl, rfl, numeral, ends, noFraction⟩
  exact numeral.numberExtent? ends noFraction

/-- Digits that no word character follows are a number, or the start of one. -/
theorem numberExtent?_ne_none {digits rest : List Char} (all : Digits isAsciiDigit digits)
    (ends : begins isWordChar rest = false) : numberExtent? (digits ++ rest) ≠ none := by
  have notDigit := begins_eq_false_of_imp (fun c => isWordChar_of_isAsciiDigit) ends
  rw [numberExtent?_unsigned ((PlainNumeral.whole all).unsigned rest), decimalExtent?_append all notDigit, ends]
  split <;> simp

theorem Numeral.begins {whole : Bool} {raw : List Char} (numeral : Numeral whole raw) :
    ∃ c rest, raw = c :: rest ∧ (isAsciiDigit c ∨ c = '-') := by
  cases numeral with
  | decimal shape =>
    obtain ⟨c, rest, rfl, digit⟩ := shape.first
    exact ⟨c, rest, rfl, Or.inl digit⟩
  | negative => exact ⟨_, _, rfl, Or.inr rfl⟩
  | hexadecimal | binary => exact ⟨_, _, rfl, Or.inl (by decide)⟩

theorem Numeral.head {whole : Bool} {c : Char} {tail : List Char} (numeral : Numeral whole (c :: tail)) :
    isAsciiDigit c ∨ c = '-' := by
  obtain ⟨d, _, split, sort⟩ := numeral.begins
  rwa [(List.cons.inj split).1]

theorem Numeral.ne_period {whole : Bool} {raw : List Char} (numeral : Numeral whole raw) : raw ≠ ['.'] := by
  rintro rfl
  exact absurd numeral.head (by decide)

theorem numberExtent?_eq_none_of_begins {c : Char} {text : List Char} (notDigit : isAsciiDigit c = false)
    (notHyphen : c ≠ '-') : numberExtent? (c :: text) = none := by
  by_contra something
  obtain ⟨length, found⟩ := Option.ne_none_iff_exists'.mp something
  obtain ⟨_, raw, _, split, _, numeral, _⟩ := numberExtent?_eq_some_iff.mp found
  obtain ⟨d, _, rfl, sort⟩ := numeral.begins
  obtain ⟨rfl, _⟩ := List.cons.inj split
  rcases sort with digit | hyphen
  · rw [digit] at notDigit
    cases notDigit
  · exact notHyphen hyphen

theorem Digits.final {isDigit : Char → Bool} {text : List Char} (digits : Digits isDigit text) :
    ∃ front c, text = front ++ [c] ∧ isDigit c := by
  rcases List.eq_nil_or_concat text with rfl | ⟨front, c, rfl⟩
  · exact absurd rfl digits.1
  · exact ⟨front, c, by simp, digits.2 c (by simp)⟩

theorem PlainNumeral.decimalExtent?_ne_none {whole : Bool} {raw rest : List Char} (decimal : PlainNumeral whole raw)
    (ends : begins isWordChar rest = false) : QueryLayout.decimalExtent? (raw ++ rest) ≠ none := by
  have found : ∀ digits later, Digits isAsciiDigit digits → begins isWordChar later = false →
      QueryLayout.decimalExtent? (digits ++ later) ≠ none := by
    intro digits later all laterEnds
    rw [decimalExtent?_append all (begins_eq_false_of_imp (fun c => isWordChar_of_isAsciiDigit) laterEnds),
      laterEnds]
    split <;> simp
  cases decimal with
  | whole all => exact found _ rest all ends
  | fraction all _ =>
    rw [List.append_assoc]
    exact found _ _ all (show isWordChar '.' = false by decide)

theorem fractionAt_iff {text : List Char} :
    fractionAt ('.' :: text) ↔
      ∃ digits later, text = digits ++ later ∧ Digits isAsciiDigit digits ∧ begins isWordChar later = false := by
  constructor
  · intro fraction
    obtain ⟨digits, later, rfl, all, _, run⟩ := exists_runLength isAsciiDigit text
    have size : fractionRun ('.' :: (digits ++ later)) = digits.length := run
    simp only [fractionAt, size, Nat.add_comm 1, List.drop_succ_cons, List.drop_left, Bool.and_eq_true, bne_iff_ne,
      ne_eq, List.length_eq_zero_iff, Bool.not_eq_true'] at fraction
    exact ⟨digits, later, rfl, ⟨fraction.1, all⟩, fraction.2⟩
  · rintro ⟨digits, later, rfl, all, ends⟩
    have run := fractionRun_append all (begins_eq_false_of_imp (fun c => isWordChar_of_isAsciiDigit) ends)
    simp only [fractionAt, run, Nat.add_comm 1, List.drop_succ_cons, List.drop_left, ends]
    simpa using all.1

/-- A period before a decimal number makes it a fraction. -/
theorem PlainNumeral.fractionAt {whole : Bool} {raw : List Char} (decimal : PlainNumeral whole raw) :
    fractionAt ('.' :: raw) := by
  cases decimal with
  | whole all => exact fractionAt_iff.mpr ⟨_, [], by simp, all, rfl⟩
  | fraction all _ => exact fractionAt_iff.mpr ⟨_, _, rfl, all, show isWordChar '.' = false by decide⟩

/-- A fraction stays one when more text follows that does not go on with its last word. -/
theorem fractionAt_append {text rest : List Char} (fraction : fractionAt ('.' :: text))
    (ends : text.getLast?.any isWordChar → begins isWordChar rest = false) :
    fractionAt ('.' :: (text ++ rest)) := by
  obtain ⟨digits, later, rfl, all, laterEnds⟩ := fractionAt_iff.mp fraction
  refine fractionAt_iff.mpr ⟨digits, later ++ rest, by simp, all, ?_⟩
  cases later with
  | cons c later => exact laterEnds
  | nil =>
    obtain ⟨front, c, rfl, digit⟩ := all.final
    exact ends (by simp [isWordChar_of_isAsciiDigit digit])

theorem fractionAt_eq_false {text : List Char} (other : begins (· == '.') text = false) :
    fractionAt text = false := by
  cases text with
  | nil => rfl
  | cons c text =>
    have zero := fractionRun_eq_zero (by simpa using other) text
    simp [fractionAt, zero]

theorem fractionAt_period {text : List Char} (notDigit : begins isAsciiDigit text = false) :
    fractionAt ('.' :: text) = false := by
  have zero : fractionRun ('.' :: text) = 0 := runLength_eq_zero_iff.mpr notDigit
  simp [fractionAt, zero]

theorem Numeral.whole_chars {raw : List Char} (numeral : Numeral true raw) :
    ∀ c ∈ raw, isAsciiDigit c || isBlank c || c == '-' := by
  have ofPlain : ∀ raw, PlainNumeral true raw → ∀ c ∈ raw, isAsciiDigit c := by
    intro raw shape c member
    cases shape with
    | whole all => exact all.2 c member
  intro c member
  cases numeral with
  | decimal shape => simp [ofPlain _ shape c member]
  | negative blank shape =>
    rcases List.mem_cons.mp member with rfl | member
    · simp
    · rcases List.mem_append.mp member with inGap | inDigits
      · simp [blank c inGap]
      · simp [ofPlain _ shape c inDigits]

/-- Every other number shows a character that a whole one lacks. -/
theorem Numeral.other_char {raw : List Char} (numeral : Numeral false raw) :
    ∃ c ∈ raw, (isAsciiDigit c || isBlank c || c == '-') = false := by
  have period : ∀ {raw}, PlainNumeral false raw → '.' ∈ raw := by
    intro raw shape
    cases shape with
    | fraction => simp
  cases numeral with
  | decimal shape => exact ⟨'.', period shape, by decide⟩
  | negative _ shape => exact ⟨'.', by simp [period shape], by decide⟩
  | hexadecimal => exact ⟨'x', by simp, by decide⟩
  | binary => exact ⟨'b', by simp, by decide⟩

theorem PlainNumeral.visible {whole : Bool} {raw : List Char} (decimal : PlainNumeral whole raw) :
    ∀ c ∈ raw, isBlank c = false := by
  intro c member
  cases decimal with
  | whole all => exact isBlank_eq_false_of_isAsciiDigit (all.2 c member)
  | fraction all decimals =>
    rcases List.mem_append.mp member with member | member
    · exact isBlank_eq_false_of_isAsciiDigit (all.2 c member)
    · rcases List.mem_cons.mp member with rfl | member
      · decide
      · exact isBlank_eq_false_of_isAsciiDigit (decimals.2 c member)

theorem PlainNumeral.final {whole : Bool} {raw : List Char} (decimal : PlainNumeral whole raw) :
    ∃ front c, raw = front ++ [c] ∧ isWordChar c := by
  cases decimal with
  | whole all =>
    obtain ⟨front, c, rfl, digit⟩ := all.final
    exact ⟨front, c, rfl, isWordChar_of_isAsciiDigit digit⟩
  | @fraction digits _ _ all =>
    obtain ⟨front, c, rfl, digit⟩ := all.final
    exact ⟨digits ++ '.' :: front, c, by simp, isWordChar_of_isAsciiDigit digit⟩

/-- Every number ends with a word character. -/
theorem Numeral.final {whole : Bool} {raw : List Char} (numeral : Numeral whole raw) :
    ∃ front c, raw = front ++ [c] ∧ isWordChar c := by
  cases numeral with
  | decimal shape => exact shape.final
  | @negative _ gap _ _ shape =>
    obtain ⟨front, c, rfl, word⟩ := shape.final
    exact ⟨'-' :: (gap ++ front), c, by simp, word⟩
  | hexadecimal all =>
    obtain ⟨front, c, rfl, digit⟩ := all.final
    exact ⟨'0' :: 'x' :: front, c, rfl, isWordChar_of_isHexDigit digit⟩
  | binary all =>
    obtain ⟨front, c, rfl, digit⟩ := all.final
    exact ⟨'0' :: 'b' :: front, c, rfl, isWordChar_of_isBit digit⟩

section Names

variable {isName : Char → Bool} {raw rest : List Char}

/-- A name that is no number but begins with a digit has a letter after its digits. -/
theorem runsIntoWord_of_name (wordIsName : ∀ c, isWordChar c → isName c)
    (digit : begins isAsciiDigit raw) (ends : begins isName rest = false)
    (noNumber : numberExtent? (raw ++ rest) = none) : RunsIntoWord raw := by
  obtain ⟨digits, after, rfl, all, digitsEnd, _⟩ := exists_runLength isAsciiDigit raw
  have someDigits : digits ≠ [] := by
    rintro rfl
    rw [List.nil_append, digitsEnd] at digit
    cases digit
  have wordEnds := begins_eq_false_of_imp wordIsName ends
  rw [List.append_assoc] at noNumber
  cases after with
  | nil => exact absurd noNumber (numberExtent?_ne_none ⟨someDigits, all⟩ wordEnds)
  | cons c after =>
    by_cases word : isWordChar c
    · exact ⟨digits, c, after, rfl, ⟨someDigits, all⟩, word, digitsEnd⟩
    · exact absurd noNumber (numberExtent?_ne_none ⟨someDigits, all⟩ (by simpa using word))

theorem isWordChar_of_based {raw : List Char} {base : Char} {isDigit : Char → Bool}
    (isWord : ∀ c, isDigit c → isWordChar c) (baseIsWord : isWordChar base) (all : Digits isDigit raw) :
    ∀ c ∈ '0' :: base :: raw, isWordChar c := by
  intro c member
  simp only [List.mem_cons] at member
  rcases member with rfl | rfl | member
  · decide
  · exact baseIsWord
  · exact isWord c (all.2 c member)

/-- Where digits run into a word, only a number with a base can be read. -/
theorem RunsIntoWord.numeral {text other number after : List Char} {whole : Bool} (runs : RunsIntoWord text)
    (split : text ++ other = number ++ after) (numeral : Numeral whole number)
    (ends : begins isWordChar after = false) (noFraction : whole = true → QueryLayout.fractionAt after = false) :
    whole = false ∧ ∀ c ∈ number, isWordChar c := by
  cases numeral with
  | decimal shape =>
    have noDecimal := runs.decimalExtent? other
    rw [split, shape.decimalExtent? ends noFraction] at noDecimal
    cases noDecimal
  | negative =>
    obtain ⟨digits, c, rest, rfl, ⟨someDigits, all⟩, _⟩ := runs
    obtain ⟨d, tail, rfl⟩ := List.exists_cons_of_ne_nil someDigits
    obtain ⟨rfl, _⟩ := List.cons.inj split
    exact absurd (all '-' List.mem_cons_self) (by decide)
  | hexadecimal all => exact ⟨rfl, isWordChar_of_based (fun c => isWordChar_of_isHexDigit) (by decide) all⟩
  | binary all => exact ⟨rfl, isWordChar_of_based (fun c => isWordChar_of_isBit) (by decide) all⟩

/-- Whether a name is a number does not depend on what follows it. -/
theorem numberExtent?_name (wordIsName : ∀ c, isWordChar c → isName c) (hyphen : isName '-' = false)
    (all : ∀ c ∈ raw, isName c) (someRaw : raw ≠ []) (ends : begins isName rest = false)
    (noNumber : numberExtent? (raw ++ rest) = none) {other : List Char} (otherEnds : begins isName other = false) :
    numberExtent? (raw ++ other) = none := by
  by_contra something
  obtain ⟨length, found⟩ := Option.ne_none_iff_exists'.mp something
  obtain ⟨whole, number, after, split, _, numeral, wordEnds, fraction⟩ := numberExtent?_eq_some_iff.mp found
  obtain ⟨c, tail, rfl⟩ := List.exists_cons_of_ne_nil someRaw
  have digit : isAsciiDigit c := by
    by_contra notDigit
    rw [List.cons_append, numberExtent?_eq_none_of_begins (by simpa using notDigit)] at found
    · cases found
    · rintro rfl
      have named := all '-' List.mem_cons_self
      rw [hyphen] at named
      cases named
  have digitFirst : begins isAsciiDigit (c :: tail) := digit
  have runs := runsIntoWord_of_name wordIsName digitFirst ends noNumber
  have based := runs.numeral split numeral wordEnds fraction
  have wordEndsRest := begins_eq_false_of_imp wordIsName ends
  obtain ⟨extra, inside, extraEnds⟩ : ∃ extra, c :: tail = number ++ extra ∧
      begins isWordChar (extra ++ rest) = false := by
    rcases List.append_eq_append_iff.mp split with ⟨extra, inside, rfl⟩ | ⟨extra, inside, rfl⟩
    · cases extra with
      | nil => exact ⟨[], by simp [inside], by simpa using wordEndsRest⟩
      | cons e extra =>
        have word := based.2 e (by simp [inside])
        rw [List.cons_append, begins_cons, wordIsName e word] at otherEnds
        cases otherEnds
    · cases extra with
      | nil => exact ⟨[], inside, wordEndsRest⟩
      | cons e extra => exact ⟨e :: extra, inside, wordEnds⟩
  rw [inside, List.append_assoc, numeral.numberExtent? extraEnds (by simp [based.1])] at noNumber
  cases noNumber

end Names

end QueryLayout
