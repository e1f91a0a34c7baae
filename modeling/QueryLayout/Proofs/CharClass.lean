import Mathlib.Data.List.TakeWhile
import QueryLayout.Proofs.Gap
import QueryLayout.Rule

namespace QueryLayout

/-- What holds of the characters in a list is decided by looking at these, and not at all characters
there are. -/
instance (priority := 2000) decidableForallMem {text : List Char} {p : Char → Prop} [DecidablePred p] :
    Decidable (∀ c ∈ text, p c) :=
  List.decidableBAll p text

theorem CodeRange.exists_of_covers {ranges : List CodeRange} {code : Nat}
    (covered : CodeRange.covers ranges code) :
    ∃ range ∈ ranges, range.first ≤ code ∧ code ≤ range.last := by
  induction ranges with
  | nil => cases covered
  | cons range later ih =>
    unfold CodeRange.covers at covered
    split at covered
    · cases covered
    split at covered
    · exact ⟨range, List.mem_cons_self, by omega, by assumption⟩
    · obtain ⟨found, member, bounds⟩ := ih covered
      exact ⟨found, List.mem_cons_of_mem _ member, bounds⟩

/-- No blank is a word character: the blanks are few enough to look at each. -/
theorem isWordChar_eq_false_of_isBlank {c : Char} (blank : isBlank c) : isWordChar c = false := by
  have every : ∀ range ∈ blankRanges, ∀ code ∈ List.range' range.first (range.last + 1 - range.first),
      CodeRange.covers wordRanges code = false := by decide +kernel
  obtain ⟨range, member, lower, upper⟩ := CodeRange.exists_of_covers blank
  exact every range member c.toNat (by rw [List.mem_range'_1]; omega)

theorem CaseRun.move_cases (runs : List CaseRun) (code : Nat) :
    CaseRun.move runs code = code ∨
      ∃ run ∈ runs, run.first ≤ code ∧ code ≤ run.last ∧
        CaseRun.move runs code = (code + run.shift).toNat := by
  induction runs with
  | nil => exact Or.inl rfl
  | cons run later ih =>
    unfold CaseRun.move
    split
    · exact Or.inl rfl
    split
    · rename_i above inside
      exact Or.inr ⟨run, List.mem_cons_self, by omega, inside.1, rfl⟩
    · rcases ih with same | ⟨found, member, bounds⟩
      · exact Or.inl same
      · exact Or.inr ⟨found, List.mem_cons_of_mem _ member, bounds⟩

/-- The characters outside ASCII that share a case class with one inside: dotted and dotless `I`,
the long `s` and the sign for kelvin. -/
def asciiKin : List Nat :=
  [0x130, 0x131, 0x17f, 0x212a]

/-- A run of case variants that leads into ASCII begins in ASCII or is one of four characters. -/
theorem move_foldRuns_lt {code : Nat} (low : CaseRun.move foldRuns code < 128) :
    code < 128 ∨ code ∈ asciiKin := by
  have every : ∀ run ∈ foldRuns,
      run.last < 128 ∨ 128 ≤ run.first + run.shift ∨ (run.first = run.last ∧ run.first ∈ asciiKin) := by
    decide +kernel
  rcases CaseRun.move_cases foldRuns code with same | ⟨run, member, lower, upper, moved⟩
  · left
    omega
  · rcases every run member with inside | beyond | ⟨single, kin⟩
    · left
      omega
    · omega
    · right
      rwa [show code = run.first by omega]

theorem toNat_ofNat_of_ne {code : Nat} (visible : Char.ofNat code ≠ '\x00') :
    (Char.ofNat code).toNat = code := by
  by_cases valid : code.isValidChar
  · rw [Char.ofNat, dif_pos valid]
    rfl
  · refine absurd ?_ visible
    rw [Char.ofNat, dif_neg valid]
    rfl

/-- A character whose case class has a visible member in ASCII. -/
def IsAsciiCased (c : Char) : Prop :=
  (foldCase c).toNat < 128 ∧ foldCase c ≠ '\x00'

/-- The characters with a case variant in ASCII are few enough to look at each. -/
theorem IsAsciiCased.forall {p : Char → Prop}
    (check : ∀ code ∈ List.range 128 ++ asciiKin, p (Char.ofNat code)) {c : Char}
    (cased : IsAsciiCased c) : p c := by
  obtain ⟨low, visible⟩ := cased
  have moved := toNat_ofNat_of_ne visible
  unfold foldCase at low
  rw [moved] at low
  have found : c.toNat ∈ List.range 128 ++ asciiKin := by
    rcases move_foldRuns_lt low with ascii | kin
    · exact List.mem_append_left _ (List.mem_range.mpr ascii)
    · exact List.mem_append_right _ kin
  have same := check c.toNat found
  rwa [Char.ofNat_toNat] at same

/-- The upper case form of a character that has one of a single character. -/
def raiseCase (c : Char) : Char :=
  (upperChar c).headD c

/-- Folding the case of an ASCII letter does not change what sort of character it is. -/
theorem IsAsciiCased.foldCase_class {c : Char} (cased : IsAsciiCased c) :
    isWordChar (foldCase c) = isWordChar c ∧ isBlank (foldCase c) = isBlank c ∧
      isAsciiDigit (foldCase c) = isAsciiDigit c ∧ (foldCase c = '-' → c = '-') :=
  cased.forall (p := fun c => isWordChar (foldCase c) = isWordChar c ∧
    isBlank (foldCase c) = isBlank c ∧ isAsciiDigit (foldCase c) = isAsciiDigit c ∧
    (foldCase c = '-' → c = '-')) (by decide +kernel)

theorem IsAsciiCased.raiseCase_class {c : Char} (cased : IsAsciiCased c) :
    upperChar c = [raiseCase c] ∧ raiseCase (raiseCase c) = raiseCase c ∧
      foldCase (raiseCase c) = foldCase c ∧ isWordChar (raiseCase c) = isWordChar c ∧
      isBlank (raiseCase c) = isBlank c :=
  cased.forall (p := fun c => upperChar c = [raiseCase c] ∧ raiseCase (raiseCase c) = raiseCase c ∧
    foldCase (raiseCase c) = foldCase c ∧ isWordChar (raiseCase c) = isWordChar c ∧
    isBlank (raiseCase c) = isBlank c) (by decide +kernel)

theorem ascii_forall {p : Char → Prop} (check : ∀ code < 128, p (Char.ofNat code)) {c : Char}
    (ascii : c.toNat < 128) : p c := by
  have same := check c.toNat ascii
  rwa [Char.ofNat_toNat] at same

theorem lt_of_isAsciiDigit {c : Char} (digit : isAsciiDigit c) : c.toNat < 128 := by
  simp only [isAsciiDigit, Bool.and_eq_true, decide_eq_true_eq, Char.le_def, UInt32.le_iff_toNat_le] at digit
  exact Nat.lt_of_le_of_lt digit.2 (by decide)

theorem lt_of_isHexDigit {c : Char} (digit : isHexDigit c) : c.toNat < 128 := by
  simp only [isHexDigit, Bool.or_eq_true, Bool.and_eq_true, decide_eq_true_eq, Char.le_def,
    UInt32.le_iff_toNat_le] at digit
  rcases digit with (decimal | ⟨_, small⟩) | ⟨_, capital⟩
  · exact lt_of_isAsciiDigit decimal
  · exact Nat.lt_of_le_of_lt small (by decide)
  · exact Nat.lt_of_le_of_lt capital (by decide)

theorem lt_of_isKeyChar {c : Char} (key : isKeyChar c) : c.toNat < 128 := by
  simp only [isKeyChar, Bool.or_eq_true, Bool.and_eq_true, decide_eq_true_eq, Char.le_def,
    UInt32.le_iff_toNat_le, beq_iff_eq] at key
  rcases key with ((((⟨_, small⟩ | ⟨_, capital⟩) | digit) | rfl) | rfl) | rfl
  · exact Nat.lt_of_le_of_lt small (by decide)
  · exact Nat.lt_of_le_of_lt capital (by decide)
  · exact lt_of_isAsciiDigit digit
  all_goals decide

/-- Digits of every base are word characters. -/
theorem isWordChar_of_isHexDigit {c : Char} (digit : isHexDigit c) : isWordChar c :=
  ascii_forall (p := fun c => isHexDigit c → isWordChar c) (by decide)
    (lt_of_isHexDigit digit) digit

theorem isWordChar_of_isAsciiDigit {c : Char} (digit : isAsciiDigit c) : isWordChar c :=
  isWordChar_of_isHexDigit (by simp [isHexDigit, digit])

theorem isBlank_eq_false_of_isKeyChar {c : Char} (key : isKeyChar c) : isBlank c = false :=
  ascii_forall (p := fun c => isKeyChar c → isBlank c = false) (by decide)
    (lt_of_isKeyChar key) key

theorem isBlank_eq_false_of_isWordChar {c : Char} (word : isWordChar c) : isBlank c = false := by
  by_contra blank
  rw [isWordChar_eq_false_of_isBlank (by simpa using blank)] at word
  cases word

/-- Whether the first character of a text is of some sort. -/
def begins (p : Char → Bool) (text : List Char) : Bool :=
  text.head?.any p

@[simp] theorem begins_nil (p : Char → Bool) : begins p [] = false := rfl

@[simp] theorem begins_cons (p : Char → Bool) (c : Char) (text : List Char) : begins p (c :: text) = p c := rfl

theorem begins_append {p : Char → Bool} {first : List Char} (some : first ≠ []) (second : List Char) :
    begins p (first ++ second) = begins p first := by
  cases first with
  | nil => exact absurd rfl some
  | cons c rest => rfl

theorem begins_of_isGap {p : Char → Bool} {gap : List Char} (blank : IsGap gap)
    (other : ∀ c, isBlank c → p c = false) : begins p gap = false := by
  cases gap with
  | nil => rfl
  | cons c rest => exact other c (isGap_cons.mp blank).1

theorem begins_eq_false_of_imp {p q : Char → Bool} (weaker : ∀ c, p c → q c) {text : List Char}
    (ends : begins q text = false) : begins p text = false := by
  cases text with
  | nil => rfl
  | cons c text =>
    by_contra some
    rw [begins_cons, weaker c (by simpa using some)] at ends
    cases ends

theorem takeWhile_run {p : Char → Bool} {run rest : List Char} (all : ∀ c ∈ run, p c)
    (ends : begins p rest = false) : (run ++ rest).takeWhile p = run := by
  have stop : rest.takeWhile p = [] := by
    cases rest with
    | nil => rfl
    | cons c rest => simp_all
  rw [List.takeWhile_append_of_pos all, stop, List.append_nil]

theorem runLength_append {p : Char → Bool} {run rest : List Char} (all : ∀ c ∈ run, p c)
    (ends : begins p rest = false) : runLength p (run ++ rest) = run.length :=
  congrArg List.length (takeWhile_run all ends)

/-- A text after the longest run of characters of some sort that it begins with. -/
theorem exists_runLength (p : Char → Bool) (text : List Char) :
    ∃ run rest, text = run ++ rest ∧ (∀ c ∈ run, p c) ∧ begins p rest = false ∧ runLength p text = run.length := by
  have ends : begins p (text.dropWhile p) = false := by
    have stop := List.head?_dropWhile_not p text
    unfold begins
    split at stop
    · rename_i c atHead
      rw [atHead]
      simpa using stop
    · rename_i atHead
      rw [atHead]
      rfl
  exact ⟨text.takeWhile p, text.dropWhile p, List.takeWhile_append_dropWhile.symm,
    fun _ member => List.mem_takeWhile_imp member, ends, rfl⟩

/-- A run is as long as a text exactly if the text is made of its characters and no other one follows. -/
theorem runLength_append_iff {p : Char → Bool} {run rest : List Char} :
    runLength p (run ++ rest) = run.length ↔ (∀ c ∈ run, p c) ∧ begins p rest = false := by
  constructor
  · intro size
    obtain ⟨longest, later, split, all, ends, length⟩ := exists_runLength p (run ++ rest)
    obtain ⟨rfl, rfl⟩ := List.append_inj split (size.symm.trans length)
    exact ⟨all, ends⟩
  · rintro ⟨all, ends⟩
    exact runLength_append all ends

theorem begins_takeWhile (p : Char → Bool) (text : List Char) : (text.takeWhile p).isEmpty = !begins p text := by
  cases text with
  | nil => rfl
  | cons c text =>
    rw [List.takeWhile_cons, begins_cons]
    cases p c <;> rfl

theorem runLength_eq_zero_iff {p : Char → Bool} {text : List Char} :
    runLength p text = 0 ↔ begins p text = false := by
  have empty := begins_takeWhile p text
  unfold runLength
  rw [List.length_eq_zero_iff, ← List.isEmpty_iff, empty]
  simp

end QueryLayout
