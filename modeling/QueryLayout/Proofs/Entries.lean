import QueryLayout.Proofs.Cascade
import QueryLayout.Proofs.Occurrence

namespace QueryLayout

theorem length_le_foldl_max (entries : List (List Char)) (start : Nat) :
    start ≤ entries.foldl (fun length entry => max length entry.length) start ∧
      ∀ entry ∈ entries, entry.length ≤ entries.foldl (fun length entry => max length entry.length) start := by
  induction entries generalizing start with
  | nil => simp
  | cons first later ih =>
    obtain ⟨above, bound⟩ := ih (max start first.length)
    rw [List.foldl_cons]
    refine ⟨by omega, fun entry member => ?_⟩
    rcases List.mem_cons.mp member with rfl | member
    · omega
    · exact bound entry member

theorem mem_longestFirst {entries : List (List Char)} {entry : List Char} :
    entry ∈ longestFirst entries ↔ entry ∈ entries := by
  simp only [longestFirst, List.mem_flatMap, List.mem_reverse, List.mem_range, List.mem_filter, beq_iff_eq]
  constructor
  · rintro ⟨_, _, found, _⟩
    exact found
  · intro member
    have bound := (length_le_foldl_max entries 0).2 entry member
    exact ⟨entry.length, by omega, member, rfl⟩

theorem mem_phrases {entries : List String} {phrase : Phrase} :
    phrase ∈ phrases entries ↔ ∃ entry ∈ entries, blankParts entry.toList = phrase := by
  simp [phrases, mem_longestFirst]

/-- Whether reserved words may have a hyphen inside, as `END-EXEC` does. -/
def Dialect.hyphens : Dialect → Bool
  | .db2 => true
  | _ => false

/-- The words that a dialect has for brackets. -/
def Dialect.bracketParts (dialect : Dialect) : List (List Char) :=
  (phrases (dialect.lexicon.bracketWords .opening) ++ phrases (dialect.lexicon.bracketWords .closing)).flatten

/-- A reserved word that does not go on after a word for a bracket. -/
def Dialect.isReservedEntry (dialect : Dialect) (phrase : Phrase) : Bool :=
  phrase.isEntry dialect.hyphens &&
    (phrase.length == 1 || !dialect.bracketParts.contains (phrase.headD []))

/-- The characters of a text that has one byte for each of them. -/
def byteChars (text : String) : List Char :=
  text.toByteArray.data.toList.map fun byte => Char.ofNat byte.toNat

theorem toList_eq_byteChars {text : String} (single : String.ofList (byteChars text) = text) :
    text.toList = byteChars text := by
  rw [← String.toList_ofList (l := byteChars text), single]

/-- Every reserved word of every dialect has this form, and the lists write it with single spaces
between its parts and at most one hyphen. This is the only place that looks at the words one by one, and it
looks at their bytes, which are much less work to get at than their characters. -/
theorem Dialect.reserved_listed (dialect : Dialect) :
    ∀ reservedClass ∈ [ReservedClass.clause, .continuation, .plain],
      ∀ entry ∈ dialect.lexicon.reserved reservedClass, String.ofList (byteChars entry) = entry ∧
        dialect.isReservedEntry (blankParts (byteChars entry)) ∧
        [' '].intercalate (blankParts (byteChars entry)) = byteChars entry ∧ (byteChars entry).count '-' ≤ 1 := by
  cases dialect <;> decide +kernel

section Listed

variable {dialect : Dialect} {reservedClass : ReservedClass} {entry : String}
  (member : entry ∈ dialect.lexicon.reserved reservedClass)

include member

theorem Dialect.toList_entry : entry.toList = byteChars entry :=
  toList_eq_byteChars (dialect.reserved_listed reservedClass reservedClass.mem_all entry member).1

theorem Dialect.isReservedEntry_entry : dialect.isReservedEntry (blankParts entry.toList) := by
  rw [Dialect.toList_entry member]
  exact (dialect.reserved_listed reservedClass reservedClass.mem_all entry member).2.1

theorem Dialect.intercalate_entry : [' '].intercalate (blankParts entry.toList) = entry.toList := by
  rw [Dialect.toList_entry member]
  exact (dialect.reserved_listed reservedClass reservedClass.mem_all entry member).2.2.1

theorem Dialect.count_hyphen : entry.toList.count '-' ≤ 1 := by
  rw [Dialect.toList_entry member]
  exact (dialect.reserved_listed reservedClass reservedClass.mem_all entry member).2.2.2

end Listed

theorem Dialect.reserved_mem {dialect : Dialect} {reservedClass : ReservedClass} {words : List Phrase}
    (member : Rule.reserved reservedClass words ∈ dialect.rules) :
    words = phrases (dialect.lexicon.reserved reservedClass) := by
  have found := dialect.lexicon.rules_sublist.subset member
  cases reservedClass <;> simpa [Lexicon.table, Lexicon.reserved] using found

/-- The rules of a dialect with the reserved words made from their bytes, for evaluating them. -/
def Dialect.byteRules (dialect : Dialect) : List Rule :=
  dialect.rules.map fun
    | .reserved reservedClass _ =>
      .reserved reservedClass
        ((longestFirst ((dialect.lexicon.reserved reservedClass).map byteChars)).map blankParts)
    | rule => rule

theorem Dialect.byteRules_eq (dialect : Dialect) : dialect.byteRules = dialect.rules := by
  refine (List.map_congr_left fun rule member => ?_).trans (List.map_id _)
  cases rule with
  | reserved reservedClass words =>
    have same : (dialect.lexicon.reserved reservedClass).map byteChars =
        (dialect.lexicon.reserved reservedClass).map String.toList :=
      List.map_congr_left fun entry inEntries => (Dialect.toList_entry inEntries).symm
    rw [Dialect.reserved_mem member]
    exact congrArg (fun entries => Rule.reserved reservedClass ((longestFirst entries).map blankParts)) same
  | _ => rfl

theorem Dialect.isReservedEntry_of_mem {dialect : Dialect} {reservedClass : ReservedClass} {words : List Phrase}
    (member : Rule.reserved reservedClass words ∈ dialect.rules) {phrase : Phrase} (inWords : phrase ∈ words) :
    dialect.isReservedEntry phrase := by
  rw [Dialect.reserved_mem member] at inWords
  obtain ⟨entry, inEntries, rfl⟩ := mem_phrases.mp inWords
  exact Dialect.isReservedEntry_entry inEntries

theorem Dialect.isEntry_of_mem_reserved {dialect : Dialect} {reservedClass : ReservedClass} {words : List Phrase}
    (member : Rule.reserved reservedClass words ∈ dialect.rules) {phrase : Phrase} (inWords : phrase ∈ words) :
    phrase.isEntry dialect.hyphens :=
  (Bool.and_eq_true_iff.mp (Dialect.isReservedEntry_of_mem member inWords)).1

theorem Dialect.bracketWord_of_mem {dialect : Dialect} {side : BracketSide} {words : List Phrase}
    (member : Rule.bracketWord side words ∈ dialect.rules) {phrase : Phrase} (inWords : phrase ∈ words) :
    phrase.isEntry dialect.hyphens ∧ ∃ part ∈ dialect.bracketParts, phrase = [part] := by
  have every : ∀ side ∈ [BracketSide.opening, .closing],
      ∀ phrase ∈ phrases (dialect.lexicon.bracketWords side),
        phrase.isEntry dialect.hyphens ∧ ∃ part ∈ dialect.bracketParts, phrase = [part] := by
    cases dialect <;> decide +kernel
  have found := dialect.lexicon.rules_sublist.subset member
  have sorted : words = phrases (dialect.lexicon.bracketWords side) := by
    cases side <;> simpa [Lexicon.table] using found
  rw [sorted] at inWords
  exact every side side.mem_all phrase inWords

/-- A word for a bracket is also a reserved word. -/
theorem Dialect.bracketPart_reserved {dialect : Dialect} {part : List Char} (member : part ∈ dialect.bracketParts) :
    ∃ words, Rule.reserved .plain words ∈ dialect.rules ∧ [part] ∈ words := by
  have every : ∀ part ∈ dialect.bracketParts,
      ∃ entry ∈ ["CASE", "END"], entry ∈ dialect.lexicon.reservedWords ∧ blankParts entry.toList = [part] := by
    cases dialect <;> decide +kernel
  obtain ⟨entry, _, reserved, parts⟩ := every part member
  refine ⟨phrases dialect.lexicon.reservedWords, ?_, mem_phrases.mpr ⟨entry, reserved, parts⟩⟩
  have some : dialect.lexicon.reservedWords ≠ [] := List.ne_nil_of_mem reserved
  simp [Dialect.rules, Lexicon.rules, reservedRule, unlessEmpty, some]

end QueryLayout
