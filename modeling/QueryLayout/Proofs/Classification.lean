import QueryLayout.Proofs.Lossless
import QueryLayout.Proofs.Readers

namespace QueryLayout

/-- An entry of a list of words matches at the start of a text and covers `raw`: its parts stand there in
order and in any case, with blanks between them, and a word boundary follows. -/
def MatchesEntry (entry : String) (text raw : List Char) : Prop :=
  ∃ rest, text = raw ++ rest ∧ Occurs (blankParts entry.toList) raw ∧ isBoundary raw.getLast? rest.head?

/-- The classes of reserved words that are tried before this one. -/
def ReservedClass.earlier : ReservedClass → List ReservedClass
  | .clause => []
  | .continuation => [.clause]
  | .plain => [.clause, .continuation]

theorem Occurs.isBoundary_iff {hyphens : Bool} {phrase : Phrase} {raw : List Char} (occurs : Occurs phrase raw)
    (entry : phrase.isEntry hyphens) (rest : List Char) :
    isBoundary raw.getLast? rest.head? ↔ begins isWordChar rest = false := by
  obtain ⟨lead, c, rfl, word⟩ := occurs.final entry
  simp [isBoundary, begins, word]

theorem matchesEntry_iff {hyphens : Bool} {entry : String}
    (isEntry : Phrase.isEntry hyphens (blankParts entry.toList)) {text raw : List Char} :
    MatchesEntry entry text raw ↔
      ∃ rest, text = raw ++ rest ∧ Occurs (blankParts entry.toList) raw ∧ begins isWordChar rest = false := by
  constructor
  · rintro ⟨rest, split, occurs, boundary⟩
    exact ⟨rest, split, occurs, (occurs.isBoundary_iff isEntry rest).mp boundary⟩
  · rintro ⟨rest, split, occurs, ends⟩
    exact ⟨rest, split, occurs, (occurs.isBoundary_iff isEntry rest).mpr ends⟩

/-- Longer entries come first. -/
theorem longestFirst_pairwise (entries : List (List Char)) :
    (longestFirst entries).Pairwise fun first second => second.length ≤ first.length := by
  unfold longestFirst
  refine List.pairwise_flatMap.mpr ⟨fun size _ => ?_, ?_⟩
  · have alike : ∀ entry ∈ entries.filter (fun entry => entry.length == size), entry.length = size := by
      simp
    refine List.pairwise_iff_forall_sublist.mpr fun pair => ?_
    rw [alike _ (pair.subset (by simp)), alike _ (pair.subset (by simp))]
  · refine List.pairwise_reverse.mpr (List.pairwise_lt_range.imp ?_)
    intro small large below first inFirst second inSecond
    simp only [List.mem_filter, beq_iff_eq] at inFirst inSecond
    omega

theorem Occurs.begins_visible {hyphens : Bool} {phrase : Phrase} {raw : List Char} (occurs : Occurs phrase raw)
    (entry : phrase.isEntry hyphens) (rest : List Char) : begins isBlank (raw ++ rest) = false := by
  obtain ⟨c, tail, rfl, letter, _⟩ := occurs.first entry
  exact isBlank_eq_false_of_isWordChar letter

/-- Of two entries that stand at the same place, the one that reaches further is the longer one. -/
theorem Occurs.intercalate_lt {hyphens : Bool} {short long : Phrase} {raw longer rest later : List Char}
    (occurs : Occurs short raw) (reaches : Occurs long longer) (entry : short.isEntry hyphens)
    (longEntry : long.isEntry hyphens) (split : raw ++ rest = longer ++ later)
    (further : raw.length < longer.length) :
    ([' '].intercalate short).length < ([' '].intercalate long).length := by
  induction occurs generalizing long longer with
  | @last part spelled pairs =>
    cases reaches with
    | @last other written others => simpa [pairs.length_eq, others.length_eq] using further
    | @more other next parts written gap after others isGap someGap _ =>
      -- the first part of the longer entry does not stop before that of the shorter one
      rw [List.append_assoc, List.append_assoc] at split
      obtain ⟨tail, rfl, _⟩ := part_within (Phrase.isEntry_singleton entry) pairs split.symm
        (begins_gap hyphens isGap someGap _)
      have size := others.length_eq
      rw [List.length_append, ← pairs.length_eq] at size
      simp only [List.intercalate_singleton, List.intercalate_cons_cons, List.length_append, List.length_singleton]
      omega
  | @more part next parts spelled gap back pairs isGap someGap occurs ih =>
    obtain ⟨first, tail⟩ := Phrase.isEntry_tail entry
    rw [List.append_assoc, List.append_assoc] at split
    cases reaches with
    | @last other written others =>
      obtain ⟨beyond, rfl, _⟩ := part_within (Phrase.isEntry_singleton longEntry) others split
        (begins_gap hyphens isGap someGap _)
      simp only [List.length_append] at further
      omega
    | @more other following more written space after others isSpace someSpace goesOn =>
      obtain ⟨otherFirst, otherTail⟩ := Phrase.isEntry_tail longEntry
      rw [List.append_assoc, List.append_assoc] at split
      -- each first part ends where the other one does, and so do the blanks after them
      obtain ⟨extra, covers, _⟩ := part_within otherFirst others split (begins_gap hyphens isGap someGap _)
      obtain ⟨_, covered, _⟩ := part_within first pairs split.symm (begins_gap hyphens isSpace someSpace _)
      have sameSize : spelled.length = written.length := by
        have above := congrArg List.length covers
        have below := congrArg List.length covered
        rw [List.length_append] at above below
        omega
      obtain ⟨rfl, blanks⟩ := List.append_inj split sameSize
      obtain ⟨rfl, inner⟩ := gap_append_inj blanks isGap isSpace (occurs.begins_visible tail _)
        (goesOn.begins_visible otherTail _)
      have less := ih goesOn tail otherTail inner (by simpa using further)
      have size := pairs.length_eq.trans others.length_eq.symm
      simp only [List.intercalate_cons_cons, List.length_append]
      omega

/-- The entry that a phrase of a list comes from. The phrases of longer entries stand before it. -/
theorem exists_entry_of_phrases {entries : List String} {before after : List Phrase} {word : Phrase}
    (split : phrases entries = before ++ word :: after) :
    ∃ entry ∈ entries, blankParts entry.toList = word ∧
      ∀ other ∈ entries, entry.length < other.length → blankParts other.toList ∈ before := by
  obtain ⟨front, back, order, rfl, atBack⟩ := List.map_eq_append_iff.mp split
  obtain ⟨text, tail, rfl, rfl, _⟩ := List.map_eq_cons_iff.mp atBack
  have member : text ∈ entries.map String.toList := mem_longestFirst.mp (by simp [order])
  obtain ⟨entry, inEntries, rfl⟩ := List.mem_map.mp member
  refine ⟨entry, inEntries, rfl, fun other inOthers longer => ?_⟩
  have sorted := longestFirst_pairwise (entries.map String.toList)
  have listed : other.toList ∈ longestFirst (entries.map String.toList) :=
    mem_longestFirst.mpr (List.mem_map_of_mem inOthers)
  rw [← String.length_toList, ← String.length_toList] at longer
  rw [order] at sorted listed
  rcases List.mem_append.mp listed with inFront | inBack
  · exact List.mem_map_of_mem inFront
  · rcases List.mem_cons.mp inBack with same | inTail
    · rw [same] at longer
      omega
    · have shorter := (List.pairwise_cons.mp (List.pairwise_append.mp sorted).2.1).1 _ inTail
      omega

section Reserved

variable {dialect : Dialect} {reservedClass : ReservedClass}

theorem Dialect.isEntry_of_listed {entry : String} (member : entry ∈ dialect.lexicon.reserved reservedClass) :
    Phrase.isEntry dialect.hyphens (blankParts entry.toList) :=
  (Bool.and_eq_true_iff.mp (Dialect.isReservedEntry_entry member)).1

theorem Dialect.reserved_rule {entry : String} (member : entry ∈ dialect.lexicon.reserved reservedClass) :
    Rule.reserved reservedClass (phrases (dialect.lexicon.reserved reservedClass)) ∈ dialect.rules := by
  have some := List.ne_nil_of_mem member
  cases reservedClass <;> simp_all [Dialect.rules, Lexicon.rules, Lexicon.reserved, reservedRule, unlessEmpty]

/-- Where the words of a class are not read although no period stands before, none of them matches. -/
theorem Dialect.not_matchesEntry {previous : Option Token} {text : List Char}
    (free : followsPeriod previous = false)
    (failed : ∀ words, Rule.reserved reservedClass words ∈ dialect.rules →
      (Rule.reserved reservedClass words).read? previous text = none)
    {entry : String} (member : entry ∈ dialect.lexicon.reserved reservedClass) (raw : List Char) :
    ¬ MatchesEntry entry text raw := by
  intro found
  obtain ⟨rest, split, occurs, ends⟩ := (matchesEntry_iff (Dialect.isEntry_of_listed member)).mp found
  have rule := Dialect.reserved_rule member
  have blocked := (Dialect.reserved_read?_eq_none_iff rule).mp (failed _ rule) _
    (mem_phrases.mpr ⟨entry, member, rfl⟩) ⟨raw, rest, split, occurs, ends⟩
  rw [free] at blocked
  cases blocked

/-- A reserved word is the longest entry of its list that matches where it stands. -/
theorem ReadBy.longest {before : Option Token} {token : Token} {rest : List Char} {words : List Phrase}
    (reads : ReadBy dialect before (token.raw ++ rest) token (.reserved reservedClass words))
    (someRaw : token.raw ≠ []) :
    ∃ entry ∈ dialect.lexicon.reserved reservedClass, MatchesEntry entry (token.raw ++ rest) token.raw ∧
      ∀ other ∈ dialect.lexicon.reserved reservedClass, ∀ raw, MatchesEntry other (token.raw ++ rest) raw →
        other.length ≤ entry.length ∧ raw.length ≤ token.raw.length := by
  have entries : ∀ word ∈ words, word.isEntry dialect.hyphens := Dialect.isEntry_of_mem_words reads.member
  obtain ⟨_, found⟩ := reads.reserved someRaw
  obtain ⟨ends, before, word, after, split, occurs, failed⟩ := (wordExtent?_eq_some_iff entries).mp found
  rw [Dialect.reserved_mem reads.member] at split
  obtain ⟨entry, member, rfl, longer⟩ := exists_entry_of_phrases split
  have isEntry := Dialect.isEntry_of_listed member
  refine ⟨entry, member, (matchesEntry_iff isEntry).mpr ⟨rest, rfl, occurs, ends⟩,
    fun other inOthers raw also => ?_⟩
  have otherEntry := Dialect.isEntry_of_listed inOthers
  obtain ⟨later, otherSplit, otherOccurs, otherEnds⟩ := (matchesEntry_iff otherEntry).mp also
  have notLonger : other.length ≤ entry.length := by
    by_contra above
    exact failed _ (longer other inOthers (by omega)) ⟨raw, later, otherSplit, otherOccurs, otherEnds⟩
  refine ⟨notLonger, ?_⟩
  by_contra further
  have less := occurs.intercalate_lt otherOccurs isEntry otherEntry otherSplit (by omega)
  rw [Dialect.intercalate_entry member, Dialect.intercalate_entry inOthers, String.length_toList,
    String.length_toList] at less
  omega

end Reserved

theorem ReservedClass.kind_injective : Function.Injective ReservedClass.kind := by
  intro first second same
  cases first <;> cases second <;> simp_all [ReservedClass.kind]

theorem ReservedClass.rank_lt {earlier reservedClass : ReservedClass} (member : earlier ∈ reservedClass.earlier)
    (words others : List Phrase) :
    (Rule.reserved earlier words).rank < (Rule.reserved reservedClass others).rank := by
  cases reservedClass <;> simp only [ReservedClass.earlier, List.mem_cons, List.not_mem_nil, or_false] at member
  · subst member
    simp [Rule.rank]
  · rcases member with rfl | rfl <;> simp [Rule.rank]

theorem followsPeriod_eq_false_iff {previous : Option Token} :
    followsPeriod previous = false ↔ ∀ token, previous = some token → token.value ≠ ['.'] := by
  cases previous <;> simp [followsPeriod]

/-- The words of each class are read by their lists. A token of a class follows no period and covers the
longest entry of its list that matches where it stands, while no entry of a list that is tried earlier
matches there. Where a name stands that follows no period, no entry of any list matches. -/
theorem Dialect.tokenize_classified (dialect : Dialect) (text : List Char) {before after : List Token}
    {token : Token} (split : tokenize dialect.rules text = before ++ token :: after) :
    let here := text.drop (before.map Token.raw).flatten.length
    let free := ∀ previous, before.getLast? = some previous → previous.value ≠ ['.']
    (∀ reservedClass : ReservedClass, token.kind = reservedClass.kind →
      free ∧
      (∃ entry ∈ dialect.lexicon.reserved reservedClass, MatchesEntry entry here token.raw ∧
        ∀ other ∈ dialect.lexicon.reserved reservedClass, ∀ raw, MatchesEntry other here raw →
          other.length ≤ entry.length ∧ raw.length ≤ token.raw.length) ∧
      ∀ earlier ∈ reservedClass.earlier, ∀ entry ∈ dialect.lexicon.reserved earlier, ∀ raw,
        ¬ MatchesEntry entry here raw) ∧
    (token.kind = .word → free → ∀ reservedClass, ∀ entry ∈ dialect.lexicon.reserved reservedClass, ∀ raw,
      ¬ MatchesEntry entry here raw) := by
  intro here free
  obtain ⟨someRaw, whole, rule, reads⟩ := Dialect.reads_at split
  have atHere : here = token.raw ++ (after.map Token.raw).flatten := by
    simp only [here]
    rw [whole, List.drop_left]
  rw [atHere]
  refine ⟨fun reservedClass kind => ?_, fun kind isFree reservedClass entry member raw => ?_⟩
  · have sort : rule.kind ∈ [Kind.reserved, .clause, .continuation] := by
      rw [← reads.kind, kind]
      cases reservedClass <;> simp [ReservedClass.kind]
    obtain ⟨found, words, rfl⟩ := Rule.exists_reserved_of_kind sort
    obtain rfl : found = reservedClass := ReservedClass.kind_injective (reads.kind.symm.trans kind)
    have isFree := (reads.reserved someRaw).1
    refine ⟨followsPeriod_eq_false_iff.mp isFree, reads.longest someRaw,
      fun earlier inEarlier entry member raw => ?_⟩
    refine Dialect.not_matchesEntry isFree (fun others inRules => ?_) member raw
    exact reads.failed _ inRules (ReservedClass.rank_lt inEarlier _ _)
  · cases reads.ofKind kind
    refine Dialect.not_matchesEntry (followsPeriod_eq_false_iff.mpr isFree) (fun words inRules => ?_) member raw
    exact reads.failed _ inRules (by cases reservedClass <;> simp [Rule.rank])

/-- In `t.by Group BY` the first `by` is a name and the second belongs to a clause word, across a line
break. -/
theorem Dialect.tokenize_classified_groupBy :
    tokenize Dialect.n1ql.rules "t.by Group\n BY".toList =
        [⟨.word, ['t'], ['t'], []⟩, ⟨.operator, ['.'], ['.'], []⟩, ⟨.word, ['b', 'y'], ['b', 'y'], []⟩,
          ⟨.blank, [' '], [' '], []⟩] ++ [⟨.clause, "GROUP\n BY".toList, "Group\n BY".toList, []⟩] ∧
      ∃ entry ∈ Dialect.n1ql.lexicon.clauseWords,
        MatchesEntry entry ("t.by Group\n BY".toList.drop 5) "Group\n BY".toList := by
  have split : tokenize Dialect.n1ql.rules "t.by Group\n BY".toList =
      [⟨.word, ['t'], ['t'], []⟩, ⟨.operator, ['.'], ['.'], []⟩, ⟨.word, ['b', 'y'], ['b', 'y'], []⟩,
        ⟨.blank, [' '], [' '], []⟩] ++ [⟨.clause, "GROUP\n BY".toList, "Group\n BY".toList, []⟩] := by
    rw [← Dialect.byteRules_eq]
    decide +kernel
  obtain ⟨_, ⟨entry, member, found, _⟩, _⟩ := (Dialect.tokenize_classified .n1ql _ split).1 .clause rfl
  exact ⟨split, entry, member, found⟩

end QueryLayout
