import QueryLayout.Proofs.Cascade
import QueryLayout.Proofs.CharClass

namespace QueryLayout

theorem startsWith_eq_isPrefixOf (part text : List Char) :
    startsWith (· == ·) part text = part.isPrefixOf text := by
  fun_induction startsWith (· == ·) part text with
  | case1 => rfl
  | case2 => rfl
  | case3 p part c text ih => rw [ih]; rfl

/-- A mark of one part. -/
def Phrase.isMark (mark : Phrase) : Bool :=
  mark == [mark.flatten] && !mark.flatten.isEmpty

theorem Phrase.extent?_mark {mark : Phrase} (single : mark.isMark) (text : List Char) :
    mark.extent? (· == ·) text =
      if mark.flatten.isPrefixOf text then some mark.flatten.length else none := by
  have split : mark = [mark.flatten] := by
    simp only [Phrase.isMark, Bool.and_eq_true, beq_iff_eq] at single
    exact single.1
  rw [split]
  simp [Phrase.extent?, startsWith_eq_isPrefixOf]

/-- The fixed texts that a rule begins with, where a rule begins with one of a few. -/
def Rule.openers : Rule → List (List Char)
  | .lineComment marks => marks.map List.flatten
  | .blockComment => [['/', '*']]
  | .literal styles => styles.map QuoteStyle.opening
  | .bracketSymbol _ symbols => symbols.map fun c => [c]
  | .quotedPlaceholder marks styles =>
    marks.flatMap fun mark => styles.map fun style => mark.flatten ++ style.opening
  | .positionalPlaceholder marks => marks.map List.flatten
  | _ => []

/-- Whether a rule begins with one of a few fixed texts. -/
def Rule.isFixed : Rule → Bool
  | .lineComment _ | .blockComment | .literal _ | .bracketSymbol _ _ | .quotedPlaceholder _ _ => true
  | .positionalPlaceholder _ => true
  | _ => false

def Rule.isOpener : Rule → Bool
  | .lineComment marks => marks.all Phrase.isMark
  | .blockComment => true
  | .literal _ => true
  | .bracketSymbol _ _ => true
  | .quotedPlaceholder marks _ => marks.all Phrase.isMark
  | .positionalPlaceholder marks => marks.all Phrase.isMark
  | _ => false

theorem markExtent?_eq_none_iff {marks : List Phrase} (single : marks.all Phrase.isMark) {text : List Char} :
    markExtent? marks text = none ↔ ∀ mark ∈ marks, ¬ mark.flatten <+: text := by
  simp only [List.all_eq_true] at single
  simp only [markExtent?, List.findSome?_eq_none_iff]
  refine forall₂_congr fun mark member => ?_
  rw [Phrase.extent?_mark (single mark member), ← List.isPrefixOf_iff_prefix]
  split <;> simp_all

theorem literalExtent?_eq_none_iff {styles : List QuoteStyle} {text : List Char} :
    literalExtent? styles text = none ↔ ∀ style ∈ styles, ¬ style.opening <+: text := by
  simp only [literalExtent?, List.findSome?_eq_none_iff]
  refine forall₂_congr fun style member => ?_
  rw [QuoteStyle.extent?, ← List.isPrefixOf_iff_prefix]
  split <;> simp_all

theorem quotedMatch?_eq_none_iff {marks : List Phrase} (single : marks.all Phrase.isMark)
    {styles : List QuoteStyle} {text : List Char} :
    quotedMatch? marks styles text = none ↔
      ∀ mark ∈ marks, ∀ style ∈ styles, ¬ mark.flatten ++ style.opening <+: text := by
  simp only [List.all_eq_true] at single
  simp only [quotedMatch?, List.findSome?_eq_none_iff]
  refine forall₂_congr fun mark member => ?_
  rw [Phrase.extent?_mark (single mark member)]
  by_cases starts : mark.flatten.isPrefixOf text
  · obtain ⟨rest, rfl⟩ := List.isPrefixOf_iff_prefix.mp starts
    simp only [starts, if_true, Option.bind_some, List.drop_left, Option.map_eq_none_iff,
      literalExtent?_eq_none_iff, List.prefix_append_right_inj]
  · simp only [starts, Bool.false_eq_true, if_false, Option.bind_none, true_iff]
    intro style _ both
    exact starts (List.isPrefixOf_iff_prefix.mpr ((List.prefix_append _ _).trans both))

theorem Phrase.extent?_mark_pos {mark : Phrase} (single : mark.isMark) {text : List Char} {length : Nat}
    (found : mark.extent? (· == ·) text = some length) : 0 < length := by
  rw [Phrase.extent?_mark single] at found
  simp only [Phrase.isMark, Bool.and_eq_true] at single
  split at found
  · cases found
    exact List.length_pos_iff.mpr (by simpa using single.2)
  · cases found

theorem markExtent?_pos {marks : List Phrase} (single : marks.all Phrase.isMark) {text : List Char} {length : Nat}
    (found : markExtent? marks text = some length) : 0 < length := by
  obtain ⟨mark, member, atMark⟩ := List.exists_of_findSome?_eq_some found
  exact Phrase.extent?_mark_pos (List.all_eq_true.mp single mark member) atMark

theorem literalExtent?_pos {styles : List QuoteStyle} {text : List Char} {length : Nat}
    (found : literalExtent? styles text = some length) : 0 < length := by
  obtain ⟨style, _, atStyle⟩ := List.exists_of_findSome?_eq_some found
  unfold QuoteStyle.extent? at atStyle
  split at atStyle
  · cases atStyle
    have positive : 0 < style.opening.length := by cases style <;> decide
    omega
  · cases atStyle

theorem Rule.match?_pos {rule : Rule} (opener : rule.isOpener) {before : Option Char} {text : List Char}
    {found : Match} (matched : rule.match? before text = some found) : 0 < found.length := by
  cases rule with
  | lineComment marks =>
    obtain ⟨lead, atLead, rfl⟩ := Option.map_eq_some_iff.mp matched
    exact Nat.add_pos_left (markExtent?_pos opener atLead) _
  | blockComment =>
    simp only [Rule.match?] at matched
    split at matched
    · cases matched
      exact Nat.add_pos_left (by decide) _
    · cases matched
  | literal styles =>
    obtain ⟨length, atLiteral, rfl⟩ := Option.map_eq_some_iff.mp matched
    exact literalExtent?_pos atLiteral
  | bracketSymbol side symbols =>
    simp only [Rule.match?] at matched
    split at matched
    · cases matched
      exact Nat.one_pos
    · cases matched
  | quotedPlaceholder marks styles =>
    obtain ⟨mark, member, atMark⟩ := List.exists_of_findSome?_eq_some matched
    obtain ⟨lead, atLead, rest⟩ := Option.bind_eq_some_iff.mp atMark
    obtain ⟨length, _, rfl⟩ := Option.map_eq_some_iff.mp rest
    exact Nat.add_pos_left (Phrase.extent?_mark_pos (List.all_eq_true.mp opener mark member) atLead) _
  | positionalPlaceholder marks =>
    obtain ⟨lead, atLead, rfl⟩ := Option.map_eq_some_iff.mp matched
    exact Nat.add_pos_left (markExtent?_pos opener atLead) _
  | _ => cases opener

theorem Rule.match?_eq_none_iff {rule : Rule} (opener : rule.isOpener) {before : Option Char} {text : List Char} :
    rule.match? before text = none ↔ ∀ opener ∈ rule.openers, ¬ opener <+: text := by
  cases rule with
  | lineComment marks =>
    simp only [Rule.match?, Option.map_eq_none_iff, markExtent?_eq_none_iff opener, Rule.openers,
      List.forall_mem_map]
  | blockComment =>
    simp only [Rule.match?, Rule.openers, List.mem_singleton, forall_eq]
    split
    · simp
    · rename_i other
      refine iff_of_true rfl ?_
      rintro ⟨rest, rfl⟩
      exact other rest rfl
  | literal styles =>
    simp only [Rule.match?, Option.map_eq_none_iff, literalExtent?_eq_none_iff, Rule.openers, List.forall_mem_map]
  | bracketSymbol side symbols =>
    simp only [Rule.match?, Rule.openers, List.forall_mem_map]
    cases text with
    | nil => simp
    | cons c rest =>
      simp only [List.cons_prefix_cons, List.head?_cons, Option.any_some, List.contains_iff_mem]
      by_cases member : c ∈ symbols
      · simp [member]
      · simp only [member, if_false, true_iff]
        rintro d inSymbols ⟨rfl, _⟩
        exact member inSymbols
  | quotedPlaceholder marks styles =>
    simp only [Rule.match?, quotedMatch?_eq_none_iff opener, Rule.openers, List.mem_flatMap, List.mem_map]
    constructor
    · rintro none _ ⟨mark, inMarks, style, inStyles, rfl⟩
      exact none mark inMarks style inStyles
    · intro none mark inMarks style inStyles
      exact none _ ⟨mark, inMarks, style, inStyles, rfl⟩
  | positionalPlaceholder marks =>
    simp only [Rule.match?, positionalMatch?, Option.map_eq_none_iff, markExtent?_eq_none_iff opener, Rule.openers,
      List.forall_mem_map]
  | _ => cases opener

/-- A rule with fixed beginnings reads nothing exactly where none of them stands. -/
theorem Rule.read?_eq_none_iff_openers {rule : Rule} (opener : rule.isOpener) {previous : Option Token}
    {text : List Char} :
    rule.read? previous text = none ↔ ∀ opener ∈ rule.openers, ¬ opener <+: text := by
  have free : (rule.yieldsToPeriod && followsPeriod previous) = false := by
    cases rule <;> first | rfl | cases opener
  have unmatched : rule.match? (lastChar previous) text = none ↔ _ := Rule.match?_eq_none_iff opener
  rw [Rule.read?_eq_none_iff, ← unmatched]
  simp only [free, Bool.false_eq_true, false_or]
  constructor
  · intro empty
    by_contra something
    obtain ⟨found, matched⟩ := Option.ne_none_iff_exists'.mp something
    exact (Rule.match?_pos opener matched).ne' (empty found matched)
  · intro nothing found matched
    rw [nothing] at matched
    cases matched

/-- A fixed text that does not stand at the start of one text stands at the start of no other one
that agrees with it for a while and then goes on with a character that the fixed text does not have there. -/
theorem not_prefix_of_append {opener first second other : List Char} (absent : ¬ opener <+: first ++ second)
    (fits : ∀ c, other.head? = some c → ¬ first ++ [c] <+: opener) : ¬ opener <+: first ++ other := by
  rintro ⟨later, split⟩
  rcases List.append_eq_append_iff.mp split with ⟨extra, rfl, _⟩ | ⟨extra, rfl, rfl⟩
  · exact absent (by simp)
  · cases extra with
    | nil => exact absent (by simp)
    | cons c extra => exact fits c rfl (by simp)

end QueryLayout
