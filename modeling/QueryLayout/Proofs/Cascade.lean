import QueryLayout.Dialect
import QueryLayout.Proofs.Reading

namespace QueryLayout

theorem BracketSide.mem_all (side : BracketSide) : side ∈ [BracketSide.opening, .closing] := by
  cases side <;> simp

theorem ReservedClass.mem_all (reservedClass : ReservedClass) :
    reservedClass ∈ [ReservedClass.clause, .continuation, .plain] := by
  cases reservedClass <;> simp

/-- The place of a rule among the rules of any lexicon. -/
def Rule.rank : Rule → Nat
  | .blank => 0
  | .lineComment _ => 1
  | .blockComment => 2
  | .literal _ => 3
  | .bracketSymbol .opening _ => 4
  | .bracketWord .opening _ => 5
  | .bracketSymbol .closing _ => 6
  | .bracketWord .closing _ => 7
  | .namedPlaceholder _ => 8
  | .quotedPlaceholder _ _ => 9
  | .positionalPlaceholder _ => 10
  | .number => 11
  | .reserved .clause _ => 12
  | .reserved .continuation _ => 13
  | .reserved .plain _ => 14
  | .word _ => 15
  | .operator => 16

def Lexicon.brackets (lexicon : Lexicon) : BracketSide → List String
  | .opening => lexicon.openBrackets
  | .closing => lexicon.closeBrackets

def Lexicon.symbols (lexicon : Lexicon) (side : BracketSide) : List Char :=
  ((lexicon.brackets side).map String.toList).filterMap fun
    | [c] => some c
    | _ => none

def Lexicon.bracketWords (lexicon : Lexicon) (side : BracketSide) : List String :=
  (lexicon.brackets side).filter fun bracket => 1 < bracket.length

def Lexicon.reserved (lexicon : Lexicon) : ReservedClass → List String
  | .clause => lexicon.clauseWords
  | .continuation => lexicon.continuationWords
  | .plain => lexicon.reservedWords

/-- All rules that a lexicon can have, whether or not it leaves their entries empty. -/
def Lexicon.table (lexicon : Lexicon) : List Rule :=
  [.blank, .lineComment (phrases lexicon.lineCommentMarks), .blockComment, .literal lexicon.quoteStyles,
    .bracketSymbol .opening (lexicon.symbols .opening),
    .bracketWord .opening (phrases (lexicon.bracketWords .opening)),
    .bracketSymbol .closing (lexicon.symbols .closing),
    .bracketWord .closing (phrases (lexicon.bracketWords .closing)),
    .namedPlaceholder (phrases lexicon.namedMarks),
    .quotedPlaceholder (phrases lexicon.namedMarks) lexicon.quoteStyles,
    .positionalPlaceholder (phrases lexicon.positionalMarks), .number,
    .reserved .clause (phrases lexicon.clauseWords),
    .reserved .continuation (phrases lexicon.continuationWords),
    .reserved .plain (phrases lexicon.reservedWords), .word lexicon.extraWordChars, .operator]

theorem unlessEmpty_sublist {α : Type} (entries : List α) (rule : Rule) :
    (unlessEmpty entries rule).Sublist [rule] := by
  unfold unlessEmpty
  split
  · exact List.nil_sublist _
  · exact List.Sublist.refl _

theorem bracketRules_sublist (lexicon : Lexicon) (side : BracketSide) :
    (bracketRules side (lexicon.brackets side)).Sublist
      [.bracketSymbol side (lexicon.symbols side), .bracketWord side (phrases (lexicon.bracketWords side))] :=
  (unlessEmpty_sublist _ _).append (unlessEmpty_sublist _ _)

theorem placeholderRules_sublist (lexicon : Lexicon) :
    (placeholderRules lexicon).Sublist
      [.namedPlaceholder (phrases lexicon.namedMarks),
        .quotedPlaceholder (phrases lexicon.namedMarks) lexicon.quoteStyles,
        .positionalPlaceholder (phrases lexicon.positionalMarks)] := by
  have quoted : (if (phrases lexicon.namedMarks).isEmpty then []
      else unlessEmpty lexicon.quoteStyles
        (.quotedPlaceholder (phrases lexicon.namedMarks) lexicon.quoteStyles)).Sublist
      [.quotedPlaceholder (phrases lexicon.namedMarks) lexicon.quoteStyles] := by
    split
    · exact List.nil_sublist _
    · exact unlessEmpty_sublist _ _
  exact ((unlessEmpty_sublist _ _).append quoted).append (unlessEmpty_sublist _ _)

theorem Lexicon.rules_sublist (lexicon : Lexicon) : lexicon.rules.Sublist lexicon.table := by
  have front := ((List.Sublist.refl [Rule.blank]).append
    (unlessEmpty_sublist lexicon.lineCommentMarks (.lineComment (phrases lexicon.lineCommentMarks)))).append
    (List.Sublist.refl [Rule.blockComment])
  have quotes := unlessEmpty_sublist lexicon.quoteStyles (.literal lexicon.quoteStyles)
  have brackets := (bracketRules_sublist lexicon .opening).append (bracketRules_sublist lexicon .closing)
  have words := ((unlessEmpty_sublist lexicon.clauseWords (.reserved .clause (phrases lexicon.clauseWords))).append
    (unlessEmpty_sublist lexicon.continuationWords
      (.reserved .continuation (phrases lexicon.continuationWords)))).append
    (unlessEmpty_sublist lexicon.reservedWords (.reserved .plain (phrases lexicon.reservedWords)))
  have whole := ((((front.append quotes).append brackets).append (placeholderRules_sublist lexicon)).append
    ((List.Sublist.refl [Rule.number]).append words)).append
    (List.Sublist.refl [Rule.word lexicon.extraWordChars, .operator])
  simpa only [Lexicon.rules, Lexicon.table, reservedRule, Lexicon.brackets, List.append_assoc, List.cons_append,
    List.nil_append] using whole

theorem Lexicon.rules_pairwise (lexicon : Lexicon) :
    lexicon.rules.Pairwise fun first second => first.rank < second.rank := by
  have ranks : lexicon.table.map Rule.rank = List.range 17 := rfl
  have sorted : (lexicon.table.map Rule.rank).Pairwise (· < ·) := ranks ▸ List.pairwise_lt_range
  exact (List.pairwise_map.mp sorted).sublist lexicon.rules_sublist

/-- The token read first is that of a rule such that no rule of lower rank reads one. -/
theorem Lexicon.readFirst?_eq_some_iff {lexicon : Lexicon} {previous : Option Token} {text : List Char}
    {token : Token} :
    readFirst? lexicon.rules previous text = some token ↔
      ∃ rule ∈ lexicon.rules, rule.read? previous text = some token ∧
        ∀ earlier ∈ lexicon.rules, earlier.rank < rule.rank → earlier.read? previous text = none := by
  constructor
  · intro read
    obtain ⟨before, rule, after, split, atRule, failed⟩ := List.findSome?_eq_some_iff.mp read
    have sorted := lexicon.rules_pairwise
    rw [split] at sorted ⊢
    refine ⟨rule, by simp, atRule, fun earlier member lower => ?_⟩
    rcases List.mem_append.mp member with inBefore | inAfter
    · exact failed earlier inBefore
    · have later := (List.pairwise_append.mp sorted).2.1
      rcases List.mem_cons.mp inAfter with rfl | inAfter
      · exact absurd lower (Nat.lt_irrefl _)
      · have above := (List.pairwise_cons.mp later).1 earlier inAfter
        omega
  · rintro ⟨rule, member, atRule, failed⟩
    obtain ⟨before, after, split⟩ := List.append_of_mem member
    refine List.findSome?_eq_some_iff.mpr ⟨before, rule, after, split, atRule, fun earlier inBefore => ?_⟩
    have sorted := lexicon.rules_pairwise
    rw [split] at sorted failed
    exact failed earlier (by simp [inBefore]) ((List.pairwise_append.mp sorted).2.2 earlier inBefore rule (by simp))

end QueryLayout
