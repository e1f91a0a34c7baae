import QueryLayout.Proofs.Interleaving
import QueryLayout.Proofs.Passing

namespace QueryLayout

/-- The token that what stands after a gap follows. -/
def across (gap : List Char) (before : Option Token) : Option Token :=
  if gap = [] then before else some (Token.ofRaw .blank gap [])

@[simp] theorem across_nil (before : Option Token) : across [] before = before := rfl

theorem across_of_ne_nil {gap : List Char} (someGap : gap ≠ []) (before : Option Token) :
    across gap before = some (Token.ofRaw .blank gap []) :=
  if_neg someGap

/-- A text cut into its visible tokens, with gaps before, between and after them. -/
inductive Skims (rules : List Rule) : Option Token → List Char → List Token → Prop
  | done {before gap} : IsGap gap → Skims rules before gap []
  | next {before gap token rest tokens} : IsGap gap → token.raw ≠ [] → token.kind ≠ .blank →
      readFirst? rules (across gap before) (token.raw ++ rest) = some token →
      Skims rules (some token) rest tokens →
      Skims rules before (gap ++ (token.raw ++ rest)) (token :: tokens)

variable {lexicon : Lexicon} {before : Option Token} {token : Token} {text rest : List Char} {tokens : List Token}

theorem Lexicon.blank_mem (lexicon : Lexicon) : Rule.blank ∈ lexicon.rules := by
  simp [Lexicon.rules]

/-- A gap is read whole. -/
theorem Lexicon.readFirst?_gap {gap : List Char} (blank : IsGap gap) (someGap : gap ≠ [])
    (visible : begins isBlank text = false) :
    readFirst? lexicon.rules before (gap ++ text) = some (Token.ofRaw .blank gap []) := by
  refine Lexicon.readFirst?_eq_some_iff.mpr ⟨.blank, lexicon.blank_mem, ?_, fun _ _ lower => by cases lower⟩
  refine Rule.read?_of_match? rfl someGap ?_
  simp only [Rule.match?, blankRun_append blank visible]

theorem Lexicon.blank_of_readFirst? (read : readFirst? lexicon.rules before (token.raw ++ rest) = some token)
    (someRaw : token.raw ≠ []) (kind : token.kind = .blank) :
    token = Token.ofRaw .blank token.raw [] ∧ IsGap token.raw ∧ begins isBlank rest = false := by
  obtain ⟨rule, _, atRule, _⟩ := Lexicon.readFirst?_eq_some_iff.mp read
  obtain rfl := Rule.eq_blank_of_kind ((Rule.read?_kind atRule).symm.trans kind)
  obtain ⟨_, key, matched, same⟩ := Rule.match?_of_read? someRaw atRule
  have found := Option.some.inj matched
  have size : runLength isBlank (token.raw ++ rest) = token.raw.length := congrArg Match.length found
  have noKey : [] = key := congrArg Match.key found
  obtain ⟨gap, ends⟩ := runLength_append_iff.mp size
  exact ⟨noKey ▸ same, gap, ends⟩

theorem Lexicon.visible_of_readFirst? (read : readFirst? lexicon.rules before text = some token)
    (kind : token.kind ≠ .blank) : begins isBlank text = false := by
  obtain ⟨rule, _, atRule, failed⟩ := Lexicon.readFirst?_eq_some_iff.mp read
  have high : rule.rank ≠ 0 := by
    intro zero
    rw [Rule.rank_eq_zero zero] at atRule
    exact kind (Rule.read?_kind atRule)
  exact blank_read?_eq_none_iff.mp (failed .blank lexicon.blank_mem (Nat.pos_of_ne_zero high))

theorem visibleTokens_cons_blank (kind : token.kind = .blank) :
    visibleTokens (token :: tokens) = visibleTokens tokens := by
  simp [visibleTokens, kind]

theorem visibleTokens_cons_visible (kind : token.kind ≠ .blank) :
    visibleTokens (token :: tokens) = token :: visibleTokens tokens := by
  simp [visibleTokens, kind]

/-- The visible tokens of a reading are skimmed from the text. -/
theorem Reading.skims (reading : Reading lexicon.rules before text tokens) :
    Skims lexicon.rules before text (visibleTokens tokens) := by
  induction reading with
  | done => exact .done isGap_nil
  | @next before token rest tokens someRaw read _ ih =>
    by_cases kind : token.kind = .blank
    · obtain ⟨same, gap, ends⟩ := Lexicon.blank_of_readFirst? read someRaw kind
      rw [visibleTokens_cons_blank kind]
      generalize visibleTokens tokens = seen at ih
      cases ih with
      | done blank => exact .done (isGap_append.mpr ⟨gap, blank⟩)
      | @next _ space next later seen blank someNext visible readNext skims =>
        -- the gap was read whole, so that nothing of it is left
        have none : space = [] := by
          cases space with
          | nil => rfl
          | cons c space =>
            rw [List.cons_append, begins_cons, (isGap_cons.mp blank).1] at ends
            cases ends
        subst space
        rw [across_nil, same, ← across_of_ne_nil someRaw before] at readNext
        exact .next gap someNext visible readNext skims
    · rw [visibleTokens_cons_visible kind]
      exact .next isGap_nil someRaw kind read ih

theorem Skims.reading (skims : Skims lexicon.rules before text tokens) :
    ∃ all, Reading lexicon.rules before text all ∧ visibleTokens all = tokens := by
  induction skims with
  | @done before gap blank =>
    by_cases empty : gap = []
    · exact ⟨[], empty ▸ .done, rfl⟩
    · have read : readFirst? lexicon.rules before (gap ++ []) = some (Token.ofRaw .blank gap []) :=
        Lexicon.readFirst?_gap blank empty rfl
      have whole :
          Reading lexicon.rules before ((Token.ofRaw .blank gap []).raw ++ []) [Token.ofRaw .blank gap []] :=
        .next empty read .done
      rw [List.append_nil] at whole
      exact ⟨_, whole, rfl⟩
  | @next before gap token rest tokens blank someRaw visible read _ ih =>
    obtain ⟨all, reading, seen⟩ := ih
    have whole : Reading lexicon.rules (across gap before) (token.raw ++ rest) (token :: all) :=
      .next someRaw read reading
    have shown : visibleTokens (token :: all) = token :: tokens := by
      rw [visibleTokens_cons_visible visible, seen]
    by_cases empty : gap = []
    · subst gap
      exact ⟨token :: all, whole, shown⟩
    · have ends := Lexicon.visible_of_readFirst? read visible
      rw [across_of_ne_nil empty] at whole
      refine ⟨Token.ofRaw .blank gap [] :: token :: all, .next empty ?_ whole, ?_⟩
      · exact Lexicon.readFirst?_gap blank empty ends
      · rw [visibleTokens_cons_blank rfl, shown]

/-- The visible tokens of a text are those that can be skimmed from it. -/
theorem Lexicon.visibleTokens_eq_iff :
    visibleTokens (tokenize lexicon.rules text) = tokens ↔ Skims lexicon.rules none text tokens := by
  constructor
  · rintro rfl
    exact (lexicon.reading_tokenize text).skims
  · intro skims
    obtain ⟨all, reading, seen⟩ := skims.reading
    rw [Lexicon.tokenize_eq_iff.mpr reading, seen]

end QueryLayout
