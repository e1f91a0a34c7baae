import QueryLayout.Proofs.Readers
import QueryLayout.Proofs.Unquoting

namespace QueryLayout

namespace QuoteStyle

/-- The glyphs that spell a name between quotes. -/
def spell (style : QuoteStyle) (name : List Char) : List Glyph :=
  name.map fun c => if c = style.closing then .doubled else .plain c

/-- A name between quotes, with every closing quote in it doubled. -/
def quote (style : QuoteStyle) (name : List Char) : List Char :=
  style.opening ++ (name.flatMap (fun c => if c = style.closing then [c, c] else [c]) ++ [style.closing])

variable {style : QuoteStyle} {name rest : List Char}

theorem quote_eq (style : QuoteStyle) (name : List Char) :
    style.quote name =
      style.opening ++ ((style.spell name).flatMap (Glyph.written style.closing) ++ [style.closing]) := by
  have written : (style.spell name).flatMap (Glyph.written style.closing) =
      name.flatMap fun c => if c = style.closing then [c, c] else [c] := by
    rw [spell, List.flatMap_map]
    congr 1
    funext c
    split <;> simp_all [Glyph.written]
  rw [written, quote]

theorem meant_spell (style : QuoteStyle) (name : List Char) :
    (style.spell name).flatMap (Glyph.meant style.closing) = name := by
  induction name with
  | nil => rfl
  | cons c name ih =>
    rw [spell, List.map_cons, List.flatMap_cons, ← spell, ih]
    split <;> simp_all [Glyph.meant]

theorem mem_spell {glyph : Glyph} (member : glyph ∈ style.spell name) :
    glyph = .doubled ∨ ∃ c ∈ name, c ≠ style.closing ∧ glyph = .plain c := by
  obtain ⟨c, inName, rfl⟩ := List.mem_map.mp member
  by_cases quote : c = style.closing
  · exact Or.inl (if_pos quote)
  · exact Or.inr ⟨c, inName, quote, if_neg quote⟩

/-- A reader of a quoted name takes the glyphs that spell it. -/
theorem scans_spell (plain : '\\' ∉ name) (rest : List Char) :
    style.Scans ((style.spell name).flatMap (Glyph.written style.closing) ++ rest) (style.spell name) rest := by
  induction name with
  | nil => exact .here
  | cons c name ih =>
    obtain ⟨notBackslash, later⟩ := not_or.mp (List.mem_cons.not.mp plain)
    rw [spell, List.map_cons, List.flatMap_cons, List.append_assoc, ← spell]
    refine .step ?_ (ih later)
    by_cases quote : c = style.closing
    · rw [if_pos quote]
      exact .doubled
    · rw [if_neg quote]
      exact .plain quote fun _ backslash => absurd backslash.symm notBackslash

/-- The literal that a quoted name is goes to its closing quote. -/
theorem literalExtent?_quote {styles : List QuoteStyle} (enabled : style ∈ styles) (plain : '\\' ∉ name)
    (apart : begins (· == style.closing) rest = false) :
    literalExtent? styles (style.quote name ++ rest) = some (style.quote name).length := by
  rw [quote_eq, List.append_assoc, literalExtent?_opening enabled, List.append_assoc,
    (scans_spell plain _).literalBody_eq, List.singleton_append, literalBody_closing apart]
  simp

theorem not_misread_spell (plain : '\\' ∉ name) : ¬ Misread style.closing true (style.spell name) := by
  have noEscape : ∀ c, .escaped c ∉ style.spell name := by
    intro c member
    rcases mem_spell member with same | ⟨_, _, _, same⟩ <;> cases same
  rintro (⟨backslash, found⟩ | ⟨between, found⟩ | ⟨_, opened, _⟩)
  · rcases backslash with rfl | rfl
    · rcases mem_spell (found.subset List.mem_cons_self) with same | ⟨_, inName, _, same⟩
      · cases same
      · cases same
        exact plain inName
    · exact noEscape _ (found.subset List.mem_cons_self)
  · exact noEscape _ (found.subset List.mem_cons_self)
  · cases opened

/-- Taking the quotes off a quoted name gives the name. -/
theorem unquote_quote (plain : '\\' ∉ name) : unquote (style.quote name) = name := by
  have fits : .plain style.closing ∉ style.spell name := by
    intro member
    rcases mem_spell member with same | ⟨_, _, other, same⟩
    · cases same
    · cases same
      exact other rfl
  have undone : undo style.closing false (bare style.closing true (style.spell name)) = _ :=
    (undo_bare_iff style.closing_ne_backslash fits (Or.inl rfl)).mpr ⟨not_misread_spell plain, nofun⟩
  rw [quote_eq, unquote_opening, List.getLast?_concat, if_pos rfl, List.dropLast_concat]
  exact undone.trans (style.meant_spell name)

end QuoteStyle

section Placeholders

variable {dialect : Dialect} {mark : Char} {style : QuoteStyle} {name rest text : List Char} {rule : Rule}

theorem Dialect.quotedPlaceholder_listed (dialect : Dialect) :
    Rule.quotedPlaceholder (singleMarks dialect.marks) dialect.lexicon.quoteStyles ∈ dialect.rules := by
  have someMarks : phrases dialect.lexicon.namedMarks ≠ [] := by cases dialect <;> decide
  have someStyles : dialect.lexicon.quoteStyles ≠ [] := by cases dialect <;> decide
  rw [← Dialect.phrases_namedMarks]
  simp [Dialect.rules, Lexicon.rules, placeholderRules, unlessEmpty, someMarks, someStyles]

theorem Dialect.namedMark_single {entry : String} (member : entry ∈ dialect.lexicon.namedMarks) :
    ∃ mark ∈ dialect.marks, entry.toList = [mark] := by
  have every : ∀ entry ∈ dialect.lexicon.namedMarks,
      entry.toList.length = 1 ∧ ∀ c ∈ entry.toList, c ∈ dialect.marks := by
    cases dialect <;> decide
  obtain ⟨size, marks⟩ := every entry member
  obtain ⟨mark, single⟩ := List.length_eq_one_iff.mp size
  exact ⟨mark, marks mark (by simp [single]), single⟩

/-- No rule before that for quoted placeholders begins with a mark. -/
theorem Dialect.opener_mark (member : rule ∈ dialect.rules) (early : rule.rank < 9) (isMark : mark ∈ dialect.marks)
    {opener : List Char} (opens : opener ∈ rule.openers) : ¬ opener <+: mark :: text := by
  have every : ∀ rule ∈ dialect.lexicon.table, rule.rank < 9 → ∀ opener ∈ rule.openers, ∀ mark ∈ dialect.marks,
      opener ≠ [] ∧ opener.head? ≠ some mark := by
    cases dialect <;> decide
  obtain ⟨someOpener, other⟩ :=
    every rule (dialect.lexicon.rules_sublist.subset member) early opener opens mark isMark
  obtain ⟨c, tail, rfl⟩ := List.exists_cons_of_ne_nil someOpener
  intro starts
  exact other (congrArg some (List.cons_prefix_cons.mp starts).1)

/-- Where a mark stands before what is no key, no rule before that for quoted placeholders reads anything. -/
theorem Dialect.before_quoted (member : rule ∈ dialect.rules) (early : rule.rank < 9)
    (isMark : mark ∈ dialect.marks) (keyless : begins isKeyChar text = false) (before : Option Token) :
    rule.read? before (mark :: text) = none := by
  obtain ⟨noWord, visible, _⟩ := Dialect.mark_sort (List.mem_append_left _ isMark)
  have fixed : rule.isFixed → rule.read? before (mark :: text) = none := fun fixed =>
    (Rule.read?_eq_none_iff_openers (Dialect.isOpener_of_isFixed member fixed)).mpr fun _ opens =>
      Dialect.opener_mark member early isMark opens
  cases rule with
  | blank => exact blank_read?_eq_none_iff.mpr visible
  | bracketWord => exact Dialect.words_pass member rfl (Or.inl noWord)
  | namedPlaceholder => exact (Dialect.named_read?_eq_none_iff member).mpr fun _ => keyless
  | number | word | operator => simp [Rule.rank] at early
  | reserved reservedClass => cases reservedClass <;> simp [Rule.rank] at early
  | _ => exact fixed rfl

theorem QuoteStyle.quote_keyless (notNational : style ≠ .national) (name rest : List Char) :
    begins isKeyChar (style.quote name ++ rest) = false := by
  cases style with
  | national => exact absurd rfl notNational
  | _ => rfl

/-- A name that is quoted after a mark comes back as the key of a placeholder. -/
theorem Dialect.tokenize_quotedName (dialect : Dialect) (entry : String) (style : QuoteStyle)
    (name rest : List Char) (listed : entry ∈ dialect.lexicon.namedMarks)
    (enabled : style ∈ dialect.lexicon.quoteStyles)
    (notNational : style ≠ .national) (plain : '\\' ∉ name) (apart : rest.head? ≠ some style.closing) :
    let raw := entry.toList ++ style.quote name
    (tokenize dialect.rules (raw ++ rest)).head? = some ⟨.placeholder, raw, raw, name⟩ := by
  intro raw
  obtain ⟨mark, isMark, single⟩ := Dialect.namedMark_single listed
  have split : raw = mark :: style.quote name := by rw [← List.singleton_append, ← single]
  have ends : begins (· == style.closing) rest = false := by
    cases rest with
    | nil => rfl
    | cons c rest => simpa using apart
  have matched : (Rule.quotedPlaceholder (singleMarks dialect.marks) dialect.lexicon.quoteStyles).match?
      (lastChar none) (raw ++ rest) = some ⟨raw.length, name⟩ := by
    rw [split, List.cons_append, Rule.match?, quotedMatch?_cons, if_pos isMark,
      QuoteStyle.literalExtent?_quote enabled plain ends, Option.map_some, List.take_left,
      QuoteStyle.unquote_quote plain, List.length_cons, Nat.add_comm]
  -- a quote is no key, and the other rules that a mark can begin come later
  have passed : ∀ earlier ∈ dialect.rules, earlier.rank < 9 → earlier.read? none (raw ++ rest) = none := by
    intro earlier member early
    rw [split]
    exact Dialect.before_quoted member early isMark (QuoteStyle.quote_keyless notNational name rest) none
  have someRaw : raw ≠ [] := by simp [split]
  have read : readFirst? dialect.rules none (raw ++ rest) = some ⟨.placeholder, raw, raw, name⟩ :=
    Dialect.readFirst?_eq_some_iff.mpr
      ⟨_, dialect.quotedPlaceholder_listed, Rule.read?_of_match? rfl someRaw matched, passed⟩
  have next := @scan_next dialect.rules none ⟨.placeholder, raw, raw, name⟩ rest someRaw read
  exact congrArg List.head? next

/-- The name ends in a closing quote, which is doubled before the one that ends the literal. -/
theorem Dialect.tokenize_quotedName_brackets :
    let raw := "@[a b]]]".toList
    "@".toList ++ QuoteStyle.bracket.quote "a b]".toList = raw ∧
      (tokenize Dialect.standard.rules (raw ++ " x".toList)).head? = some ⟨.placeholder, raw, raw, "a b]".toList⟩ :=
  ⟨by decide, Dialect.tokenize_quotedName .standard "@" .bracket "a b]".toList " x".toList
    (by decide) (by decide) (by decide) (by decide) (by decide)⟩

end Placeholders

end QueryLayout
