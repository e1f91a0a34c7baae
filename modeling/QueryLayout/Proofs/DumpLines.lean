import Mathlib.Data.Nat.Digits.Defs
import QueryLayout.Dump

namespace QueryLayout

/-- The value of a digit in base sixteen. Above nine the digits are small letters. -/
def hexDigitValue (c : Char) : Nat :=
  if c.isDigit then c.toNat - '0'.toNat else c.toNat - 'a'.toNat + 10

def hexValue (digits : List Char) : Nat :=
  digits.foldl (fun value c => 16 * value + hexDigitValue c) 0

/-- How many digits follow a mark that stands for a code point. -/
def escapeWidth? : Char → Option Nat
  | 'x' => some 2
  | 'u' => some 4
  | 'U' => some 8
  | _ => none

/-- Reads the character that a display begins with, and gives what stands behind it. -/
def readShown : List Char → Option (Char × List Char)
  | [] => none
  | '\\' :: 'n' :: rest => some ('\n', rest)
  | '\\' :: 'r' :: rest => some ('\r', rest)
  | '\\' :: 't' :: rest => some ('\t', rest)
  | '\\' :: mark :: rest =>
    match escapeWidth? mark with
    | some width => some (.ofNat (hexValue (rest.take width)), rest.drop width)
    | none => some (mark, rest)
  | c :: rest => some (c, rest)

/-- What the dump tells about a token. -/
def Token.listed (token : Token) : Kind × List Char × Option (List Char) :=
  (token.kind, token.value, if token.kind = .placeholder then some token.key else none)

/-- What stands behind the index in the line of a token. -/
def dumpEntry (token : Token) : List Char :=
  token.kind.label.toList ++ ' ' :: (displayText token.value ++
    if token.kind = .placeholder then " key=".toList ++ displayText token.key else [])

section Digits

theorem hexDigitValue_digitChar : ∀ d < 16, hexDigitValue (Nat.digitChar d) = d := by
  decide

theorem hexValue_concat (digits : List Char) (c : Char) :
    hexValue (digits ++ [c]) = 16 * hexValue digits + hexDigitValue c := by
  simp [hexValue]

theorem hexValue_toDigits (code : Nat) : hexValue (Nat.toDigits 16 code) = code := by
  induction code using Nat.strong_induction_on with
  | _ code ih =>
    rw [Nat.toDigits_eq_if (by decide)]
    split
    · rename_i single
      rw [hexValue, List.foldl_cons, hexDigitValue_digitChar code single]
      simp
    · rename_i more
      rw [hexValue_concat, ih (code / 16) (by omega), hexDigitValue_digitChar _ (Nat.mod_lt _ (by decide))]
      omega

theorem hexValue_hexDigits (width code : Nat) : hexValue (hexDigits width code) = code := by
  have zeros : ∀ count, hexValue (List.replicate count '0') = 0 := by
    intro count
    induction count with
    | zero => rfl
    | succ count ih => rw [List.replicate_succ', hexValue_concat, ih]; rfl
  rw [hexDigits, hexValue, List.foldl_append]
  change List.foldl _ (hexValue (List.replicate _ '0')) _ = code
  rw [zeros]
  exact hexValue_toDigits code

theorem length_hexDigits {width code : Nat} (positive : 0 < width) (small : code < 16 ^ width) :
    (hexDigits width code).length = width := by
  have size := (Nat.length_toDigits_le_iff (by decide : 1 < 16) positive).mpr small
  simp only [hexDigits, List.length_append, List.length_replicate]
  omega

theorem exists_digit_of_mem {base code : Nat} (several : 1 < base) {c : Char}
    (member : c ∈ Nat.toDigits base code) : ∃ d < base, c = Nat.digitChar d := by
  induction code using Nat.strong_induction_on with
  | _ code ih =>
    rw [Nat.toDigits_eq_if several] at member
    split at member
    · rename_i single
      exact ⟨code, single, List.mem_singleton.mp member⟩
    · rename_i more
      rcases List.mem_append.mp member with inside | last
      · exact ih (code / base) (Nat.div_lt_self (by omega) several) inside
      · exact ⟨code % base, Nat.mod_lt _ (by omega), List.mem_singleton.mp last⟩

theorem newLine_not_mem_toDigits {base : Nat} (several : 1 < base) (few : base ≤ 16) (code : Nat) :
    '\n' ∉ Nat.toDigits base code := by
  intro member
  obtain ⟨d, bound, feed⟩ := exists_digit_of_mem several member
  have noFeed : ∀ d < 16, '\n' ≠ Nat.digitChar d := by decide
  exact noFeed d (by omega) feed

end Digits

section Displays

variable {quote c d : Char} {first second rest others : List Char}

theorem displayQuote_cases (text : List Char) : displayQuote text = '\x27' ∨ displayQuote text = '\x22' := by
  unfold displayQuote
  split
  · exact Or.inr rfl
  · exact Or.inl rfl

theorem readShown_plain (c : Char) (notEscape : c ≠ '\\') (rest : List Char) :
    readShown (c :: rest) = some (c, rest) := by
  simp [readShown, notEscape]

theorem readShown_hexDigits {mark : Char} {width : Nat} (escape : escapeWidth? mark = some width) (c : Char)
    (positive : 0 < width) (small : c.toNat < 16 ^ width) (rest : List Char) :
    readShown ('\\' :: mark :: (hexDigits width c.toNat ++ rest)) = some (c, rest) := by
  have size := length_hexDigits positive small
  have read : readShown ('\\' :: mark :: (hexDigits width c.toNat ++ rest)) =
      some (.ofNat (hexValue ((hexDigits width c.toNat ++ rest).take width)),
        (hexDigits width c.toNat ++ rest).drop width) := by
    unfold escapeWidth? at escape
    split at escape <;> cases escape <;> rfl
  rw [read, List.take_left' size, List.drop_left' size, hexValue_hexDigits, Char.ofNat_toNat]

/-- Whatever follows, the character that has been written is read again. -/
theorem readShown_displayChar (isQuote : quote = '\x27' ∨ quote = '\x22') (c : Char) (rest : List Char) :
    readShown (displayChar quote c ++ rest) = some (c, rest) := by
  unfold displayChar
  split
  · rename_i escaped
    rcases escaped with rfl | rfl
    · rcases isQuote with rfl | rfl <;> rfl
    · rfl
  · rename_i plain
    obtain ⟨_, notEscape⟩ := not_or.mp plain
    repeat' split
    · subst c
      rfl
    · subst c
      rfl
    · subst c
      rfl
    · exact readShown_plain c notEscape rest
    · exact readShown_hexDigits rfl c (by decide) (by assumption) rest
    · exact readShown_hexDigits rfl c (by decide) (by assumption) rest
    · exact readShown_hexDigits rfl c (by decide) c.val.toNat_lt rest

theorem displayChar_append_inj (isQuote : quote = '\x27' ∨ quote = '\x22')
    (same : displayChar quote c ++ rest = displayChar quote d ++ others) : c = d ∧ rest = others := by
  have read := readShown_displayChar isQuote c rest
  rw [same, readShown_displayChar isQuote d others] at read
  simpa [eq_comm] using read

/-- A character that is not escaped stands for itself, and it is not the quote. -/
theorem displayChar_cases (quote c : Char) :
    (∃ escape, displayChar quote c = '\\' :: escape) ∨ c ≠ quote ∧ displayChar quote c = [c] := by
  unfold displayChar
  split
  · exact Or.inl ⟨_, rfl⟩
  · rename_i plain
    repeat' split
    case isFalse.isFalse.isFalse.isFalse.isTrue => exact Or.inr ⟨fun same => plain (Or.inl same), rfl⟩
    all_goals exact Or.inl ⟨_, rfl⟩

/-- No character is written so that it could be taken for the quote at the end. -/
theorem displayChar_append_ne (isQuote : quote = '\x27' ∨ quote = '\x22') (c : Char) (rest others : List Char) :
    displayChar quote c ++ rest ≠ quote :: others := by
  intro same
  rcases displayChar_cases quote c with ⟨escape, escaped⟩ | ⟨different, plain⟩
  · rw [escaped, List.cons_append] at same
    have isEscape := (List.cons.inj same).1
    rcases isQuote with rfl | rfl <;> cases isEscape
  · rw [plain, List.singleton_append] at same
    exact different (List.cons.inj same).1

theorem flatMap_displayChar_inj (isQuote : quote = '\x27' ∨ quote = '\x22')
    (same : first.flatMap (displayChar quote) ++ quote :: rest =
      second.flatMap (displayChar quote) ++ quote :: others) :
    first = second ∧ rest = others := by
  induction first generalizing second with
  | nil =>
    cases second with
    | nil => simpa using same
    | cons d second =>
      rw [List.flatMap_cons, List.append_assoc] at same
      exact absurd same.symm (displayChar_append_ne isQuote d _ _)
  | cons c first ih =>
    cases second with
    | nil =>
      rw [List.flatMap_cons, List.append_assoc] at same
      exact absurd same (displayChar_append_ne isQuote c _ _)
    | cons d second =>
      rw [List.flatMap_cons, List.flatMap_cons, List.append_assoc, List.append_assoc] at same
      obtain ⟨rfl, later⟩ := displayChar_append_inj isQuote same
      obtain ⟨rfl, ends⟩ := ih later
      exact ⟨rfl, ends⟩

/-- A display shows where it ends, and no two texts have the same one. -/
theorem displayText_append_inj (same : displayText first ++ rest = displayText second ++ others) :
    first = second ∧ rest = others := by
  simp only [displayText, List.append_assoc, List.cons_append, List.nil_append] at same
  obtain ⟨quotes, same⟩ := List.cons.inj same
  rw [quotes] at same
  exact flatMap_displayChar_inj (displayQuote_cases second) same

theorem newLine_not_mem_hexDigits (width code : Nat) : '\n' ∉ hexDigits width code := by
  simp only [hexDigits, List.mem_append, List.mem_replicate, not_or]
  exact ⟨by simp, newLine_not_mem_toDigits (by decide) (by decide) code⟩

theorem newLine_not_mem_displayChar (isQuote : quote = '\x27' ∨ quote = '\x22') (c : Char) :
    '\n' ∉ displayChar quote c := by
  have notQuote : '\n' ≠ quote := by rcases isQuote with rfl | rfl <;> decide
  unfold displayChar
  repeat' split
  · rename_i escaped
    rcases escaped with rfl | rfl <;> simp [notQuote]
  · decide
  · decide
  · decide
  · rename_i notNewLine _ _ _
    simpa using Ne.symm notNewLine
  all_goals simpa using newLine_not_mem_hexDigits _ _

/-- A display stands on one line. -/
theorem newLine_not_mem_displayText (text : List Char) : '\n' ∉ displayText text := by
  have isQuote := displayQuote_cases text
  have notQuote : '\n' ≠ displayQuote text := by rcases isQuote with quote | quote <;> rw [quote] <;> decide
  simp [displayText, notQuote, newLine_not_mem_displayChar isQuote]

end Displays

section Dumps

variable {token other : Token} {tokens others : List Token} {rest later : List Char} {width : Nat}

theorem space_not_mem_label (kind : Kind) : ' ' ∉ kind.label.toList := by
  cases kind <;> decide

theorem newLine_not_mem_label (kind : Kind) : '\n' ∉ kind.label.toList := by
  cases kind <;> decide

theorem Kind.ofLabel?_label (kind : Kind) : Kind.ofLabel? kind.label = some kind := by
  cases kind <;> decide

/-- Two texts without a blank that end at the same blank are the same. -/
theorem append_blank_inj {first second : List Char} (single : ' ' ∉ first) (alsoSingle : ' ' ∉ second)
    (same : first ++ ' ' :: rest = second ++ ' ' :: later) : first = second ∧ rest = later := by
  have cut : ∀ {text : List Char} (more : List Char), ' ' ∉ text →
      (text ++ ' ' :: more).takeWhile (· != ' ') = text := by
    intro text more single
    have whole : ∀ c ∈ text, (c != ' ') = true :=
      fun c member => bne_iff_ne.mpr fun blank => single (blank ▸ member)
    rw [List.takeWhile_append_of_pos whole]
    simp
  have front : first = second := by rw [← cut rest single, same, cut later alsoSingle]
  subst front
  exact ⟨rfl, (List.cons.inj (List.append_cancel_left same)).2⟩

theorem newLine_not_mem_dumpEntry (token : Token) : '\n' ∉ dumpEntry token := by
  unfold dumpEntry
  split <;> simp [newLine_not_mem_label, newLine_not_mem_displayText]

/-- An entry shows where it ends, and tells all that is listed of its token. -/
theorem dumpEntry_append_inj (same : dumpEntry token ++ rest = dumpEntry other ++ later) :
    token.listed = other.listed ∧ rest = later := by
  simp only [dumpEntry, List.append_assoc, List.cons_append] at same
  obtain ⟨labels, same⟩ := append_blank_inj (space_not_mem_label _) (space_not_mem_label _) same
  have kinds : token.kind = other.kind := by
    have read := Kind.ofLabel?_label token.kind
    rw [String.toList_inj.mp labels, Kind.ofLabel?_label] at read
    exact (Option.some.inj read).symm
  obtain ⟨values, same⟩ := displayText_append_inj same
  simp only [Token.listed, kinds, values] at same ⊢
  split at same
  · rename_i placeholder
    simp only [List.append_assoc] at same
    obtain ⟨keys, ends⟩ := displayText_append_inj (List.append_cancel_left same)
    simp [placeholder, keys, ends]
  · rename_i notPlaceholder
    simpa [notPlaceholder] using same

theorem dumpEntry_of_listed (listed : token.listed = other.listed) : dumpEntry token = dumpEntry other := by
  simp only [Token.listed, Prod.mk.injEq] at listed
  obtain ⟨kinds, values, keys⟩ := listed
  rw [dumpEntry, dumpEntry, values, kinds]
  rw [kinds] at keys
  split
  · rename_i placeholder
    rw [if_pos placeholder, if_pos placeholder, Option.some.injEq] at keys
    rw [keys]
  · rfl

/-- The line of a token without its end. -/
def dumpRow (width index : Nat) (token : Token) : List Char :=
  padLeft width (Nat.toDigits 10 index) ++ ' ' :: dumpEntry token

theorem dumpLine_eq (width index : Nat) (token : Token) :
    dumpLine width index token = dumpRow width index token ++ ['\n'] := by
  simp only [dumpLine, dumpRow, dumpEntry, List.append_assoc, List.cons_append, List.nil_append]

theorem newLine_not_mem_dumpRow (width index : Nat) (token : Token) : '\n' ∉ dumpRow width index token := by
  simp [dumpRow, padLeft, newLine_not_mem_toDigits, newLine_not_mem_dumpEntry]

theorem dumpFrom_eq (width index : Nat) (tokens : List Token) :
    dumpFrom width index tokens =
      (tokens.mapIdx fun place token => dumpRow width (index + place) token).flatMap (· ++ ['\n']) := by
  induction tokens generalizing index with
  | nil => rfl
  | cons token rest ih =>
    rw [dumpFrom, ih, dumpLine_eq, List.mapIdx_cons, List.flatMap_cons]
    simp only [Nat.add_zero, Nat.add_assoc, Nat.add_comm 1]

theorem dumpTokens_eq (tokens : List Token) : dumpTokens tokens =
    (tokens.mapIdx (dumpRow (Nat.toDigits 10 tokens.length).length)).flatMap (· ++ ['\n']) := by
  rw [dumpTokens, dumpFrom_eq]
  simp only [Nat.zero_add]

theorem count_dumpFrom (width index : Nat) (tokens : List Token) :
    (dumpFrom width index tokens).count '\n' = tokens.length := by
  induction tokens generalizing index with
  | nil => rfl
  | cons token rest ih =>
    have row := List.count_eq_zero.mpr (newLine_not_mem_dumpRow width index token)
    rw [dumpFrom, dumpLine_eq, List.count_append, List.count_append, row, ih, List.length_cons]
    simp [Nat.add_comm]

/-- An index within the number of tokens is no longer than that number. -/
theorem length_padLeft {index total : Nat} (within : index < total) :
    (padLeft (Nat.toDigits 10 total).length (Nat.toDigits 10 index)).length = (Nat.toDigits 10 total).length := by
  have ten : 1 < 10 := by decide
  have bound : total < 10 ^ (Nat.toDigits 10 total).length :=
    (Nat.length_toDigits_le_iff ten Nat.length_toDigits_pos).mp (le_refl _)
  have size := (Nat.length_toDigits_le_iff ten Nat.length_toDigits_pos).mpr (within.trans bound)
  simp only [padLeft, List.length_append, List.length_replicate]
  omega

/-- What a line tells of its token can be read off it, whatever follows. -/
theorem dumpLine_append_inj {index : Nat} :
    dumpLine width index token ++ rest = dumpLine width index other ++ later ↔
      token.listed = other.listed ∧ rest = later := by
  simp only [dumpLine_eq, dumpRow, List.append_assoc, List.cons_append, List.append_cancel_left_eq, List.cons.injEq,
    true_and]
  constructor
  · intro same
    obtain ⟨listed, ends⟩ := dumpEntry_append_inj same
    exact ⟨listed, by simpa using ends⟩
  · rintro ⟨listed, rfl⟩
    rw [dumpEntry_of_listed listed]

theorem dumpFrom_eq_iff {index : Nat} (size : tokens.length = others.length) :
    dumpFrom width index tokens = dumpFrom width index others ↔
      tokens.map Token.listed = others.map Token.listed := by
  induction tokens generalizing index others with
  | nil => rw [List.length_eq_zero_iff.mp size.symm]; simp
  | cons token tokens ih =>
    cases others with
    | nil => cases size
    | cons other others =>
      rw [dumpFrom, dumpFrom, dumpLine_append_inj, ih (Nat.succ.inj size), List.map_cons, List.map_cons,
        List.cons.injEq]

end Dumps

/-- A dump has one line for every token, and nothing in a token ends a line. All indices stand in fields of one
width. Two dumps are the same if and only if the tokens have the same kinds and values, and the placeholders among
them the same keys. -/
theorem dumpTokens_unambiguous (tokens others : List Token) :
    (dumpTokens tokens).count '\n' = tokens.length ∧
    (∃ width, dumpTokens tokens = (tokens.mapIdx (dumpRow width)).flatMap (· ++ ['\n']) ∧
      (∀ row ∈ tokens.mapIdx (dumpRow width), '\n' ∉ row) ∧
      ∀ index < tokens.length, (padLeft width (Nat.toDigits 10 index)).length = width) ∧
    (dumpTokens tokens = dumpTokens others ↔ tokens.map Token.listed = others.map Token.listed) := by
  have count : ∀ tokens, (dumpTokens tokens).count '\n' = tokens.length := fun tokens => count_dumpFrom _ _ tokens
  refine ⟨count tokens, ⟨_, dumpTokens_eq tokens, fun row member => ?_,
    fun index within => length_padLeft within⟩, ?_⟩
  · obtain ⟨index, _, rfl⟩ := List.mem_mapIdx.mp member
    exact newLine_not_mem_dumpRow _ _ _
  · -- Both sides tell how many tokens there are, and with it how wide the indices are.
    by_cases size : tokens.length = others.length
    · rw [dumpTokens, dumpTokens, size, dumpFrom_eq_iff size]
    · refine ⟨fun same => absurd ?_ size, fun same => absurd ?_ size⟩
      · rw [← count tokens, ← count others, same]
      · simpa using congrArg List.length same

end QueryLayout
