import QueryLayout.Rule

namespace QueryLayout

theorem blankRun_le (text : List Char) : blankRun text ≤ text.length :=
  (List.takeWhile_sublist isBlank).length_le

theorem runLength_le (p : Char → Bool) (text : List Char) : runLength p text ≤ text.length :=
  (List.takeWhile_sublist p).length_le

theorem lineLength_le (text : List Char) : lineLength text ≤ text.length := by
  fun_induction lineLength text <;> simp only [List.length_cons, List.length_nil] <;> omega

theorem commentBody_le (text : List Char) : commentBody text ≤ text.length := by
  fun_induction commentBody text <;> simp only [List.length_cons, List.length_nil] <;> omega

theorem literalBody_le (closing : Char) (escapes : Bool) (text : List Char) :
    literalBody closing escapes text ≤ text.length := by
  fun_induction literalBody closing escapes text <;>
    simp only [List.length_cons, List.length_nil] at * <;> omega

theorem QuoteStyle.extent?_le {style : QuoteStyle} {text : List Char} {length : Nat}
    (found : style.extent? text = some length) : length ≤ text.length := by
  unfold QuoteStyle.extent? at found
  split at found
  · rename_i opens
    have lead := (List.isPrefixOf_iff_prefix.mp opens).length_le
    have body := literalBody_le style.closing style.escapes (text.drop style.opening.length)
    rw [List.length_drop] at body
    cases Option.some.inj found
    omega
  · cases found

theorem literalExtent?_le {styles : List QuoteStyle} {text : List Char} {length : Nat}
    (found : literalExtent? styles text = some length) : length ≤ text.length := by
  obtain ⟨style, _, atStyle⟩ := List.exists_of_findSome?_eq_some found
  exact QuoteStyle.extent?_le atStyle

theorem startsWith_length_le {same : Char → Char → Bool} {part text : List Char}
    (starts : startsWith same part text) : part.length ≤ text.length := by
  fun_induction startsWith same part text with
  | case1 => exact Nat.zero_le _
  | case2 => cases starts
  | case3 p part c text ih =>
    have rest := ih (Bool.and_eq_true_iff.mp starts).2
    simpa using rest

theorem Phrase.extent?_le {same : Char → Char → Bool} {phrase : Phrase} {text : List Char}
    {length : Nat} (found : phrase.extent? same text = some length) : length ≤ text.length := by
  fun_induction Phrase.extent? same phrase text generalizing length with
  | case1 => cases found; exact Nat.zero_le _
  | case2 text part starts =>
    cases found
    exact startsWith_length_le starts
  | case3 => cases found
  | case4 => cases found
  | case5 part parts text more starts gap positive =>
    rename_i ih
    obtain ⟨later, atLater, rfl⟩ := Option.map_eq_some_iff.mp found
    have bound := ih atLater
    have gapBound := blankRun_le (text.drop part.length)
    have lead := startsWith_length_le starts
    rw [List.length_drop] at bound gapBound
    omega
  | case6 => cases found

theorem markExtent?_le {marks : List Phrase} {text : List Char} {length : Nat}
    (found : markExtent? marks text = some length) : length ≤ text.length := by
  obtain ⟨mark, _, atMark⟩ := List.exists_of_findSome?_eq_some found
  exact Phrase.extent?_le atMark

theorem wordExtent?_le {words : List Phrase} {before : Option Char} {text : List Char} {length : Nat}
    (found : wordExtent? words before text = some length) : length ≤ text.length := by
  obtain ⟨word, _, atWord⟩ := List.exists_of_findSome?_eq_some found
  exact Phrase.extent?_le (Option.filter_eq_some_iff.mp atWord).1

theorem namedMatch?_le {marks : List Phrase} {text : List Char} {found : Match}
    (matched : namedMatch? marks text = some found) : found.length ≤ text.length := by
  obtain ⟨mark, _, atMark⟩ := List.exists_of_findSome?_eq_some matched
  obtain ⟨lead, atLead, rest⟩ := Option.bind_eq_some_iff.mp atMark
  have leadBound := Phrase.extent?_le atLead
  have keyBound := runLength_le isKeyChar (text.drop lead)
  rw [List.length_drop] at keyBound
  unfold runLength at keyBound
  dsimp only at rest
  split at rest
  · cases rest
  · cases rest
    dsimp only
    omega

theorem quotedMatch?_le {marks : List Phrase} {styles : List QuoteStyle} {text : List Char}
    {found : Match} (matched : quotedMatch? marks styles text = some found) :
    found.length ≤ text.length := by
  obtain ⟨mark, _, atMark⟩ := List.exists_of_findSome?_eq_some matched
  obtain ⟨lead, atLead, rest⟩ := Option.bind_eq_some_iff.mp atMark
  obtain ⟨length, atLiteral, rfl⟩ := Option.map_eq_some_iff.mp rest
  have leadBound := Phrase.extent?_le atLead
  have bound := literalExtent?_le atLiteral
  rw [List.length_drop] at bound
  dsimp only
  omega

theorem positionalMatch?_le {marks : List Phrase} {text : List Char} {found : Match}
    (matched : positionalMatch? marks text = some found) : found.length ≤ text.length := by
  obtain ⟨lead, atLead, rfl⟩ := Option.map_eq_some_iff.mp matched
  have leadBound := markExtent?_le atLead
  have keyBound := runLength_le isAsciiDigit (text.drop lead)
  rw [List.length_drop] at keyBound
  unfold runLength at keyBound
  dsimp only
  omega

/-- The number of digits after a period that a text begins with. -/
def fractionRun : List Char → Nat
  | '.' :: rest => runLength isAsciiDigit rest
  | _ => 0

theorem fractionRun_lt {text : List Char} (positive : fractionRun text ≠ 0) :
    fractionRun text < text.length := by
  unfold fractionRun at positive ⊢
  split at positive
  · exact Nat.lt_succ_of_le (runLength_le isAsciiDigit _)
  · exact absurd rfl positive

theorem decimalExtent?_eq (text : List Char) :
    decimalExtent? text =
      let digits := runLength isAsciiDigit text
      let fraction := fractionRun (text.drop digits)
      if digits = 0 then none
      else if fraction ≠ 0 ∧ endsWord text (digits + 1 + fraction) then some (digits + 1 + fraction)
      else if endsWord text digits then some digits
      else none :=
  rfl

theorem decimalExtent?_le {text : List Char} {length : Nat}
    (found : decimalExtent? text = some length) : length ≤ text.length := by
  have digits := runLength_le isAsciiDigit text
  rw [decimalExtent?_eq] at found
  dsimp only at found
  split at found
  · cases found
  split at found
  · rename_i fraction
    have bound := fractionRun_lt fraction.1
    rw [List.length_drop] at bound
    cases found
    omega
  split at found
  · cases found
    exact digits
  · cases found

theorem basedExtent?_le {base : Char} {isDigit : Char → Bool} {text : List Char} {length : Nat}
    (found : basedExtent? base isDigit text = some length) : length ≤ text.length := by
  unfold basedExtent? at found
  split at found
  · rename_i mark rest
    dsimp only at found
    split at found
    · cases found
      have bound := runLength_le isDigit rest
      simp only [List.length_cons]
      omega
    · cases found
  · cases found

theorem numberExtent?_le {text : List Char} {length : Nat}
    (found : numberExtent? text = some length) : length ≤ text.length := by
  unfold numberExtent? at found
  split at found
  · rename_i rest
    obtain ⟨digits, atDigits, rfl⟩ := Option.map_eq_some_iff.mp found
    have bound := decimalExtent?_le atDigits
    have gap := blankRun_le rest
    rw [List.length_drop] at bound
    simp only [List.length_cons]
    omega
  · simp only [Option.or_eq_some_iff] at found
    rcases found with (decimal | ⟨_, hexadecimal⟩) | ⟨_, binary⟩
    · exact decimalExtent?_le decimal
    · exact basedExtent?_le hexadecimal
    · exact basedExtent?_le binary

theorem operatorExtent_le {text : List Char} (someText : text ≠ []) :
    operatorExtent text ≤ text.length := by
  unfold operatorExtent
  split
  · rename_i operator found
    have starts := List.find?_some found
    exact (List.isPrefixOf_iff_prefix.mp starts).length_le
  · exact List.length_pos_iff.mpr someText

end QueryLayout
