import QueryLayout.Config
import QueryLayout.Proofs.LongIntegers
import QueryLayout.Proofs.Rivals

namespace QueryLayout

section Sources

variable (arguments : Arguments) (config : Toml.Table)

/-- The arguments do not say how to indent. -/
structure Arguments.NoIndent : Prop where
  tabs : arguments.tabs = false
  spaces : arguments.spaces = none
  indent : arguments.indent = none

/-- Where the indentation comes from. -/
inductive IndentFrom : SwitchValue (List Char) → Prop
  | tabs : arguments.tabs = true → IndentFrom (.given ['\t'])
  | spaces {count : Nat} : arguments.tabs = false → arguments.spaces = some (.given count) →
      IndentFrom (.given (List.replicate count ' '))
  | argument {indent : SwitchValue (List Char)} : arguments.tabs = false → arguments.spaces = none →
      arguments.indent = some indent → IndentFrom indent
  | configText {text : List Char} : arguments.NoIndent → config.lookup "indent".toList = some (.text text) →
      IndentFrom (.given text)
  | configCount {count : Nat} : arguments.NoIndent → config.lookup "indent".toList = some (.integer count) →
      IndentFrom (.given (List.replicate count ' '))
  | standard : arguments.NoIndent → config.lookup "indent".toList = none → IndentFrom (.given [' ', ' '])

/-- A value of the configuration that says how to indent. -/
inductive IsIndent : Toml.Value → Prop
  | text (text : List Char) : IsIndent (.text text)
  | count (count : Nat) : IsIndent (.integer count)

/-- Why an indentation is rejected. -/
inductive RejectedIndent : Prop
  | spaces {count : Int} : arguments.spaces = some (.given count) → count < 0 → RejectedIndent
  | config {value : Toml.Value} : arguments.NoIndent → config.lookup "indent".toList = some value →
      ¬IsIndent value → RejectedIndent

/-- An indentation that cannot be had, or be shown in the complaint about it, for a reason that no run is
prepared for. -/
inductive BadIndent : Fault → Prop
  | blank : arguments.tabs = false → arguments.spaces = some .blank → BadIndent .blankSpaces
  | wideSpaces {count : Int} : arguments.tabs = false → arguments.spaces = some (.given count) →
      longestText < count → BadIndent .tooWide
  | wideConfig {count : Int} : arguments.NoIndent → config.lookup "indent".toList = some (.integer count) →
      longestText < count → BadIndent .tooWide
  | long {value : Toml.Value} : arguments.NoIndent → config.lookup "indent".toList = some value →
      ¬IsIndent value → value.HoldsLong → BadIndent (.longInteger none)

end Sources

theorem isIndent_integer_iff {count : Int} : IsIndent (.integer count) ↔ 0 ≤ count := by
  constructor
  · rintro ⟨count⟩
    exact Int.natCast_nonneg _
  · intro natural
    obtain ⟨width, rfl⟩ := Int.eq_ofNat_of_zero_le natural
    exact .count width

theorem not_isIndent {value : Toml.Value} (noText : ∀ text, value ≠ .text text)
    (noCount : ∀ count, value ≠ .integer count) : ¬IsIndent value := by
  rintro (text | count)
  · exact noText text rfl
  · exact noCount count rfl

theorem SetupError.ofSettings_cases (error : SettingsError) :
    (∃ fault, SetupError.ofSettings error = .fault fault) ∨ SetupError.ofSettings error = .settings error := by
  cases error <;> simp [SetupError.ofSettings]

theorem ofSettings_badIndent_iff {value : Toml.Value} {fault : Fault} :
    SetupError.ofSettings (badIndent value) = .fault fault ↔ value.HoldsLong ∧ fault = .longInteger none := by
  rw [← value.display?_eq_none_iff, badIndent]
  cases value.display? <;> simp [SetupError.ofSettings, @eq_comm _ fault]

section Count

variable {count : Int} {negative : SettingsError}

theorem indentOfCount_eq_ok {indent : SwitchValue (List Char)} (made : indentOfCount count negative = .ok indent) :
    ∃ width : Nat, count = width ∧ indent = .given (List.replicate width ' ') := by
  unfold indentOfCount at made
  split at made
  · cases made
  · split at made
    · cases made
    · cases made
      exact ⟨count.toNat, by omega, rfl⟩

theorem indentOfCount_eq_error {error : SettingsError} (failed : indentOfCount count negative = .error error) :
    count < 0 ∧ error = negative ∨ longestText < count ∧ error = .tooWide := by
  unfold indentOfCount at failed
  split at failed
  · cases failed
    exact Or.inl ⟨by assumption, rfl⟩
  · split at failed
    · cases failed
      exact Or.inr ⟨by omega, rfl⟩
    · cases failed

theorem indentOfCount_below (below : count < 0) : indentOfCount count negative = .error negative := by
  rw [indentOfCount, if_pos below]

theorem indentOfCount_wide (wide : longestText < count) : indentOfCount count negative = .error .tooWide := by
  rw [indentOfCount, if_neg (by omega), if_pos (by omega)]

end Count

section Resolving

variable {arguments : Arguments} {config : Toml.Table}

theorem resolveIndent_from {indent : SwitchValue (List Char)}
    (resolved : resolveIndent arguments config = .ok indent) : IndentFrom arguments config indent := by
  unfold resolveIndent at resolved
  split at resolved
  · rename_i tabs
    cases resolved
    exact .tabs tabs
  · rename_i noTabs
    have noTabs : arguments.tabs = false := by simpa using noTabs
    split at resolved
    · cases resolved
    · rename_i given
      obtain ⟨width, rfl, rfl⟩ := indentOfCount_eq_ok resolved
      exact .spaces noTabs given
    · rename_i noSpaces given
      cases resolved
      exact .argument noTabs noSpaces given
    · rename_i noSpaces noIndent
      have none : arguments.NoIndent := ⟨noTabs, noSpaces, noIndent⟩
      split at resolved
      · rename_i absent
        cases resolved
        exact .standard none absent
      · rename_i text found
        cases resolved
        exact .configText none found
      · rename_i count found
        obtain ⟨width, rfl, rfl⟩ := indentOfCount_eq_ok resolved
        exact .configCount none found
      · cases resolved

/-- What the complaint about a value of the configuration is about. -/
theorem Arguments.NoIndent.ofSettings_badIndent {value : Toml.Value} (none : arguments.NoIndent)
    (found : config.lookup "indent".toList = some value) (notIndent : ¬IsIndent value) :
    (∀ fault, SetupError.ofSettings (badIndent value) = .fault fault → BadIndent arguments config fault) ∧
      (SetupError.ofSettings (badIndent value) = .settings (badIndent value) →
        RejectedIndent arguments config) := by
  refine ⟨fun fault isFault => ?_, fun _ => .config none found notIndent⟩
  obtain ⟨long, rfl⟩ := ofSettings_badIndent_iff.mp isFault
  exact .long none found notIndent long

/-- What an error in the indentation is about. -/
theorem resolveIndent_eq_error {error : SettingsError} (failed : resolveIndent arguments config = .error error) :
    (∀ fault, SetupError.ofSettings error = .fault fault → BadIndent arguments config fault) ∧
      (SetupError.ofSettings error = .settings error → RejectedIndent arguments config) := by
  unfold resolveIndent at failed
  split at failed
  · cases failed
  · rename_i noTabs
    have noTabs : arguments.tabs = false := by simpa using noTabs
    split at failed
    · rename_i blank
      cases failed
      refine ⟨?_, nofun⟩
      rintro _ ⟨⟩
      exact .blank noTabs blank
    · rename_i given
      rcases indentOfCount_eq_error failed with ⟨below, rfl⟩ | ⟨wide, rfl⟩
      · exact ⟨nofun, fun _ => .spaces given below⟩
      · refine ⟨?_, nofun⟩
        rintro _ ⟨⟩
        exact .wideSpaces noTabs given wide
    · cases failed
    · rename_i noSpaces noIndent
      have none : arguments.NoIndent := ⟨noTabs, noSpaces, noIndent⟩
      split at failed
      · cases failed
      · cases failed
      · rename_i found
        rcases indentOfCount_eq_error failed with ⟨below, rfl⟩ | ⟨wide, rfl⟩
        · have notIndent := isIndent_integer_iff.not.mpr (Int.not_le.mpr below)
          exact none.ofSettings_badIndent found notIndent
        · refine ⟨?_, nofun⟩
          rintro _ ⟨⟩
          exact .wideConfig none found wide
      · rename_i noText noCount found
        cases failed
        exact none.ofSettings_badIndent found (not_isIndent (fun _ => noText _) (fun _ => noCount _))

/-- A value of the configuration that does not say how to indent is complained about. -/
theorem Arguments.NoIndent.resolveIndent_bad {value : Toml.Value} (none : arguments.NoIndent)
    (found : config.lookup "indent".toList = some value) (notIndent : ¬IsIndent value) :
    resolveIndent arguments config = .error (badIndent value) := by
  simp only [resolveIndent, none.tabs, none.spaces, none.indent, found, Bool.false_eq_true, if_false]
  cases value with
  | text text => exact absurd (.text text) notIndent
  | integer count =>
    rw [isIndent_integer_iff] at notIndent
    exact indentOfCount_below (by omega)
  | _ => rfl

theorem RejectedIndent.resolveIndent_eq (rejected : RejectedIndent arguments config) (one : arguments.OneIndent) :
    ∃ error, resolveIndent arguments config = .error error := by
  cases rejected with
  | @spaces count given below =>
    have noTabs : arguments.tabs = false := by
      by_contra tabs
      simp [one.spaces (by simpa using tabs)] at given
    exact ⟨.negativeSpaces count, by simpa [resolveIndent, noTabs, given] using indentOfCount_below below⟩
  | config none found notIndent => exact ⟨_, none.resolveIndent_bad found notIndent⟩

/-- A run breaks off for its indentation where `BadIndent` says so. -/
theorem resolveIndent_eq_fault_iff {fault : Fault} :
    (∃ error, resolveIndent arguments config = .error error ∧ SetupError.ofSettings error = .fault fault) ↔
      BadIndent arguments config fault := by
  constructor
  · rintro ⟨error, failed, isFault⟩
    exact (resolveIndent_eq_error failed).1 fault isFault
  · intro bad
    cases bad with
    | blank noTabs blank => exact ⟨.blankSpaces, by simp [resolveIndent, noTabs, blank], rfl⟩
    | wideSpaces noTabs given wide =>
      exact ⟨.tooWide, by simpa [resolveIndent, noTabs, given] using indentOfCount_wide wide, rfl⟩
    | wideConfig none found wide =>
      refine ⟨.tooWide, ?_, rfl⟩
      simpa only [resolveIndent, none.tabs, none.spaces, none.indent, found, Bool.false_eq_true, if_false]
        using indentOfCount_wide wide
    | long none found notIndent long =>
      exact ⟨_, none.resolveIndent_bad found notIndent, ofSettings_badIndent_iff.mpr ⟨long, rfl⟩⟩

/-- An indentation is found unless it is rejected or a run breaks off for it. -/
theorem resolveIndent_eq_ok_iff (one : arguments.OneIndent) :
    (∃ indent, resolveIndent arguments config = .ok indent) ↔
      ¬RejectedIndent arguments config ∧ ∀ fault, ¬BadIndent arguments config fault := by
  constructor
  · rintro ⟨indent, found⟩
    constructor
    · intro rejected
      obtain ⟨error, failed⟩ := rejected.resolveIndent_eq one
      cases found.symm.trans failed
    · intro fault bad
      obtain ⟨error, failed, _⟩ := resolveIndent_eq_fault_iff.mpr bad
      cases found.symm.trans failed
  · rintro ⟨accepted, prepared⟩
    cases found : resolveIndent arguments config with
    | ok indent => exact ⟨indent, rfl⟩
    | error error =>
      obtain ⟨bad, rejected⟩ := resolveIndent_eq_error found
      rcases SetupError.ofSettings_cases error with ⟨fault, isFault⟩ | reported
      · exact absurd (bad fault isFault) (prepared fault)
      · exact absurd (rejected reported) accepted

end Resolving

end QueryLayout
