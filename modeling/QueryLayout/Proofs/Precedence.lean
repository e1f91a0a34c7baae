import QueryLayout.Proofs.IndentSource
import QueryLayout.Proofs.ParamSource
import QueryLayout.Proofs.Settling

namespace QueryLayout

section Sources

variable (arguments : Arguments) (config : Toml.Table)

/-- Where the language comes from. -/
inductive LanguageFrom : SwitchValue String → Prop
  | argument {language : SwitchValue String} : arguments.language = some language → LanguageFrom language
  | config {text : List Char} : arguments.language = none →
      config.lookup "language".toList = some (.text text) → LanguageFrom (.given (String.ofList text))
  | standard : arguments.language = none → (∀ text, config.lookup "language".toList ≠ some (.text text)) →
      LanguageFrom (.given "sql")

/-- Why no run is prepared for its arguments and configuration: for their indentation, or, once that is found, for
their parameters. -/
inductive BadSettings : Fault → Prop
  | indent {fault : Fault} : BadIndent arguments config fault → BadSettings fault
  | params : ¬RejectedIndent arguments config → (∀ fault, ¬BadIndent arguments config fault) →
      BadParams arguments config → BadSettings (.longInteger none)

end Sources

theorem resolveLanguage_from (arguments : Arguments) (config : Toml.Table) :
    LanguageFrom arguments config (resolveLanguage arguments config) := by
  unfold resolveLanguage
  split
  · rename_i given
    exact .argument given
  · rename_i none found
    exact .config none found
  · rename_i none other
    exact .standard none other

section Settling

variable {arguments : Arguments} {config : Option Toml.Table}

theorem settle_eq_error_iff {reason : SetupError} : settle arguments config = .error reason ↔
    (∃ error, resolveIndent arguments (config.getD []) = .error error ∧ SetupError.ofSettings error = reason) ∨
      (∃ indent, resolveIndent arguments (config.getD []) = .ok indent) ∧
        ∃ error, resolveParams arguments (config.getD []) = .error error ∧
          SetupError.ofSettings error = reason := by
  simp only [settle, resolveSettings, bind, Except.bind]
  cases resolveIndent arguments (config.getD []) with
  | error => simp [Except.mapError]
  | ok => cases resolveParams arguments (config.getD []) <;> simp [Except.mapError]

theorem settle_ne_config (problem : ConfigProblem) (path : Path) :
    settle arguments config ≠ .error (.config problem path) := by
  intro failed
  rcases settle_eq_error_iff.mp failed with ⟨error, _, same⟩ | ⟨_, error, _, same⟩
  · cases error <;> cases same
  · cases error <;> cases same

theorem exists_settle_eq_ok_iff : (∃ settings, settle arguments config = .ok settings) ↔
    (∃ indent, resolveIndent arguments (config.getD []) = .ok indent) ∧
      ∃ params, resolveParams arguments (config.getD []) = .ok params := by
  simp only [settle, resolveSettings, bind, Except.bind]
  cases resolveIndent arguments (config.getD []) with
  | error => simp [Except.mapError]
  | ok => cases resolveParams arguments (config.getD []) <;> simp [Except.mapError]

variable (one : arguments.OneIndent)

include one

/-- A run breaks off for its settings where `BadSettings` says so. -/
theorem settle_eq_fault_iff {fault : Fault} :
    settle arguments config = .error (.fault fault) ↔ BadSettings arguments (config.getD []) fault := by
  rw [settle_eq_error_iff, resolveIndent_eq_fault_iff, resolveIndent_eq_ok_iff one, resolveParams_eq_fault_iff]
  constructor
  · rintro (bad | ⟨⟨accepted, prepared⟩, bad, rfl⟩)
    · exact .indent bad
    · exact .params accepted prepared bad
  · rintro (bad | ⟨accepted, prepared, bad⟩)
    · exact Or.inl bad
    · exact Or.inr ⟨⟨accepted, prepared⟩, bad, rfl⟩

section Prepared

variable (prepared : ∀ fault, ¬BadSettings arguments (config.getD []) fault)

include prepared

theorem exists_settings_iff : (∃ settings, settle arguments config = .ok settings) ↔
    ¬RejectedIndent arguments (config.getD []) ∧ ¬RejectedParams arguments (config.getD []) := by
  rw [exists_settle_eq_ok_iff, resolveIndent_eq_ok_iff one, resolveParams_eq_ok_iff]
  constructor
  · rintro ⟨⟨indent, _⟩, params, _⟩
    exact ⟨indent, params⟩
  · rintro ⟨indent, params⟩
    have width (fault : Fault) : ¬BadIndent arguments (config.getD []) fault :=
      fun bad => prepared fault (.indent bad)
    exact ⟨⟨indent, width⟩, params, fun bad => prepared _ (.params indent width bad)⟩

/-- Where no run breaks off for them, settings are rejected for the reasons given. -/
theorem settle_rejected_iff : (∃ error, settle arguments config = .error (.settings error)) ↔
    RejectedIndent arguments (config.getD []) ∨ RejectedParams arguments (config.getD []) := by
  have rejected : (∃ error, settle arguments config = .error (.settings error)) ↔
      ¬∃ settings, settle arguments config = .ok settings := by
    cases settled : settle arguments config with
    | ok => simp
    | error reason =>
      cases reason with
      | fault fault => exact absurd ((settle_eq_fault_iff one).mp settled) (prepared fault)
      | config problem path => exact absurd settled (settle_ne_config problem path)
      | settings error => simp
  rw [rejected, exists_settings_iff one prepared, not_and_or, not_not, not_not]

end Prepared

end Settling

/-- The command line comes before the configuration. A run breaks off for an indentation or parameters that it is
not prepared for, even where it would be rejected for others; any other is rejected for the reasons given, and has
its settings if there are none. -/
theorem setUp_precedence {world : World} {words : List String} {release : Release} {arguments : Arguments}
    {config : Option Toml.Table} (parsed : parseArguments words release = .ok (.run arguments))
    (loaded : loadConfig world arguments = .ok config) :
    (∀ fault, setUp world arguments = .error (.fault fault) ↔ BadSettings arguments (config.getD []) fault) ∧
      ((∀ fault, ¬BadSettings arguments (config.getD []) fault) →
        ((∃ error, setUp world arguments = .error (.settings error)) ↔
          RejectedIndent arguments (config.getD []) ∨ RejectedParams arguments (config.getD [])) ∧
        (¬RejectedIndent arguments (config.getD []) → ¬RejectedParams arguments (config.getD []) →
          ∃ settings, setUp world arguments = .ok settings ∧
            LanguageFrom arguments (config.getD []) settings.language ∧
            IndentFrom arguments (config.getD []) settings.indent ∧
            ParamsFrom arguments (config.getD []) settings.params)) := by
  have same : setUp world arguments = settle arguments config := by
    rw [setUp, loaded]
    rfl
  have one : arguments.OneIndent := parseArguments_oneIndent parsed
  rw [same]
  refine ⟨fun fault => settle_eq_fault_iff one, fun prepared => ⟨settle_rejected_iff one prepared, ?_⟩⟩
  intro indent params
  obtain ⟨settings, settled⟩ := (exists_settings_iff one prepared).mpr ⟨indent, params⟩
  obtain ⟨_, _, language, atIndent, atParams⟩ := settle_eq_ok settled
  exact ⟨settings, settled, language ▸ resolveLanguage_from arguments _, resolveIndent_from atIndent,
    resolveParams_from atParams⟩

/-- Of a configuration with a negative indentation and two parameters only one parameter is left. -/
theorem setUp_precedence_replaced :
    let file := "indent = -1\nparams = \x7ba = 1, b = true\x7d"
    let world : World :=
      { files := ⟨[(.below 0 [configName.toList], .file file.toUTF8.toList)], []⟩, release := .later }
    let arguments : Arguments := { spaces := some (.given 3), params := [.given "b=x=y".toList] }
    ∃ config settings, loadConfig world arguments = .ok config ∧ setUp world arguments = .ok settings ∧
      LanguageFrom arguments (config.getD []) settings.language ∧ settings.language = .given "sql" ∧
      IndentFrom arguments (config.getD []) settings.indent ∧ settings.indent = .given "   ".toList ∧
      ParamsFrom arguments (config.getD []) settings.params ∧
      settings.params = .named [("a".toList, "1".toList), ("b".toList, "x=y".toList)] := by
  intro file world arguments
  have parsed : parseArguments ["--spaces", "3", "-p", "b=x=y"] .later = .ok (.run arguments) := by decide +kernel
  have run : (setUp world arguments).toOption =
      some { indent := .given "   ".toList
             params := .named [("a".toList, "1".toList), ("b".toList, "x=y".toList)] } := by decide +kernel
  have found : (loadConfig world arguments).toOption.map (fun config =>
      (resolveParams arguments (config.getD [])).toOption) =
        some (some (.named [("a".toList, "1".toList), ("b".toList, "x=y".toList)])) := by decide +kernel
  cases loaded : loadConfig world arguments with
  | error => simp [loaded, Except.toOption] at found
  | ok config =>
    have params : ∃ params, resolveParams arguments (config.getD []) = .ok params := by
      cases made : resolveParams arguments (config.getD []) with
      | ok params => exact ⟨params, rfl⟩
      | error => simp [loaded, made, Except.toOption] at found
    have indent : ∃ indent, resolveIndent arguments (config.getD []) = .ok indent := ⟨.given "   ".toList, rfl⟩
    obtain ⟨indent, noBadIndent⟩ := (resolveIndent_eq_ok_iff (parseArguments_oneIndent parsed)).mp indent
    obtain ⟨params, noBadParams⟩ := resolveParams_eq_ok_iff.mp params
    have prepared : ∀ fault, ¬BadSettings arguments (config.getD []) fault := by
      rintro fault (bad | ⟨_, _, bad⟩)
      · exact noBadIndent fault bad
      · exact noBadParams bad
    obtain ⟨settings, made, sources⟩ := ((setUp_precedence parsed loaded).2 prepared).2 indent params
    have same : settings = { indent := .given "   ".toList
                             params := .named [("a".toList, "1".toList), ("b".toList, "x=y".toList)] } := by
      simpa only [made, Except.toOption, Option.some.injEq] using run
    subst same
    exact ⟨config, _, rfl, made, sources.1, rfl, sources.2.1, rfl, sources.2.2, rfl⟩

/-- A parameter without an equals sign is not reported where the indentation is too wide. -/
theorem setUp_precedence_tooWide :
    let words := ["--spaces", "9223372036854775808", "-p", "x"]
    let arguments : Arguments := { spaces := some (.given 9223372036854775808), params := [.given ['x']] }
    parseArguments words .earlier = .ok (.run arguments) ∧ parseArguments words .later = .ok (.run arguments) ∧
      loadConfig {} arguments = .ok none ∧ RejectedParams arguments [] ∧
      setUp {} arguments = .error (.fault .tooWide) := by
  intro words arguments
  have earlier : parseArguments words .earlier = .ok (.run arguments) := by decide +kernel
  have later : parseArguments words .later = .ok (.run arguments) := by decide +kernel
  have loaded : loadConfig {} arguments = .ok none := rfl
  have wide : BadSettings arguments [] .tooWide := .indent (.wideSpaces rfl rfl (by decide))
  have settled : settle arguments none = .error (.fault .tooWide) :=
    (settle_eq_fault_iff (parseArguments_oneIndent later)).mpr wide
  refine ⟨earlier, later, loaded, .noSign List.mem_cons_self (by decide), ?_⟩
  rw [setUp, loaded]
  exact settled

end QueryLayout
