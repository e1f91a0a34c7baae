import QueryLayout.Config
import QueryLayout.Proofs.Refusals
import QueryLayout.Proofs.SwitchValues
import QueryLayout.Proofs.Writing

namespace QueryLayout

theorem holdsNull_ofString {text : String} (noNull : '\x00' ∉ text.toList) :
    holdsNull (Path.ofString text) = false := by
  by_contra null
  have member : '\x00' ∈ (Path.ofText text.toList).text := by simpa [holdsNull, Path.ofString] using null
  rcases Path.mem_text_ofText member with dot | slash | inside
  · cases dot
  · cases slash
  · exact noNull inside

section Words

variable {words : List String} {release : Release} {arguments : Arguments}
  (parsed : parseArguments words release = .ok (.run arguments))

include parsed

/-- Without null characters on the command line there are none in the paths. -/
theorem parseArguments_noNull (noNull : ∀ word ∈ words, '\x00' ∉ word.toList) :
    (∀ path ∈ arguments.inputPath, holdsNull path = false) ∧
      ∀ path ∈ optionalPath arguments.output, holdsNull path = false := by
  have hold : arguments.Hold fun value => ∀ text, value = .given text → '\x00' ∉ text := by
    refine parseArguments_hold (fun word member => ⟨?_, ?_⟩) parsed
    · rintro _ ⟨⟩
      exact noNull word member
    · intro name attached _ split text given
      rcases SwitchValue.ofAttached_cases release attached with whole | ⟨_, _, blank⟩
      · cases whole.symm.trans given
        intro null
        exact noNull word member (by simp [split, null])
      · cases blank.symm.trans given
  constructor
  · intro path found
    unfold Arguments.inputPath at found
    split at found
    · cases found
    · rename_i file
      cases found
      exact holdsNull_ofString (hold.input.resolve_left file _ rfl)
  · intro path found
    simp only [optionalPath, Option.mem_def, Option.map_eq_some_iff, Option.filter_eq_some_iff] at found
    obtain ⟨text, ⟨given, _⟩, rfl⟩ := found
    exact holdsNull_ofString (hold.output text given _ rfl)

/-- A value is blank only to an earlier release, and only for two dashes at the end of a longer word. -/
theorem parseArguments_noBlank
    (whole : release = .earlier → ∀ word ∈ words, ['-', '-'] <:+ word.toList → word.toList = ['-', '-']) :
    arguments.Hold (· ≠ .blank) := by
  refine parseArguments_hold (fun word member => ⟨by simp, fun name attached someName split => ?_⟩) parsed
  rcases SwitchValue.ofAttached_cases release attached with given | ⟨earlier, dashes, _⟩
  · simp [given]
  · have same := whole earlier word member ⟨name, by rw [split, dashes]⟩
    rw [split, dashes] at same
    simp [someName] at same

end Words

example : parseArguments ["--spaces=--"] .later = .error (.notInteger .spaces ['-', '-']) := by decide +kernel

example : parseArguments ["-vo=out", "--arg=--"] .later =
    .ok (.run { verbose := true, output := some "out", args := [.given ['-', '-']] }) := by
  decide +kernel

section Loading

variable {world : World} {arguments : Arguments}

/-- The text of the configuration file, if it is there, may be read and is in UTF-8. -/
def ConfigText (world : World) (arguments : Arguments) (text : List Char) : Prop :=
  ∃ location bytes, world.files.locate arguments.configPath = .ok location ∧
    world.files.node? location = some (.file bytes) ∧
    (world.configReadable && (world.files.accessTo location).read) ∧ decodeUtf8 bytes = .ok text

/-- Why no run is prepared for a configuration file: there is trouble on the way to it other than that there is
none, or an integer in it has too many digits to be read. -/
inductive BadConfig (world : World) (arguments : Arguments) : Fault → Prop
  | path {problem : FileProblem} : world.files.locate arguments.configPath = .error problem →
      problem.leadsNowhere = false → BadConfig world arguments (.file problem arguments.configPath)
  | integer {text : List Char} {digits : Nat} : ConfigText world arguments text →
      Toml.read text = .error (.longInteger digits) → BadConfig world arguments (.longInteger (some digits))

/-- An integer of the configuration file that no run is prepared for has too many digits. -/
theorem BadConfig.digits {digits : Nat} (bad : BadConfig world arguments (.longInteger (some digits))) :
    mostDigits < digits := by
  cases bad with
  | integer _ refused => exact Toml.read_eq_longInteger refused

theorem SetupError.ofToml_eq_fault_iff {path : Path} {problem : Toml.Problem} {fault : Fault} :
    SetupError.ofToml path problem = .fault fault ↔
      ∃ digits, problem = .longInteger digits ∧ fault = .longInteger (some digits) := by
  cases problem <;> simp [SetupError.ofToml, @eq_comm _ fault]

theorem readConfig_eq_fault_iff {path : Path} {location : Location} {bytes : List UInt8} {fault : Fault} :
    readConfig world path location bytes = .error (.fault fault) ↔
      (world.configReadable && (world.files.accessTo location).read) ∧ ∃ text digits,
        decodeUtf8 bytes = .ok text ∧ Toml.read text = .error (.longInteger digits) ∧
          fault = .longInteger (some digits) := by
  unfold readConfig
  cases readable : world.configReadable && (world.files.accessTo location).read with
  | false => simp
  | true =>
    cases decoded : decodeUtf8 bytes with
    | error => simp
    | ok text =>
      cases read : Toml.read text with
      | error problem => simp [Except.mapError, read, SetupError.ofToml_eq_fault_iff]
      | ok => simp [Except.mapError, read]

/-- A run breaks off for its configuration file where `BadConfig` says so. -/
theorem loadConfig_eq_fault_iff {fault : Fault} :
    loadConfig world arguments = .error (.fault fault) ↔ BadConfig world arguments fault := by
  have absent : absentConfig arguments ≠ .error (.fault fault) := by
    unfold absentConfig
    split <;> simp
  constructor
  · intro failed
    simp only [loadConfig] at failed
    split at failed
    · rename_i problem located
      split at failed
      · exact absurd failed absent
      · rename_i leads
        cases failed
        exact .path located (by simpa using leads)
    · rename_i location located
      split at failed
      · rename_i bytes node
        have broken : readConfig world arguments.configPath location bytes = .error (.fault fault) := by
          cases read : readConfig world arguments.configPath location bytes with
          | ok => simp [read, Except.map] at failed
          | error => simpa [read, Except.map] using failed
        obtain ⟨readable, text, digits, decoded, long, rfl⟩ := readConfig_eq_fault_iff.mp broken
        exact .integer ⟨location, bytes, located, node, readable, decoded⟩ long
      · exact absurd failed absent
  · intro bad
    cases bad with
    | path located leads => simp [loadConfig, located, leads]
    | integer found long =>
      obtain ⟨location, bytes, located, node, readable, decoded⟩ := found
      have broken : readConfig world arguments.configPath location bytes = .error (.fault _) :=
        readConfig_eq_fault_iff.mpr ⟨readable, _, _, decoded, long, rfl⟩
      simp [loadConfig, located, node, broken, Except.map]

end Loading

/-- Settings have their paths, language, indentation and parameters from the arguments, and the configuration steps
in for the last three. -/
theorem settle_eq_ok {arguments : Arguments} {config : Option Toml.Table} {settings : Settings}
    (settled : settle arguments config = .ok settings) :
    settings.input = arguments.inputPath ∧ settings.output = optionalPath arguments.output ∧
      settings.language = resolveLanguage arguments (config.getD []) ∧
      resolveIndent arguments (config.getD []) = .ok settings.indent ∧
      resolveParams arguments (config.getD []) = .ok settings.params := by
  unfold settle at settled
  cases resolved : resolveSettings arguments (config.getD []) with
  | error => simp [resolved, Except.mapError] at settled
  | ok found =>
    simp only [resolved, Except.mapError, Except.ok.injEq] at settled
    subst found
    obtain ⟨indent, atIndent, resolved⟩ := bind_eq_ok resolved
    obtain ⟨params, atParams, resolved⟩ := bind_eq_ok resolved
    cases resolved
    exact ⟨rfl, rfl, rfl, atIndent, atParams⟩

theorem resolveLanguage_eq_blank {arguments : Arguments} {config : Toml.Table}
    (blank : resolveLanguage arguments config = .blank) : arguments.language = some .blank := by
  unfold resolveLanguage at blank
  split at blank
  · rename_i given
    rw [given, blank]
  · cases blank
  · cases blank

theorem indentOfCount_ne_blank (count : Int) (negative : SettingsError) :
    indentOfCount count negative ≠ .ok .blank := by
  unfold indentOfCount
  split
  · simp
  · split <;> simp

theorem resolveIndent_eq_blank {arguments : Arguments} {config : Toml.Table}
    (blank : resolveIndent arguments config = .ok .blank) : arguments.indent = some .blank := by
  unfold resolveIndent at blank
  split at blank
  · cases blank
  · split at blank
    · cases blank
    · exact absurd blank (indentOfCount_ne_blank _ _)
    · rename_i given
      cases blank
      exact given
    · split at blank
      · cases blank
      · cases blank
      · exact absurd blank (indentOfCount_ne_blank _ _)
      · cases blank

theorem setUp_paths {world : World} {arguments : Arguments} {settings : Settings}
    (settled : setUp world arguments = .ok settings) :
    settings.input = arguments.inputPath ∧ settings.output = optionalPath arguments.output := by
  obtain ⟨config, _, settled⟩ := bind_eq_ok settled
  obtain ⟨input, output, _⟩ := settle_eq_ok settled
  exact ⟨input, output⟩

theorem setUp_blank {world : World} {arguments : Arguments} {settings : Settings}
    (settled : setUp world arguments = .ok settings) :
    (settings.language = .blank → arguments.language = some .blank) ∧
      (settings.indent = .blank → arguments.indent = some .blank) := by
  obtain ⟨config, _, settled⟩ := bind_eq_ok settled
  obtain ⟨_, _, language, indent, _⟩ := settle_eq_ok settled
  refine ⟨fun blank => resolveLanguage_eq_blank (language.symm.trans blank), fun blank => ?_⟩
  rw [blank] at indent
  exact resolveIndent_eq_blank indent

end QueryLayout
