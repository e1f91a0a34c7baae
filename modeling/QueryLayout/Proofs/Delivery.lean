import QueryLayout.Command
import QueryLayout.Proofs.Precedence

namespace QueryLayout

/-- The query as it is read: from a file or from standard input, in UTF-8, with a line feed for every
line break. -/
def QueryIn (world : World) (input : Option Path) (query : List Char) : Prop :=
  ∃ bytes text, (match input with
    | none => bytes = world.stdin
    | some path => world.files.read path = .ok bytes) ∧
    decodeUtf8 bytes = .ok text ∧ query = unifyBreaks text

/-- What a run has to do: it has settings, a query, and a dialect to lay it out in. -/
structure Job (world : World) (arguments : Arguments) (settings : Settings) (query : List Char)
    (dialect : Dialect) : Prop where
  settled : setUp world arguments = .ok settings
  query : QueryIn world arguments.inputPath query
  dialect : ∃ language, settings.language = .given language ∧ Dialect.find language = .ok dialect

/-- The text that a job has to write. -/
def Dialect.result (dialect : Dialect) (settings : Settings) (query : List Char) : String :=
  outputText (dialect.format (settings.indent.getD []) settings.params.params query)

/-- A text has been written to a file, and nowhere else, or to standard output if there is no path. -/
def Outcome.Carries (outcome : Outcome) (world : World) (output : Option Path) (text : String) : Prop :=
  match output with
  | none => outcome.stdout = text ∧ outcome.files = world.files
  | some path =>
    outcome.stdout = "" ∧ ∃ location, world.files.locate path = .ok location ∧
      outcome.files.node? location = some (.file (utf8Bytes text)) ∧
      (∀ other, other ≠ location → outcome.files.node? other = world.files.node? other) ∧
      outcome.files.access = world.files.access

/-- The conditions that no run is prepared for: a configuration file that cannot be loaded, settings that cannot be
made, and a blank language or indentation where it is used. -/
inductive BreaksOff (world : World) (arguments : Arguments) : Fault → Prop
  | config {fault : Fault} : BadConfig world arguments fault → BreaksOff world arguments fault
  | settings {config : Option Toml.Table} {fault : Fault} : loadConfig world arguments = .ok config →
      BadSettings arguments (config.getD []) fault → BreaksOff world arguments fault
  | language {settings : Settings} {query : List Char} : setUp world arguments = .ok settings →
      QueryIn world arguments.inputPath query → settings.language = .blank →
      BreaksOff world arguments (.blankLanguage settings.debug)
  | indent {settings : Settings} {query : List Char} {dialect : Dialect} :
      Job world arguments settings query dialect → settings.indent = .blank →
      Layout.breaksAny (dialect.style [] settings.params.params) {} (tokenize dialect.rules query) →
      BreaksOff world arguments .blankIndent

/-- Whether a condition is about a value that is blank. -/
def Fault.isBlank : Fault → Bool
  | .blankSpaces | .blankIndent | .blankLanguage _ => true
  | .file _ _ | .nullInPath | .tooWide | .longInteger _ => false

theorem readInput_eq_ok_iff {world : World} {settings : Settings} {query : List Char} :
    readInput world settings = .ok query ↔ QueryIn world settings.input query := by
  simp only [readInput, QueryIn, bind, Except.bind]
  cases settings.input with
  | none => cases decoded : decodeUtf8 world.stdin <;> simp [decoded, @eq_comm _ query]
  | some path =>
    cases found : world.files.read path with
    | error => simp [found]
    | ok bytes => cases decoded : decodeUtf8 bytes <;> simp [found, decoded, @eq_comm _ query]

section Run

variable {world : World} {arguments : Arguments} {settings : Settings} {query : List Char} {verbose : Bool}

/-- A run without settings ends by saying why. -/
theorem runArguments_of_setUp_error {error : SetupError} (refused : setUp world arguments = .error error) :
    ∃ log, runArguments world arguments = refuse world log error := by
  simp only [setUp, bind, Except.bind] at refused
  unfold runArguments
  split at refused
  · rename_i found
    cases refused
    exact ⟨_, by rw [found]⟩
  · rename_i config found
    exact ⟨loadedLine arguments config, by simp only [found, refused]⟩

theorem runArguments_of_setUp_ok (settled : setUp world arguments = .ok settings) :
    ∃ log, runArguments world arguments = work world arguments.verbose settings log := by
  obtain ⟨config, found, settled⟩ := bind_eq_ok settled
  exact ⟨loadedLine arguments config, by simp only [runArguments, found, settled]⟩

theorem render_of_blank (blank : settings.language = .blank) :
    render verbose settings query = .error (.fault (.blankLanguage settings.debug)) := by
  simp [render, blank, bind, Except.bind]

section Dialect

variable {language : String} {dialect : Dialect} (given : settings.language = .given language)

include given

theorem render_of_unknown {error : UnknownDialect} (unknown : Dialect.find language = .error error) :
    render verbose settings query = .error (.dialect error) := by
  simp [render, given, unknown, bind, Except.bind, Except.mapError]

variable (found : Dialect.find language = .ok dialect)

include found

theorem render_of_breaks (blank : settings.indent = .blank)
    (breaks : Layout.breaksAny (dialect.style [] settings.params.params) {} (tokenize dialect.rules query)) :
    render verbose settings query = .error (.fault .blankIndent) := by
  simp [render, given, found, blank, SwitchValue.getD, SwitchValue.given?, breaks, bind, Except.bind,
    Except.mapError]

/-- Whatever else a run logs, its text is the layout of the query. -/
theorem render_of_found (verbose : Bool) (unbroken : settings.indent = .blank →
      Layout.breaksAny (dialect.style [] settings.params.params) {} (tokenize dialect.rules query) = false) :
    ∃ log, render verbose settings query =
      .ok ⟨dialect.format (settings.indent.getD []) settings.params.params query, log⟩ := by
  simp only [render, given, found, bind, Except.bind, Except.mapError]
  split
  · rename_i broken
    obtain ⟨blank, breaks⟩ := Bool.and_eq_true_iff.mp broken
    have blank : settings.indent = .blank := by simpa using blank
    rw [blank, show SwitchValue.blank.getD ([] : List Char) = [] from rfl, unbroken blank] at breaks
    cases breaks
  · exact ⟨_, rfl⟩

end Dialect

/-- How a run ends: it breaks off, or it writes nothing because something keeps it from its job or from
writing the result, or it writes the result. -/
inductive Ending (world : World) (arguments : Arguments) : Except Fault Outcome → Prop
  | broken {fault : Fault} : BreaksOff world arguments fault → Ending world arguments (.error fault)
  | refused {outcome : Outcome} : outcome.exitCode ∈ [1, 2] → outcome.stdout = "" → outcome.files = world.files →
      (∀ settings query dialect, Job world arguments settings query dialect →
        ∃ path ∈ optionalPath arguments.output, ∃ problem,
          world.files.write path (utf8Bytes (dialect.result settings query)) = .error problem) →
      Ending world arguments (.ok outcome)
  | done {outcome : Outcome} {settings : Settings} {query : List Char} {dialect : Dialect} : outcome.exitCode = 0 →
      Job world arguments settings query dialect →
      outcome.Carries world (optionalPath arguments.output) (dialect.result settings query) →
      Ending world arguments (.ok outcome)

/-- A run without a job writes nothing. -/
theorem Ending.of_no_job {outcome : Outcome} (code : outcome.exitCode ∈ [1, 2]) (stdout : outcome.stdout = "")
    (files : outcome.files = world.files)
    (noJob : ∀ settings query dialect, ¬ Job world arguments settings query dialect) :
    Ending world arguments (.ok outcome) :=
  .refused code stdout files fun settings query dialect job => absurd job (noJob settings query dialect)

theorem ending_of_setUp_error (one : arguments.OneIndent) {error : SetupError}
    (unsettled : setUp world arguments = .error error) (log : String) :
    Ending world arguments (refuse world log error) := by
  have noJob : ∀ settings query dialect, ¬ Job world arguments settings query dialect := by
    intro settings query dialect job
    cases unsettled.symm.trans job.settled
  cases error with
  | fault fault =>
    refine .broken ?_
    simp only [setUp, bind, Except.bind] at unsettled
    split at unsettled
    · rename_i found
      cases unsettled
      exact .config (loadConfig_eq_fault_iff.mp found)
    · rename_i config found
      exact .settings found ((settle_eq_fault_iff one).mp unsettled)
  | config problem path => exact .of_no_job (by simp) rfl rfl noJob
  | settings error => exact .of_no_job (by simp) rfl rfl noJob

theorem Job.unique {others : Settings} {other : List Char} {dialect another : Dialect}
    (job : Job world arguments settings query dialect) (also : Job world arguments others other another) :
    others = settings ∧ other = query ∧ another = dialect := by
  obtain rfl : others = settings := Except.ok.inj (also.settled.symm.trans job.settled)
  obtain ⟨language, given, found⟩ := job.dialect
  obtain ⟨again, alsoGiven, alsoFound⟩ := also.dialect
  obtain rfl : again = language := SwitchValue.given.inj (alsoGiven.symm.trans given)
  have input := (setUp_paths job.settled).1
  have read := readInput_eq_ok_iff.mpr (input ▸ job.query)
  have alsoRead := readInput_eq_ok_iff.mpr (input ▸ also.query)
  exact ⟨rfl, Except.ok.inj (alsoRead.symm.trans read), Except.ok.inj (alsoFound.symm.trans found)⟩

theorem ending_of_job {dialect : Dialect} (job : Job world arguments settings query dialect)
    (plain : ∀ path ∈ optionalPath arguments.output, holdsNull path = false) (log : String) :
    Ending world arguments (deliver world verbose settings (dialect.result settings query) log) := by
  have target := (setUp_paths job.settled).2
  unfold deliver
  rw [target]
  cases output : optionalPath arguments.output with
  | none =>
    refine .done rfl job ?_
    rw [output]
    exact ⟨rfl, rfl⟩
  | some path =>
    simp only [plain path output, Bool.false_eq_true, if_false]
    cases written : world.files.write path (utf8Bytes (dialect.result settings query)) with
    | ok files =>
      refine .done rfl job ?_
      rw [output]
      exact ⟨rfl, FileTree.write_eq_ok written⟩
    | error problem =>
      refine .refused (by simp) rfl rfl fun others other another also => ?_
      obtain ⟨rfl, rfl, rfl⟩ := job.unique also
      exact ⟨path, output, problem, written⟩

section Input

variable (inputPlain : ∀ path ∈ arguments.inputPath, holdsNull path = false)
  (settled : setUp world arguments = .ok settings)

include inputPlain settled

theorem input_plain : settings.input.any holdsNull = false := by
  rw [(setUp_paths settled).1]
  cases found : arguments.inputPath with
  | none => rfl
  | some path => exact inputPlain path found

theorem work_of_queryIn (queryIn : QueryIn world arguments.inputPath query) (log : String) :
    work world verbose settings log = conclude world verbose settings log (render verbose settings query) := by
  rw [← (setUp_paths settled).1] at queryIn
  simp only [work, input_plain inputPlain settled, Bool.false_eq_true, if_false, readInput_eq_ok_iff.mpr queryIn]

theorem work_of_not_queryIn (verbose : Bool) (unread : ∀ query, ¬ QueryIn world arguments.inputPath query)
    (log : String) : ∃ report, work world verbose settings log =
      .ok { exitCode := 1, stderr := report, files := world.files } := by
  rw [← (setUp_paths settled).1] at unread
  rw [work, input_plain inputPlain settled, if_neg Bool.false_ne_true]
  cases read : readInput world settings with
  | error => exact ⟨_, rfl⟩
  | ok query => exact absurd (readInput_eq_ok_iff.mp read) (unread query)

/-- A query that has been read is laid out and written, unless its dialect or its indentation will not do. -/
theorem ending_of_queryIn (queryIn : QueryIn world arguments.inputPath query)
    (outputPlain : ∀ path ∈ optionalPath arguments.output, holdsNull path = false) (log : String) :
    Ending world arguments (work world verbose settings log) := by
  rw [work_of_queryIn inputPlain settled queryIn]
  cases given : settings.language with
  | blank =>
    rw [render_of_blank given]
    exact .broken (.language settled queryIn given)
  | given language =>
    cases found : Dialect.find language with
    | error error =>
      rw [render_of_unknown given found]
      refine .of_no_job (by simp) rfl rfl fun others other another job => ?_
      obtain rfl : others = settings := Except.ok.inj (job.settled.symm.trans settled)
      obtain ⟨again, alsoGiven, alsoFound⟩ := job.dialect
      cases alsoGiven.symm.trans given
      cases alsoFound.symm.trans found
    | ok dialect =>
      have job : Job world arguments settings query dialect := ⟨settled, queryIn, language, given, found⟩
      by_cases broken : settings.indent = .blank ∧
          Layout.breaksAny (dialect.style [] settings.params.params) {} (tokenize dialect.rules query)
      · rw [render_of_breaks given found broken.1 broken.2]
        exact .broken (.indent job broken.1 broken.2)
      · have unbroken : settings.indent = .blank →
            Layout.breaksAny (dialect.style [] settings.params.params) {} (tokenize dialect.rules query) = false :=
          fun blank => by simpa [blank] using broken
        obtain ⟨lines, rendered⟩ := render_of_found given found verbose unbroken
        rw [rendered]
        exact ending_of_job job outputPlain _

end Input

/-- Every run with paths that can be opened ends in one of these ways. -/
theorem runArguments_ending (one : arguments.OneIndent)
    (inputPlain : ∀ path ∈ arguments.inputPath, holdsNull path = false)
    (outputPlain : ∀ path ∈ optionalPath arguments.output, holdsNull path = false) :
    Ending world arguments (runArguments world arguments) := by
  cases settled : setUp world arguments with
  | error error =>
    obtain ⟨log, run⟩ := runArguments_of_setUp_error settled
    rw [run]
    exact ending_of_setUp_error one settled log
  | ok settings =>
    obtain ⟨log, run⟩ := runArguments_of_setUp_ok settled
    rw [run]
    by_cases read : ∃ query, QueryIn world arguments.inputPath query
    · obtain ⟨query, queryIn⟩ := read
      exact ending_of_queryIn inputPlain settled queryIn outputPlain log
    · obtain ⟨report, unread⟩ := work_of_not_queryIn inputPlain settled arguments.verbose
        (not_exists.mp read) log
      rw [unread]
      exact .of_no_job (by simp) rfl rfl fun _ query _ job => read ⟨query, job.query⟩

/-- Each of these conditions breaks a run off. -/
theorem BreaksOff.runArguments {fault : Fault} (one : arguments.OneIndent)
    (inputPlain : ∀ path ∈ arguments.inputPath, holdsNull path = false) (breaks : BreaksOff world arguments fault) :
    runArguments world arguments = .error fault := by
  cases breaks with
  | config bad =>
    have unloaded := loadConfig_eq_fault_iff.mpr bad
    simp only [QueryLayout.runArguments, unloaded, refuse]
  | settings loaded bad =>
    have unsettled := (settle_eq_fault_iff one).mpr bad
    simp only [QueryLayout.runArguments, loaded, unsettled, refuse]
  | language settled queryIn blank =>
    obtain ⟨log, run⟩ := runArguments_of_setUp_ok settled
    rw [run, work_of_queryIn inputPlain settled queryIn, render_of_blank blank, conclude]
  | indent job blank breaks =>
    obtain ⟨log, run⟩ := runArguments_of_setUp_ok job.settled
    obtain ⟨language, given, found⟩ := job.dialect
    rw [run, work_of_queryIn inputPlain job.settled job.query, render_of_breaks given found blank breaks, conclude]

/-- Where no value is blank, no run breaks off for one. -/
theorem BreaksOff.isBlank {fault : Fault} (given : arguments.Hold (· ≠ .blank))
    (breaks : BreaksOff world arguments fault) : fault.isBlank = false := by
  cases breaks with
  | config bad => cases bad <;> rfl
  | settings _ bad =>
    cases bad with
    | indent bad =>
      cases bad with
      | blank _ blank => exact absurd rfl (given.spaces blank)
      | _ => rfl
    | params => rfl
  | language settled _ blank => exact absurd rfl (given.language _ ((setUp_blank settled).1 blank))
  | indent job blank => exact absurd rfl (given.indent _ ((setUp_blank job.settled).2 blank))

end Run

/-- For command lines without null characters, exactly the listed conditions keep a run from ending in order. -/
theorem runCommand_eq_error_iff {world : World} {words : List String}
    (noNull : ∀ word ∈ words, '\x00' ∉ word.toList) {fault : Fault} :
    runCommand world words = .error fault ↔
      ∃ arguments, parseArguments words world.release = .ok (.run arguments) ∧ BreaksOff world arguments fault := by
  unfold runCommand
  cases parsed : parseArguments words world.release with
  | error => simp
  | ok invocation =>
    cases invocation with
    | help => simp
    | run arguments =>
      have one : arguments.OneIndent := parseArguments_oneIndent parsed
      obtain ⟨inputPlain, outputPlain⟩ := parseArguments_noNull parsed noNull
      have ending : Ending world arguments (runArguments world arguments) :=
        runArguments_ending one inputPlain outputPlain
      constructor
      · intro run
        rw [show runArguments world arguments = .error fault from run] at ending
        cases ending with
        | broken breaks => exact ⟨arguments, rfl, breaks⟩
      · rintro ⟨_, ⟨⟩, breaks⟩
        exact breaks.runArguments one inputPlain

/-- Blank values break no run off in the later releases of the option reader, and in the earlier ones only where a
longer word ends in two dashes. -/
theorem runCommand_isBlank {world : World} {words : List String}
    (whole : world.release = .earlier → ∀ word ∈ words, ['-', '-'] <:+ word.toList → word.toList = ['-', '-'])
    (noNull : ∀ word ∈ words, '\x00' ∉ word.toList) {fault : Fault}
    (broken : runCommand world words = .error fault) : fault.isBlank = false := by
  obtain ⟨arguments, parsed, breaks⟩ := (runCommand_eq_error_iff noNull).mp broken
  exact breaks.isBlank (parseArguments_noBlank parsed whole)

/-- A run breaks off at an integer of its configuration file only if that has too many digits. -/
theorem runCommand_longInteger {world : World} {words : List String} (noNull : ∀ word ∈ words, '\x00' ∉ word.toList)
    {digits : Nat} (broken : runCommand world words = .error (.longInteger (some digits))) :
    mostDigits < digits := by
  obtain ⟨arguments, _, breaks⟩ := (runCommand_eq_error_iff noNull).mp broken
  cases breaks with
  | config bad => exact bad.digits
  | settings _ bad =>
    cases bad with
    | indent bad => cases bad

/-- All or nothing. A run that fails has written nothing, and one that succeeds has written the whole
result and nothing else; whatever has a job and a place to write succeeds. -/
structure Outcome.AllOrNothing (outcome : Outcome) (world : World) (words : List String) : Prop where
  code : outcome.exitCode ∈ [0, 1, 2]
  nothing : outcome.exitCode ≠ 0 → outcome.stdout = "" ∧ outcome.files = world.files
  everything : outcome.exitCode = 0 →
    parseArguments words world.release = .ok .help ∧ outcome.stdout = helpText ∧ outcome.files = world.files ∨
    ∃ arguments settings query dialect, parseArguments words world.release = .ok (.run arguments) ∧
      Job world arguments settings query dialect ∧
      outcome.Carries world (optionalPath arguments.output) (dialect.result settings query)
  succeeds : ∀ arguments settings query dialect, parseArguments words world.release = .ok (.run arguments) →
    Job world arguments settings query dialect →
    (∀ path ∈ optionalPath arguments.output, ∃ files,
      world.files.write path (utf8Bytes (dialect.result settings query)) = .ok files) → outcome.exitCode = 0

theorem Ending.allOrNothing {world : World} {words : List String} {arguments : Arguments} {outcome : Outcome}
    (parsed : parseArguments words world.release = .ok (.run arguments))
    (ending : Ending world arguments (.ok outcome)) : outcome.AllOrNothing world words := by
  have same : ∀ others, parseArguments words world.release = .ok (.run others) → others = arguments :=
    fun others also => Invocation.run.inj (Except.ok.inj (also.symm.trans parsed))
  cases ending with
  | refused code stdout files unwritten =>
    have failed : outcome.exitCode ≠ 0 := by
      rintro zero
      simp [zero] at code
    refine ⟨List.mem_cons_of_mem 0 code, fun _ => ⟨stdout, files⟩, fun zero => absurd zero failed, ?_⟩
    intro others settings query dialect also job writable
    obtain rfl := same others also
    obtain ⟨path, given, problem, unwritten⟩ := unwritten settings query dialect job
    obtain ⟨files, written⟩ := writable path given
    cases unwritten.symm.trans written
  | done zero job carries =>
    exact ⟨by simp [zero], fun failed => absurd zero failed,
      fun _ => Or.inr ⟨arguments, _, _, _, parsed, job, carries⟩, fun _ _ _ _ _ _ _ => zero⟩

/-- For command lines without null characters, exactly the listed conditions keep a run from ending in order, and
every run that ends in order has written all of its result or nothing.

The words of a command line are texts here, and there is room for whatever a run makes. So three things lie outside
the statement: a word that is not UTF-8, with which a result may not be encodable, so that the file to write to is
left empty; an indentation of up to `longestText` spaces for which there is no memory; and a configuration file
whose arrays are nested too deep to be read. -/
theorem runCommand_allOrNothing (world : World) (words : List String)
    (noNull : ∀ word ∈ words, '\x00' ∉ word.toList) :
    (∀ fault, runCommand world words = .error fault ↔
      ∃ arguments, parseArguments words world.release = .ok (.run arguments) ∧ BreaksOff world arguments fault) ∧
    ∀ outcome, runCommand world words = .ok outcome → outcome.AllOrNothing world words := by
  refine ⟨fun fault => runCommand_eq_error_iff noNull, fun outcome run => ?_⟩
  unfold runCommand at run
  cases parsed : parseArguments words world.release with
  | error error =>
    simp only [parsed, Except.ok.injEq] at run
    subst run
    exact ⟨by simp, fun _ => ⟨rfl, rfl⟩, fun zero => absurd zero (by simp), by simp [parsed]⟩
  | ok invocation =>
    cases invocation with
    | help =>
      simp only [parsed, Except.ok.injEq] at run
      subst run
      exact ⟨by simp, fun failed => absurd rfl failed, fun _ => Or.inl ⟨parsed, rfl, rfl⟩, by simp [parsed]⟩
    | run arguments =>
      obtain ⟨inputPlain, outputPlain⟩ := parseArguments_noNull parsed noNull
      have ending : Ending world arguments (runArguments world arguments) :=
        runArguments_ending (parseArguments_oneIndent parsed) inputPlain outputPlain
      simp only [parsed] at run
      rw [run] at ending
      exact ending.allOrNothing parsed

/-- A run that reads a file and writes the result back to it. -/
theorem runCommand_allOrNothing_inPlace :
    let files : FileTree := ⟨[(.below 0 ["q.sql".toList], .file "( )".toUTF8.toList)], []⟩
    let world : World := { files := files, release := .later }
    ∃ outcome, runCommand world ["q.sql", "-o", "q.sql"] = .ok outcome ∧ outcome.exitCode = 0 ∧
      outcome.AllOrNothing world ["q.sql", "-o", "q.sql"] := by
  intro files world
  have run : (runCommand world ["q.sql", "-o", "q.sql"]).toOption.map Outcome.exitCode = some 0 := by decide +kernel
  cases ended : runCommand world ["q.sql", "-o", "q.sql"] with
  | error => simp [ended, Except.toOption] at run
  | ok outcome =>
    have zero : outcome.exitCode = 0 := by simpa [ended, Except.toOption] using run
    exact ⟨outcome, rfl, zero, (runCommand_allOrNothing world _ (by decide)).2 outcome ended⟩

/-- A name for the configuration file that is too long breaks a run off. -/
theorem runCommand_longName :
    runCommand { release := .later } ["--config", String.ofList (List.replicate 256 'a')] =
      .error (.file .nameTooLong ⟨.here, [List.replicate 256 'a']⟩) := by
  let arguments : Arguments := { config := some (String.ofList (List.replicate 256 'a')) }
  have parsed : parseArguments ["--config", String.ofList (List.replicate 256 'a')] .later =
      .ok (.run arguments) := by
    simp only [parseArguments, List.map, String.toList_ofList]
    rfl
  have path : arguments.configPath = ⟨.here, [List.replicate 256 'a']⟩ := by
    have some : (String.ofList (List.replicate 256 'a') != "") = true := by
      rw [bne_iff_ne]
      intro empty
      have none := congrArg String.toList empty
      rw [String.toList_ofList] at none
      cases none
    simp only [arguments, Arguments.configPath, optionalPath, Option.filter, some, if_true, Option.map_some,
      Option.getD_some, Path.ofString, String.toList_ofList]
    decide +kernel
  have located : ({} : FileTree).locate arguments.configPath = .error .nameTooLong := by
    rw [path]
    decide +kernel
  have broken : BreaksOff { release := .later } arguments (.file .nameTooLong arguments.configPath) :=
    .config (.path located rfl)
  rw [runCommand, parsed, ← path]
  exact broken.runArguments (parseArguments_oneIndent parsed) (by simp [arguments, Arguments.inputPath])

end QueryLayout
