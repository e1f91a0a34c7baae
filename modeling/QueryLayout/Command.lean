import QueryLayout.Config
import QueryLayout.Dump
import QueryLayout.Layout
import QueryLayout.Log
import QueryLayout.Text.Lines
import QueryLayout.Usage

namespace QueryLayout

/-- What a run leaves behind. -/
structure Outcome where
  exitCode : Nat
  stdout : String := ""
  stderr : String := ""
  files : FileTree
deriving DecidableEq, Repr

/-- Why the input cannot be read. -/
inductive InputError where
  | file (problem : FileProblem) (path : Path)
  | encoding (error : Utf8Error)
deriving DecidableEq, Repr

def InputError.message : InputError → String
  | .file problem path => problem.message path
  | .encoding error => error.message

/-- The query as a text with plain line feeds. -/
def readInput (world : World) (settings : Settings) : Except InputError (List Char) := do
  let bytes ←
    match settings.input with
    | none => .ok world.stdin
    | some path =>
      match world.files.read path with
      | .ok bytes => .ok bytes
      | .error problem => .error (.file problem path)
  match decodeUtf8 bytes with
  | .ok text => .ok (unifyBreaks text)
  | .error error => .error (.encoding error)

/-- The formatted query and the log of the work on it. The rules of a dialect
are compiled once for every spelling of its name that is used. -/
structure Rendering where
  text : List Char
  log : String

def compiledLine (verbose : Bool) (dialect : Dialect) : String :=
  logLine verbose .debug .lexer ("compiled " ++ toString dialect.rules.length ++ " matchers")

/-- Why a query cannot be rendered. -/
inductive RenderError where
  | dialect (error : UnknownDialect)
  | fault (fault : Fault)
deriving DecidableEq, Repr

/-- A blank indentation does as long as no line is indented. -/
def render (verbose : Bool) (settings : Settings) (query : List Char) :
    Except RenderError Rendering := do
  let language ←
    match settings.language with
    | .given language => .ok language
    | .blank => .error (.fault (.blankLanguage settings.debug))
  let dialect ← (Dialect.find language).mapError .dialect
  let tokens := tokenize dialect.rules query
  let style := dialect.style (settings.indent.getD []) settings.params.params
  if settings.indent = .blank && Layout.breaksAny style {} tokens then .error (.fault .blankIndent)
  else
    let layout := Layout.ofTokens style tokens
    let dump :=
      if settings.debug then compiledLine verbose dialect ++ String.ofList (dumpTokens tokens)
      else ""
    let compiled :=
      if settings.debug && language == dialect.name then "" else compiledLine verbose dialect
    let formatted := logLine verbose .debug .layout
      ("formatted " ++ toString tokens.length ++ " tokens, final indent depth " ++
        toString layout.indent.depth)
    .ok ⟨trim layout.text, dump ++ compiled ++ formatted⟩

/-- A formatted query as it is written: with a line feed at the end, unless it
is empty. -/
def outputText (text : List Char) : String :=
  if text.isEmpty then "" else String.ofList (text ++ ['\n'])

def utf8Bytes (text : String) : List UInt8 :=
  text.toUTF8.toList

/-- Writes the result to where the settings say. -/
def deliver (world : World) (verbose : Bool) (settings : Settings) (output log : String) :
    Except Fault Outcome :=
  match settings.output with
  | none => .ok { exitCode := 0, stdout := output, stderr := log, files := world.files }
  | some path =>
    if holdsNull path then .error .nullInPath
    else
      match world.files.write path (utf8Bytes output) with
      | .ok files =>
        .ok {
          exitCode := 0
          stderr := log ++ logLine verbose .info .command ("wrote " ++ path.toString)
          files := files }
      | .error problem =>
        .ok {
          exitCode := 1
          stderr := log ++
            logLine verbose .error .command ("cannot write output: " ++ problem.message path)
          files := world.files }

/-- The end of a run that has read its query. -/
def conclude (world : World) (verbose : Bool) (settings : Settings) (log : String) :
    Except RenderError Rendering → Except Fault Outcome
  | .error (.fault fault) => .error fault
  | .error (.dialect error) =>
    .ok { exitCode := 2, stderr := log ++ error.report ++ "\n", files := world.files }
  | .ok rendering =>
    deliver world verbose settings (outputText rendering.text) (log ++ rendering.log)

/-- Reads, formats and writes. -/
def work (world : World) (verbose : Bool) (settings : Settings) (log : String) :
    Except Fault Outcome :=
  if settings.input.any holdsNull then .error .nullInPath
  else
    match readInput world settings with
    | .error error =>
      .ok {
        exitCode := 1
        stderr := log ++ logLine verbose .error .command ("cannot read input: " ++ error.message)
        files := world.files }
    | .ok query => conclude world verbose settings log (render verbose settings query)

/-- The end of a run that has no settings. -/
def refuse (world : World) (log : String) : SetupError → Except Fault Outcome
  | .fault fault => .error fault
  | .config problem path =>
    .ok {
      exitCode := 2
      stderr := log ++ configReport problem.message path ++ "\n"
      files := world.files }
  | .settings error =>
    .ok { exitCode := 2, stderr := log ++ "error: " ++ error.message ++ "\n", files := world.files }

def loadedLine (arguments : Arguments) (config : Option Toml.Table) : String :=
  if config.isSome then
    logLine arguments.verbose .debug .command
      ("loaded config from " ++ arguments.configPath.toString)
  else ""

/-- Runs with arguments that have been understood. -/
def runArguments (world : World) (arguments : Arguments) : Except Fault Outcome :=
  match loadConfig world arguments with
  | .error error => refuse world "" error
  | .ok config =>
    let log := loadedLine arguments config
    match settle arguments config with
    | .error error => refuse world log error
    | .ok settings => work world arguments.verbose settings log

/-- Runs the program on the words of a command line. -/
def runCommand (world : World) (words : List String) : Except Fault Outcome :=
  match parseArguments words world.release with
  | .error error => .ok { exitCode := 2, stderr := usageReport error, files := world.files }
  | .ok .help => .ok { exitCode := 0, stdout := helpText, files := world.files }
  | .ok (.run arguments) => runArguments world arguments

end QueryLayout
