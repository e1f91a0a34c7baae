import QueryLayout.FileTree
import QueryLayout.Settings
import QueryLayout.Text.Utf8

namespace QueryLayout

/-- Why a configuration file cannot be used. -/
inductive ConfigProblem where
  | notFound
  | malformed (problem : Toml.Problem)
  | notText (error : Utf8Error)
  | denied
deriving DecidableEq, Repr

def ConfigProblem.message : ConfigProblem → String
  | .notFound => "config file not found"
  | .malformed problem => "invalid TOML: " ++ problem.message
  | .notText error => "config file is not valid UTF-8: " ++ error.message
  | .denied => "cannot read config file: Permission denied"

/-- A message about a configuration file, with the file below it. -/
def configReport (message : String) (path : Path) : String :=
  "error: " ++ message ++ "\n  --> " ++ path.toString

/-- Conditions that no run is prepared for. The digits of an integer that is too
long are counted where it is read, but not where it is to be shown. A blank
language ends a run at another point when the tokens are to be dumped. -/
inductive Fault where
  | file (problem : FileProblem) (path : Path)
  | nullInPath
  | blankSpaces
  | tooWide
  | longInteger (digits : Option Nat)
  | blankIndent
  | blankLanguage (debug : Bool)
deriving DecidableEq, Repr

def digitsHint : String :=
  "; use sys.set_int_max_str_digits() to increase the limit"

def Fault.message : Fault → String
  | .file problem path => problem.message path
  | .nullInPath => "embedded null byte"
  | .blankSpaces => SettingsError.blankSpaces.message
  | .tooWide => SettingsError.tooWide.message
  | .longInteger none => SettingsError.longInteger.message ++ digitsHint
  | .longInteger (some digits) =>
    SettingsError.longInteger.message ++ ": value has " ++ toString digits ++ " digits" ++ digitsHint
  | .blankIndent => "can only concatenate str (not \"list\") to str"
  | .blankLanguage true => "unhashable type: 'list'"
  | .blankLanguage false => "'list' object has no attribute 'lower'"

/-- What keeps a run from having settings. -/
inductive SetupError where
  | fault (fault : Fault)
  | config (problem : ConfigProblem) (path : Path)
  | settings (error : SettingsError)

/-- A number of spaces that is blank or too great and an integer that cannot be
shown are faults, and all other errors in the settings are reported. -/
def SetupError.ofSettings : SettingsError → SetupError
  | .blankSpaces => .fault .blankSpaces
  | .tooWide => .fault .tooWide
  | .longInteger => .fault (.longInteger none)
  | error => .settings error

/-- The world outside a run: the bytes on standard input, the files, whether
configuration files can be read at all, and the release of the option reader. -/
structure World where
  stdin : List UInt8 := []
  files : FileTree := {}
  configReadable : Bool := true
  release : Release := .earlier

def holdsNull (path : Path) : Bool :=
  path.text.contains '\x00'

/-- A document that cannot be used is reported, unless one of its integers is too
long. -/
def SetupError.ofToml (path : Path) : Toml.Problem → SetupError
  | .longInteger digits => .fault (.longInteger (some digits))
  | problem => .config (.malformed problem) path

/-- The content of a configuration file. -/
def readConfig (world : World) (path : Path) (location : Location) (bytes : List UInt8) :
    Except SetupError Toml.Table :=
  if !(world.configReadable && (world.files.accessTo location).read) then
    .error (.config .denied path)
  else
    match decodeUtf8 bytes with
    | .error error => .error (.config (.notText error) path)
    | .ok text => (Toml.read text).mapError (.ofToml path)

/-- There is no configuration file. Only one that was asked for must exist. -/
def absentConfig (arguments : Arguments) : Except SetupError (Option Toml.Table) :=
  if (optionalPath arguments.config).isSome then .error (.config .notFound arguments.configPath)
  else .ok none

/-- The content of the configuration file, if there is one. Where its path leads
nowhere there is no file; any other trouble on the way is a fault. -/
def loadConfig (world : World) (arguments : Arguments) : Except SetupError (Option Toml.Table) :=
  let path := arguments.configPath
  match world.files.locate path with
  | .error problem =>
    if problem.leadsNowhere then absentConfig arguments else .error (.fault (.file problem path))
  | .ok location =>
    match world.files.node? location with
    | some (.file bytes) => (readConfig world path location bytes).map some
    | _ => absentConfig arguments

/-- The settings that arguments and the content of the configuration make up. -/
def settle (arguments : Arguments) (config : Option Toml.Table) : Except SetupError Settings :=
  (resolveSettings arguments (config.getD [])).mapError .ofSettings

/-- Finds the settings of a run. -/
def setUp (world : World) (arguments : Arguments) : Except SetupError Settings := do
  let config ← loadConfig world arguments
  settle arguments config

end QueryLayout
