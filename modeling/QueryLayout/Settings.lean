import QueryLayout.Arguments
import QueryLayout.Params
import QueryLayout.Path
import QueryLayout.Toml.Document

namespace QueryLayout

/-- The texts for placeholders that a run was given. Of values in sequence some
can be blank. -/
inductive GivenParams where
  | absent
  | named (bindings : List (List Char × List Char))
  | positional (values : List (SwitchValue (List Char)))
deriving DecidableEq, Repr

/-- A blank value takes the place of a placeholder in the form in which it is
shown. -/
def GivenParams.params : GivenParams → Params
  | .absent => .absent
  | .named bindings => .named bindings
  | .positional values => .positional (values.map SwitchValue.display)

/-- Everything that one run needs to know. Without an input the query comes
from standard input, and without an output it goes to standard output. -/
structure Settings where
  input : Option Path := none
  output : Option Path := none
  language : SwitchValue String := .given "sql"
  indent : SwitchValue (List Char) := .given [' ', ' ']
  params : GivenParams := .absent
  debug : Bool := false
deriving DecidableEq, Repr

/-- Why arguments and configuration do not go together. A bad indentation of the
configuration is told as it is shown. -/
inductive SettingsError where
  | blankSpaces
  | tooWide
  | longInteger
  | negativeSpaces (count : Int)
  | badIndent (shown : String)
  | badParam (text : List Char)
  | mixedParams
deriving DecidableEq, Repr

/-- What is said about an integer with too many digits. -/
def digitsMessage : String :=
  "Exceeds the limit (" ++ toString mostDigits ++ " digits) for integer string conversion"

def SettingsError.message : SettingsError → String
  | .blankSpaces => "'<' not supported between instances of 'list' and 'int'"
  | .tooWide => "cannot fit 'int' into an index-sized integer"
  | .longInteger => digitsMessage
  | .negativeSpaces count => "--spaces must not be negative: " ++ toString count
  | .badIndent shown =>
    "config indent must be a string or a non-negative integer: " ++ shown
  | .badParam text => "invalid param format (expected NAME=VALUE): " ++ String.ofList text
  | .mixedParams => "named (-p) and positional (-a) parameters cannot be combined"

/-- The name and the value on the two sides of the first equals sign. -/
def parseParam (text : List Char) : Except SettingsError (List Char × List Char) :=
  match splitEquals text with
  | (name, some value) => .ok (name, value)
  | (_, none) => .error (.badParam text)

/-- The greatest length that a text can have, one less than two to the 63rd. -/
def longestText : Nat := 0x7fffffffffffffff

/-- An indentation of so many spaces, of which there cannot be fewer than none. -/
def indentOfCount (count : Int) (negative : SettingsError) :
    Except SettingsError (SwitchValue (List Char)) :=
  if count < 0 then .error negative
  else if longestText < count.toNat then .error .tooWide
  else .ok (.given (List.replicate count.toNat ' '))

/-- The complaint about an indentation of the configuration shows it. -/
def badIndent (value : Toml.Value) : SettingsError :=
  match value.display? with
  | some shown => .badIndent shown
  | none => .longInteger

/-- Flags come before the configuration, and tabs before any other flag. -/
def resolveIndent (arguments : Arguments) (config : Toml.Table) :
    Except SettingsError (SwitchValue (List Char)) :=
  if arguments.tabs then .ok (.given ['\t'])
  else
    match arguments.spaces, arguments.indent with
    | some .blank, _ => .error .blankSpaces
    | some (.given count), _ => indentOfCount count (.negativeSpaces count)
    | none, some indent => .ok indent
    | none, none =>
      match config.lookup "indent".toList with
      | none => .ok (.given [' ', ' '])
      | some (.text text) => .ok (.given text)
      | some (.integer count) => indentOfCount count (badIndent (.integer count))
      | some value => .error (badIndent value)

/-- Sets the value of a name. A new name goes to the end. -/
def setBinding (name value : List Char) :
    List (List Char × List Char) → List (List Char × List Char)
  | [] => [(name, value)]
  | (other, old) :: later =>
    if other = name then (name, value) :: later else (other, old) :: setBinding name value later

/-- A value of the configuration as the text for a placeholder. -/
def plainText (value : Toml.Value) : Except SettingsError (List Char) :=
  match value.plain? with
  | some text => .ok text.toList
  | none => .error .longInteger

def configBindings (config : Toml.Table) :
    Except SettingsError (List (List Char × List Char)) :=
  match config.lookup "params".toList with
  | some (.table entries) =>
    entries.mapM fun (name, value) => (plainText value).map fun text => (name, text)
  | _ => .ok []

def configValues (config : Toml.Table) : Except SettingsError (List (List Char)) :=
  match config.lookup "args".toList with
  | some (.array items) => items.mapM plainText
  | _ => .ok []

/-- Adds parameters from the command line to those of the configuration. The
last value of a name wins. -/
def addParams : List (List Char × List Char) → List (SwitchValue (List Char)) →
    Except SettingsError (List (List Char × List Char))
  | bindings, [] => .ok bindings
  | bindings, param :: later => do
    let (name, value) ← parseParam param.display
    addParams (setBinding name value bindings) later

/-- Positional arguments replace those of the configuration as a whole, which
must be fit to be shown nevertheless. -/
def resolveParams (arguments : Arguments) (config : Toml.Table) :
    Except SettingsError GivenParams := do
  let bindings ← configBindings config
  let named ← addParams bindings arguments.params
  let values ← configValues config
  let positional :=
    if arguments.args.isEmpty then values.map .given else arguments.args
  if !named.isEmpty && !positional.isEmpty then .error .mixedParams
  else if !named.isEmpty then .ok (.named named)
  else if !positional.isEmpty then .ok (.positional positional)
  else .ok .absent

def resolveLanguage (arguments : Arguments) (config : Toml.Table) : SwitchValue String :=
  match arguments.language, config.lookup "language".toList with
  | some language, _ => language
  | none, some (.text language) => .given (String.ofList language)
  | none, _ => .given "sql"

def Arguments.inputPath (arguments : Arguments) : Option Path :=
  if arguments.input = "-" then none else some (Path.ofString arguments.input)

/-- An empty path stands for none. -/
def optionalPath (text : Option String) : Option Path :=
  (text.filter (· != "")).map Path.ofString

def configName : String := "sqlpretty.toml"

/-- The directory in which a configuration is looked for: that of the input,
or the current one. -/
def Arguments.inputDirectory (arguments : Arguments) : Path :=
  match arguments.inputPath with
  | some path => path.parent
  | none => ⟨.here, []⟩

def Arguments.configPath (arguments : Arguments) : Path :=
  (optionalPath arguments.config).getD (arguments.inputDirectory.child configName)

/-- Puts arguments and configuration together. The indentation is looked at
before the parameters. -/
def resolveSettings (arguments : Arguments) (config : Toml.Table) :
    Except SettingsError Settings := do
  let indent ← resolveIndent arguments config
  let params ← resolveParams arguments config
  .ok {
    input := arguments.inputPath
    output := optionalPath arguments.output
    language := resolveLanguage arguments config
    indent := indent
    params := params
    debug := arguments.debug }

end QueryLayout
