namespace QueryLayout

/-- The options of the command line. -/
inductive Switch where
  | help
  | output
  | language
  | indent
  | spaces
  | tabs
  | param
  | arg
  | config
  | debug
  | verbose
  | quiet
deriving DecidableEq, Repr

def Switch.all : List Switch :=
  [.help, .output, .language, .indent, .spaces, .tabs, .param, .arg, .config, .debug, .verbose,
    .quiet]

def Switch.long : Switch → String
  | .help => "--help"
  | .output => "--output"
  | .language => "--language"
  | .indent => "--indent"
  | .spaces => "--spaces"
  | .tabs => "--tabs"
  | .param => "--param"
  | .arg => "--arg"
  | .config => "--config"
  | .debug => "--debug"
  | .verbose => "--verbose"
  | .quiet => "--quiet"

def Switch.short? : Switch → Option Char
  | .help => some 'h'
  | .output => some 'o'
  | .language => some 'l'
  | .param => some 'p'
  | .arg => some 'a'
  | .verbose => some 'v'
  | .quiet => some 'q'
  | .indent | .spaces | .tabs | .config | .debug => none

def Switch.takesValue : Switch → Bool
  | .help | .tabs | .debug | .verbose | .quiet => false
  | .output | .language | .indent | .spaces | .param | .arg | .config => true

/-- Sets of switches of which only one may be given. -/
def Switch.groups : List (List Switch) :=
  [[.indent, .spaces, .tabs], [.verbose, .quiet]]

/-- The switches that cannot stand beside this one. -/
def Switch.rivals (switch : Switch) : List Switch :=
  (Switch.groups.filter (·.contains switch)).flatten.filter (· != switch)

/-- All ways to write a switch, as a message names it. -/
def Switch.label (switch : Switch) : String :=
  match switch.short? with
  | some c => "-" ++ String.ofList [c] ++ "/" ++ switch.long
  | none => switch.long

def Switch.ofShort? (c : Char) : Option Switch :=
  Switch.all.find? fun switch => switch.short? == some c

def Switch.ofLong? (text : List Char) : Option Switch :=
  Switch.all.find? fun switch => switch.long.toList == text

/-- The releases of the option reader differ in what is attached to a switch.
To the earlier ones two dashes there are no value at all, and of several
switches that share one dash the last takes the rest of the word as it stands.
To the later ones the dashes are a value like any other, and an equals sign
divides each switch from its value. -/
inductive Release where
  | earlier
  | later
deriving DecidableEq, Repr

/-- What follows the name of a switch. The earlier releases leave a value blank
if it is two dashes that are attached to the name. -/
inductive SwitchValue (α : Type) where
  | given (value : α)
  | blank
deriving DecidableEq, Repr

def SwitchValue.map {α β : Type} (f : α → β) : SwitchValue α → SwitchValue β
  | .given value => .given (f value)
  | .blank => .blank

def SwitchValue.given? {α : Type} : SwitchValue α → Option α
  | .given value => some value
  | .blank => none

def SwitchValue.getD {α : Type} (value : SwitchValue α) (fallback : α) : α :=
  value.given?.getD fallback

/-- A blank is shown as a pair of empty brackets. -/
def SwitchValue.display : SwitchValue (List Char) → List Char
  | .given text => text
  | .blank => ['[', ']']

/-- The value that a text attached to the name of a switch stands for. -/
def SwitchValue.ofAttached (release : Release) (text : List Char) : SwitchValue (List Char) :=
  match release with
  | .earlier => if text = ['-', '-'] then .blank else .given text
  | .later => .given text

end QueryLayout
