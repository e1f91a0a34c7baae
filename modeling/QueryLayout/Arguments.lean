import QueryLayout.Switch
import QueryLayout.Text.Integer
import QueryLayout.Text.Quoted

namespace QueryLayout

/-- What was asked for on the command line. A single dash as the input stands
for standard input. A blank output or configuration counts as none. -/
structure Arguments where
  input : String := "-"
  output : Option String := none
  language : Option (SwitchValue String) := none
  indent : Option (SwitchValue (List Char)) := none
  spaces : Option (SwitchValue Int) := none
  tabs : Bool := false
  params : List (SwitchValue (List Char)) := []
  args : List (SwitchValue (List Char)) := []
  config : Option String := none
  debug : Bool := false
  verbose : Bool := false
  quiet : Bool := false
deriving DecidableEq, Repr

/-- Why a command line cannot be understood. -/
inductive UsageError where
  | ambiguous (text : List Char) (candidates : List Switch)
  | missingValue (switch : Switch)
  | needlessValue (switch : Switch) (text : List Char)
  | notInteger (switch : Switch) (text : List Char)
  | rivals (switch earlier : Switch)
  | unrecognized (texts : List (List Char))
deriving DecidableEq, Repr

def UsageError.message : UsageError → String
  | .ambiguous text candidates =>
    "ambiguous option: " ++ String.ofList text ++ " could match " ++
      ", ".intercalate (candidates.map Switch.long)
  | .missingValue switch => "argument " ++ switch.label ++ ": expected one argument"
  | .needlessValue switch text =>
    "argument " ++ switch.label ++ ": ignored explicit argument " ++
      String.ofList (displayText text)
  | .notInteger switch text =>
    "argument " ++ switch.label ++ ": invalid int value: " ++ String.ofList (displayText text)
  | .rivals switch earlier =>
    "argument " ++ switch.label ++ ": not allowed with argument " ++ earlier.label
  | .unrecognized texts =>
    "unrecognized arguments: " ++ " ".intercalate (texts.map String.ofList)

/-- What one word of the command line can be. `attached` is the part of the
word after the name of a switch, without an equals sign that divides the two;
after a short name there can be either. -/
inductive WordClass where
  | operand
  | separator
  | long (switch : Switch) (attached : Option (List Char))
  | short (switch : Switch) (divided : Bool) (attached : Option (List Char))
  | unknown
deriving DecidableEq, Repr

/-- A minus sign and a number, which is an operand although it begins with a
dash. A line break at the end does no harm. -/
def isNegativeNumber (text : List Char) : Bool :=
  match text with
  | '-' :: rest =>
    let rest := if rest.getLast? = some '\n' then rest.dropLast else rest
    let isDigit := fun c => (decimalValue? c).isSome
    let after := rest.dropWhile isDigit
    match after with
    | [] => !rest.isEmpty
    | '.' :: fraction => !fraction.isEmpty && fraction.all isDigit
    | _ => false
  | _ => false

/-- A word with a leading dash that names no switch. -/
def classifyOther (text : List Char) : WordClass :=
  if isNegativeNumber text || text.contains ' ' then .operand else .unknown

/-- The part of a word before the first equals sign, and the part after it. -/
def splitEquals (text : List Char) : List Char × Option (List Char) :=
  match text.dropWhile (· != '=') with
  | [] => (text, none)
  | _ :: value => (text.takeWhile (· != '='), some value)

/-- A long name may be cut short as long as one switch is left that begins
with it. -/
def classifyLong (text : List Char) : Except UsageError WordClass :=
  let (name, value) := splitEquals text
  match Switch.ofLong? name with
  | some switch => .ok (.long switch value)
  | none =>
    match Switch.all.filter fun switch => name.isPrefixOf switch.long.toList with
    | [] => .ok (classifyOther text)
    | [switch] => .ok (.long switch value)
    | candidates => .error (.ambiguous text candidates)

def classifyShort (text : List Char) (c : Char) (rest : List Char) : WordClass :=
  match Switch.ofShort? c with
  | none => classifyOther text
  | some switch =>
    match rest with
    | [] => .short switch false none
    | '=' :: value => .short switch true (some value)
    | _ => .short switch false (some rest)

def classify (text : List Char) : Except UsageError WordClass :=
  match text with
  | ['-', '-'] => .ok .separator
  | '-' :: '-' :: _ => classifyLong text
  | '-' :: c :: rest => .ok (classifyShort text c rest)
  | _ => .ok .operand

/-- Classifies the words from left to right. After the separator all words are
operands. -/
def classifyAll : List (List Char) → Except UsageError (List (List Char × WordClass))
  | [] => .ok []
  | text :: later => do
    let wordClass ← classify text
    if wordClass = .separator then
      .ok ((text, .separator) :: later.map fun operand => (operand, .operand))
    else
      let classes ← classifyAll later
      .ok ((text, wordClass) :: classes)

/-- One thing that a word asks for. -/
inductive Request where
  | flag (switch : Switch)
  | value (switch : Switch) (value : SwitchValue (List Char))
  | awaitValue (switch : Switch)
  | unknown (text : List Char)
deriving DecidableEq, Repr

def Request.bare (switch : Switch) : Request :=
  if switch.takesValue then .awaitValue switch else .flag switch

/-- What a switch with a text attached to it asks for. -/
def Request.attached (release : Release) (switch : Switch) (text : List Char) :
    Except UsageError Request :=
  if switch.takesValue then .ok (.value switch (.ofAttached release text))
  else .error (.needlessValue switch text)

/-- Whether no more switches can follow one that takes no value: in the later
releases neither after an equals sign nor at a dash. -/
def Release.endsCluster (release : Release) (divided : Bool) (c : Char) : Bool :=
  release == .later && (divided || c == '-')

/-- What a switch without a value and letters after it that name no switch ask
for. To the earlier releases they are a needless value, to the later ones a word
of their own. -/
def Request.stray (release : Release) (switch : Switch) (text : List Char) :
    Except UsageError (List Request) :=
  match release with
  | .earlier => .error (.needlessValue switch text)
  | .later => .ok [.flag switch, .unknown ('-' :: text)]

/-- Takes apart a word such as `-vldb2`, where several short switches share one
dash. The first of them that takes a value takes all that is left of the word,
in the later releases without an equals sign in front. -/
def cluster (release : Release) : Bool → Switch → List Char → Except UsageError (List Request)
  | _, switch, [] => (Request.attached release switch []).map ([·])
  | divided, switch, c :: rest =>
    if switch.takesValue || release.endsCluster divided c then
      (Request.attached release switch (c :: rest)).map ([·])
    else
      match Switch.ofShort? c with
      | none => Request.stray release switch (c :: rest)
      | some next =>
        match rest with
        | [] => .ok [.flag switch, .bare next]
        | d :: value =>
          if release = .later ∧ d = '=' then
            (cluster release true next value).map (.flag switch :: ·)
          else (cluster release false next (d :: value)).map (.flag switch :: ·)

/-- What a word asks for, unless it is an operand or the separator. -/
def WordClass.requests (release : Release) (wordClass : WordClass) (text : List Char) :
    Except UsageError (List Request) :=
  match wordClass with
  | .operand | .separator => .ok []
  | .unknown => .ok [.unknown text]
  | .long switch none => .ok [.bare switch]
  | .long switch (some attached) => (Request.attached release switch attached).map ([·])
  | .short switch _ none => .ok [.bare switch]
  | .short switch divided (some attached) => cluster release divided switch attached

/-- Gives the word that follows to a switch that waits for its value. -/
def supplyValue (requests : List Request) (later : List (List Char × WordClass)) :
    Except UsageError (List Request × List (List Char × WordClass)) :=
  match requests.getLast? with
  | some (.awaitValue switch) =>
    match later with
    | (text, .operand) :: rest => .ok (requests.dropLast ++ [.value switch (.given text)], rest)
    | _ => .error (.missingValue switch)
  | _ => .ok (requests, later)

/-- How far the reading of a command line has come. -/
structure ArgumentState where
  arguments : Arguments := {}
  given : List Switch := []
  inputTaken : Bool := false
  extras : List (List Char) := []
  helpAsked : Bool := false
deriving DecidableEq, Repr

def Arguments.setFlag (arguments : Arguments) : Switch → Arguments
  | .tabs => { arguments with tabs := true }
  | .debug => { arguments with debug := true }
  | .verbose => { arguments with verbose := true }
  | .quiet => { arguments with quiet := true }
  | _ => arguments

def readCount (switch : Switch) : SwitchValue (List Char) → Except UsageError (SwitchValue Int)
  | .blank => .ok .blank
  | .given text =>
    match integer? text with
    | some n => .ok (.given n)
    | none => .error (.notInteger switch text)

def Arguments.setValue (arguments : Arguments) (switch : Switch)
    (value : SwitchValue (List Char)) : Except UsageError Arguments :=
  match switch with
  | .output => .ok { arguments with output := value.given?.map String.ofList }
  | .language => .ok { arguments with language := some (value.map String.ofList) }
  | .indent => .ok { arguments with indent := some value }
  | .spaces => (readCount switch value).map fun count => { arguments with spaces := some count }
  | .param => .ok { arguments with params := arguments.params ++ [value] }
  | .arg => .ok { arguments with args := arguments.args ++ [value] }
  | .config => .ok { arguments with config := value.given?.map String.ofList }
  | .help | .tabs | .debug | .verbose | .quiet => .ok arguments

/-- Notes that a switch was given, unless a rival of it came before. -/
def ArgumentState.note (state : ArgumentState) (switch : Switch) :
    Except UsageError ArgumentState :=
  match switch.rivals.find? state.given.contains with
  | some earlier => .error (.rivals switch earlier)
  | none => .ok { state with given := switch :: state.given }

def ArgumentState.perform (state : ArgumentState) (request : Request) :
    Except UsageError ArgumentState := do
  match request with
  | .flag switch =>
    let noted ← state.note switch
    .ok { noted with
      arguments := noted.arguments.setFlag switch
      helpAsked := noted.helpAsked || switch == .help }
  | .value switch value =>
    let arguments ← state.arguments.setValue switch value
    let noted ← state.note switch
    .ok { noted with arguments := arguments }
  | .awaitValue switch => .error (.missingValue switch)
  | .unknown text => .ok { state with extras := state.extras ++ [text] }

/-- Performs requests in order. A request for help ends all work. -/
def ArgumentState.performAll : ArgumentState → List Request → Except UsageError ArgumentState
  | state, [] => .ok state
  | state, request :: later =>
    if state.helpAsked then .ok state
    else do
      let next ← state.perform request
      performAll next later

def ArgumentState.takeInput (state : ArgumentState) (text : List Char) : ArgumentState :=
  { state with
    arguments := { state.arguments with input := String.ofList text }
    inputTaken := true }

/-- Reads classified words from left to right. The first operand is the
input, and the separator belongs to it; whatever else is left over is an
extra. -/
def ArgumentState.consume (release : Release) :
    Nat → ArgumentState → List (List Char × WordClass) → Except UsageError ArgumentState
  | 0, state, _ => .ok state
  | _ + 1, state, [] => .ok state
  | steps + 1, state, (text, wordClass) :: later =>
    if state.helpAsked then .ok state
    else
      match wordClass with
      | .operand =>
        if state.inputTaken then
          consume release steps { state with extras := state.extras ++ [text] } later
        else
          match later with
          | (_, .separator) :: rest => consume release steps (state.takeInput text) rest
          | _ => consume release steps (state.takeInput text) later
      | .separator =>
        if state.inputTaken then
          consume release steps { state with extras := state.extras ++ [text] } later
        else
          match later with
          | (operand, .operand) :: rest => consume release steps (state.takeInput operand) rest
          | _ => consume release steps { state with inputTaken := true } later
      | _ => do
        let requests ← wordClass.requests release text
        let (requests, rest) ← supplyValue requests later
        let next ← state.performAll requests
        consume release steps next rest

/-- The result of reading a command line: arguments, or a request for help. -/
inductive Invocation where
  | run (arguments : Arguments)
  | help
deriving DecidableEq, Repr

/-- Reads the words of a command line as a release of the option reader does. -/
def parseArguments (words : List String) (release : Release := .earlier) :
    Except UsageError Invocation := do
  let classes ← classifyAll (words.map String.toList)
  let state ← ArgumentState.consume release (words.length + 1) {} classes
  if state.helpAsked then .ok .help
  else if state.extras.isEmpty then .ok (.run state.arguments)
  else .error (.unrecognized state.extras)

end QueryLayout
