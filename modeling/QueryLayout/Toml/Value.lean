import QueryLayout.Calendar
import QueryLayout.Decimal.Shortest
import QueryLayout.Text.Integer
import QueryLayout.Text.Quoted

namespace QueryLayout.Toml

/-- A value of a TOML document. The entries of a table keep the order in which
they were first mentioned. -/
inductive Value where
  | boolean (value : Bool)
  | integer (value : Int)
  | float (value : Binary64)
  | text (value : List Char)
  | date (value : Date)
  | time (value : Time)
  | dateTime (value : DateTime)
  | array (items : List Value)
  | table (entries : List (List Char × Value))
deriving Repr

abbrev Table := List (List Char × Value)

/-- Sets an entry of a table. A new name goes to the end. -/
def Table.insert (key : List Char) (value : Value) : Table → Table
  | [] => [(key, value)]
  | (name, old) :: later =>
    if name = key then (name, value) :: later else (name, old) :: insert key value later

/-- Whether an integer has too many digits to be shown. -/
def isLong (value : Int) : Bool :=
  mostDigits < (Nat.toDigits 10 value.natAbs).length

mutual

/-- A value as it is shown inside another one and in messages, if no integer in
it is too long. -/
def Value.display? : Value → Option String
  | .boolean value => some (if value then "True" else "False")
  | .integer value => if isLong value then none else some (toString value)
  | .float value => some (String.ofList value.text)
  | .text value => some (String.ofList (displayText value))
  | .date value => some value.display
  | .time value => some value.display
  | .dateTime value => some value.display
  | .array items =>
    (displayItems? items).map fun shown => "[" ++ ", ".intercalate shown ++ "]"
  | .table entries =>
    (displayEntries? entries).map fun shown => "\x7b" ++ ", ".intercalate shown ++ "\x7d"

def displayItems? : List Value → Option (List String)
  | [] => some []
  | item :: later => do
    let shown ← item.display?
    let others ← displayItems? later
    some (shown :: others)

def displayEntries? : List (List Char × Value) → Option (List String)
  | [] => some []
  | (key, value) :: later => do
    let shown ← value.display?
    let others ← displayEntries? later
    some ((String.ofList (displayText key) ++ ": " ++ shown) :: others)

end

/-- A value as it takes the place of a placeholder. Texts, dates and times
stand bare, and anything else as it is shown. -/
def Value.plain? : Value → Option String
  | .text value => some (String.ofList value)
  | .date value => some value.text
  | .time value => some value.text
  | .dateTime value => some value.text
  | value => value.display?

end QueryLayout.Toml
