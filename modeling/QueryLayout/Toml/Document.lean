import QueryLayout.Toml.Reader

namespace QueryLayout.Toml

/-- A document in the making. `header` is the table that is being filled.
The keys of `declared` have been opened and cannot be opened again, those of
`closed` were written as one value and cannot be extended, and those of
`pending` become declared at the next header. -/
structure Draft where
  root : Table := []
  header : Key := []
  declared : List Key := []
  closed : List Key := []
  pending : List Key := []

def Draft.settle (draft : Draft) : Draft :=
  { draft with declared := draft.pending ++ draft.declared, pending := [] }

/-- Opens the table of a header in single brackets. -/
def Draft.openTable (draft : Draft) (key : Key) :
    Except Problem Draft := do
  if draft.declared.contains key || isBelow draft.closed key then .error .redefined
  else
    let root ← draft.root.within true .ok key
    .ok { draft with root := root, header := key, declared := key :: draft.declared }

/-- Adds an empty table to the array that a name stands for. -/
def Table.appendTable (name : List Char) (table : Table) :
    Except Problem Table :=
  match table.lookup name with
  | none => .ok (table.insert name (.array [.table []]))
  | some (.array items) => .ok (table.insert name (.array (items ++ [.table []])))
  | some _ => .error .redefined

/-- Opens the next table of a header in double brackets. What was declared
below the one before does not count for the new one. -/
def Draft.openItem (draft : Draft) (key : Key) :
    Except Problem Draft := do
  if isBelow draft.closed key then .error .redefined
  else
    let root ← draft.root.within true (·.appendTable (key.getLastD [])) key.dropLast
    .ok { draft with
      root := root
      header := key
      declared := key :: draft.declared.filter fun other => !key.isPrefixOf other
      closed := draft.closed.filter fun other => !key.isPrefixOf other }

/-- Gives a value to a key of the current table. Tables that the key passes
through must not have been declared. -/
def Draft.assign (draft : Draft) (key : Key) (value : Value) :
    Except Problem Draft := do
  let passed := (List.range (key.length - 1)).map fun n => draft.header ++ key.take (n + 1)
  let parents := draft.header ++ key.dropLast
  if passed.any draft.declared.contains || isBelow draft.closed parents then
    .error .redefined
  else
    let root ← draft.root.assign true parents (key.getLastD []) value
    .ok { draft with
      root := root
      pending := passed ++ draft.pending
      closed :=
        if value.isCollection then (draft.header ++ key) :: draft.closed
        else draft.closed }

/-- The end of a statement: blanks, a comment, and a line break or the end of
the text. -/
def endStatement (text : List Char) : Except Problem (List Char) :=
  match skipSpaces text with
  | [] => .ok []
  | '\n' :: rest => .ok rest
  | '#' :: rest =>
    if (rest.takeWhile (· != '\n')).any (isForbidden false) then .error .unexpected
    else .ok ((rest.dropWhile (· != '\n')).drop 1)
  | _ => .error .unexpected

/-- One statement, without its end. -/
def Draft.readStatement (draft : Draft) (steps : Nat) (text : List Char) :
    Except Problem (Draft × List Char) :=
  match text with
  | '[' :: '[' :: rest => do
    let (key, rest) ← readKey (skipSpaces rest)
    let draft ← draft.settle.openItem key
    match rest with
    | ']' :: ']' :: rest => .ok (draft, rest)
    | _ => .error .unexpected
  | '[' :: rest => do
    let (key, rest) ← readKey (skipSpaces rest)
    let draft ← draft.settle.openTable key
    match rest with
    | ']' :: rest => .ok (draft, rest)
    | _ => .error .unexpected
  | _ => do
    let (key, rest) ← readAssigned text
    let (value, rest) ← readValue steps rest
    let draft ← draft.assign key value
    .ok (draft, rest)

/-- The statements of a document. Every statement or empty line takes a
character at least. -/
def Draft.readStatements (steps : Nat) :
    Nat → Draft → List Char → Except Problem Draft
  | 0, draft, _ => .ok draft
  | lines + 1, draft, text =>
    match skipSpaces text with
    | [] => .ok draft
    | '\n' :: rest => readStatements steps lines draft rest
    | '#' :: rest => do
      let rest ← endStatement ('#' :: rest)
      readStatements steps lines draft rest
    | text => do
      let (draft, rest) ← draft.readStatement steps text
      let rest ← endStatement rest
      readStatements steps lines draft rest

def joinBreaks : List Char → List Char
  | '\r' :: '\n' :: rest => '\n' :: joinBreaks rest
  | c :: rest => c :: joinBreaks rest
  | [] => []

/-- Reads a document. -/
def read (text : List Char) : Except Problem Table := do
  let text := joinBreaks text
  let draft ← Draft.readStatements (2 * text.length + 2) (text.length + 1) {} text
  .ok draft.root

end QueryLayout.Toml
