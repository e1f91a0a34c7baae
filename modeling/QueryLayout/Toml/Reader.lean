import QueryLayout.Toml.Scalar

namespace QueryLayout.Toml

/-- The names that lead from the root of a document to a value. -/
abbrev Key := List (List Char)

def skipSpaces (text : List Char) : List Char :=
  text.dropWhile fun c => c == ' ' || c == '\t'

/-- Skips the blanks, line breaks and comments between the items of an array. -/
def skipGaps : Bool → List Char → Except Problem (List Char)
  | _, [] => .ok []
  | true, c :: rest =>
    if c = '\n' then skipGaps false rest
    else if isForbidden false c then .error .unexpected
    else skipGaps true rest
  | false, c :: rest =>
    if c = ' ' ∨ c = '\t' ∨ c = '\n' then skipGaps false rest
    else if c = '#' then skipGaps true rest
    else .ok (c :: rest)

def isBareKeyChar (c : Char) : Bool :=
  ('a' ≤ c && c ≤ 'z') || ('A' ≤ c && c ≤ 'Z') || isDecimalDigit c || c == '-' || c == '_'

/-- A bare name, or one in quotes on a single line. -/
def readKeyPart (text : List Char) : Except Problem (List Char × List Char) :=
  match text with
  | '\x22' :: rest => readBasic false .none rest
  | '\x27' :: rest => readLiteral rest
  | _ =>
    let name := text.takeWhile isBareKeyChar
    if name.isEmpty then .error .unexpected else .ok (name, text.dropWhile isBareKeyChar)

/-- Names with periods between them. Every name takes a character at least,
so as many steps as there are characters suffice. -/
def readKeyWithin : Nat → List Char → Except Problem (Key × List Char)
  | 0, _ => .error .unexpected
  | steps + 1, text => do
    let (name, rest) ← readKeyPart text
    match skipSpaces rest with
    | '.' :: rest =>
      let (names, rest) ← readKeyWithin steps (skipSpaces rest)
      .ok (name :: names, rest)
    | rest => .ok ([name], rest)

def readKey (text : List Char) : Except Problem (Key × List Char) :=
  readKeyWithin (text.length + 1) text

/-- A key and the equals sign after it. -/
def readAssigned (text : List Char) : Except Problem (Key × List Char) := do
  let (key, rest) ← readKey text
  match rest with
  | '=' :: rest => .ok (key, skipSpaces rest)
  | _ => .error .unexpected

/-- Changes the table that a key leads to, and makes the tables on the way
that are missing. If `throughArrays` is set, an array of tables stands for its
last one. -/
def Table.within (throughArrays : Bool)
    (change : Table → Except Problem Table) :
    Key → Table → Except Problem Table
  | [], table => change table
  | name :: names, table =>
    match table.lookup name with
    | none => do
      let inner ← within throughArrays change names []
      .ok (table.insert name (.table inner))
    | some (.table entries) => do
      let inner ← within throughArrays change names entries
      .ok (table.insert name (.table inner))
    | some (.array items) =>
      match throughArrays, items.getLast? with
      | true, some (.table entries) => do
        let inner ← within throughArrays change names entries
        .ok (table.insert name (.array (items.dropLast ++ [.table inner])))
      | _, _ => .error .redefined
    | some _ => .error .redefined

def Table.define (name : List Char) (value : Value) (table : Table) :
    Except Problem Table :=
  if (table.lookup name).isSome then .error .redefined else .ok (table.insert name value)

/-- Gives a value to a key, which must not have one yet. -/
def Table.assign (throughArrays : Bool) (parents : Key) (name : List Char)
    (value : Value) (table : Table) : Except Problem Table :=
  table.within throughArrays (·.define name value) parents

def Value.isCollection : Value → Bool
  | .array _ => true
  | .table _ => true
  | _ => false

/-- Whether a key is one of the given keys or lies below one of them. -/
def isBelow (keys : List Key) (key : Key) : Bool :=
  keys.any (·.isPrefixOf key)

mutual

/-- A value of any kind. Every second step takes a character at least. -/
def readValue : Nat → List Char → Except Problem (Value × List Char)
  | 0, _ => .error .unexpected
  | steps + 1, text =>
    match text with
    | '[' :: rest => do
      match ← skipGaps false rest with
      | ']' :: rest => .ok (.array [], rest)
      | rest =>
        let (items, rest) ← readItems steps rest
        .ok (.array items, rest)
    | '\x7b' :: rest =>
      match skipSpaces rest with
      | '\x7d' :: rest => .ok (.table [], rest)
      | rest => do
        let (entries, rest) ← readEntries steps [] [] rest
        .ok (.table entries, rest)
    | _ => readScalar text

/-- The items of an array, through the closing bracket. -/
def readItems : Nat → List Char → Except Problem (List Value × List Char)
  | 0, _ => .error .unexpected
  | steps + 1, text => do
    let (value, rest) ← readValue steps text
    match ← skipGaps false rest with
    | ']' :: rest => .ok ([value], rest)
    | ',' :: rest =>
      match ← skipGaps false rest with
      | ']' :: rest => .ok ([value], rest)
      | rest =>
        let (items, rest) ← readItems steps rest
        .ok (value :: items, rest)
    | _ => .error .unterminated

/-- The entries of a table on one line, through the closing brace. The keys of
`closed` hold collections and cannot be extended. -/
def readEntries :
    Nat → Table → List Key → List Char → Except Problem (Table × List Char)
  | 0, _, _, _ => .error .unexpected
  | steps + 1, table, closed, text => do
    let (key, rest) ← readAssigned text
    let (value, rest) ← readValue steps rest
    if isBelow closed key then .error .redefined
    else
      let table ← table.assign false key.dropLast (key.getLastD []) value
      match skipSpaces rest with
      | '\x7d' :: rest => .ok (table, rest)
      | ',' :: rest =>
        readEntries steps table (if value.isCollection then key :: closed else closed)
          (skipSpaces rest)
      | _ => .error .unterminated

end

end QueryLayout.Toml
