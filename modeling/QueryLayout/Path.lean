import QueryLayout.Text.Fields

namespace QueryLayout

/-- Where a path starts: at the current directory, or at the root, which two
slashes may denote as well as one. -/
inductive PathStart where
  | here
  | root
  | doubleRoot
deriving DecidableEq, Repr

/-- A path as its names. No name is empty or a single dot. -/
structure Path where
  start : PathStart := .here
  names : List (List Char)
deriving DecidableEq, Repr

def Path.ofText (text : List Char) : Path where
  start :=
    match text.takeWhile (· == '/') with
    | [] => .here
    | [_, _] => .doubleRoot
    | _ => .root
  names := (fields (· == '/') text).filter fun name => name ≠ [] ∧ name ≠ ['.']

def Path.ofString (text : String) : Path :=
  Path.ofText text.toList

def PathStart.text : PathStart → List Char
  | .here => []
  | .root => ['/']
  | .doubleRoot => ['/', '/']

/-- The shortest way to write a path. The current directory is a dot. -/
def Path.text (path : Path) : List Char :=
  match path.start, path.names with
  | .here, [] => ['.']
  | start, names => start.text ++ ['/'].intercalate names

def Path.toString (path : Path) : String :=
  String.ofList path.text

/-- The directory that holds what the path denotes, by its names alone. -/
def Path.parent (path : Path) : Path :=
  { path with names := path.names.dropLast }

def Path.child (path : Path) (name : String) : Path :=
  { path with names := path.names ++ [name.toList] }

end QueryLayout
