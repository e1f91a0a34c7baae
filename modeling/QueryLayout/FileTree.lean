import QueryLayout.Path
import QueryLayout.Text.Quoted

namespace QueryLayout

/-- Why a file cannot be opened. -/
inductive FileProblem where
  | missing
  | denied
  | notDirectory
  | isDirectory
  | nameTooLong
deriving DecidableEq, Repr

def FileProblem.number : FileProblem → Nat
  | .missing => 2
  | .denied => 13
  | .notDirectory => 20
  | .isDirectory => 21
  | .nameTooLong => 36

def FileProblem.reason : FileProblem → String
  | .missing => "No such file or directory"
  | .denied => "Permission denied"
  | .notDirectory => "Not a directory"
  | .isDirectory => "Is a directory"
  | .nameTooLong => "File name too long"

def FileProblem.message (problem : FileProblem) (path : Path) : String :=
  "[Errno " ++ toString problem.number ++ "] " ++ problem.reason ++ ": " ++
    displayString path.toString

/-- The problems that say there is no such file. -/
def FileProblem.leadsNowhere : FileProblem → Bool
  | .missing | .notDirectory => true
  | _ => false

/-- A place in the file system: below the root, or below the directory that
lies `up` steps above the current one. -/
inductive Location where
  | below (up : Nat) (names : List (List Char))
  | rooted (names : List (List Char))
deriving DecidableEq, Repr

def Location.names : Location → List (List Char)
  | .below _ names => names
  | .rooted names => names

def Location.enter (location : Location) (name : List Char) : Location :=
  match location with
  | .below up names => .below up (names ++ [name])
  | .rooted names => .rooted (names ++ [name])

/-- The directory above. Above the root there is the root. -/
def Location.leave : Location → Location
  | .below up [] => .below (up + 1) []
  | .below up names => .below up names.dropLast
  | .rooted names => .rooted names.dropLast

/-- Whether a location lies inside another one. -/
def Location.isInside (inner outer : Location) : Bool :=
  match inner, outer with
  | .below up names, .below above directory =>
    up == above && directory.isPrefixOf names && directory != names
  | .rooted names, .rooted directory => directory.isPrefixOf names && directory != names
  | _, _ => false

inductive FileNode where
  | file (content : List UInt8)
  | directory
deriving DecidableEq, Repr

/-- What may be done with a file or a directory. To search a directory is to
follow a name in it, and to make a file changes the directory it is made in. -/
structure Access where
  read : Bool := true
  write : Bool := true
  search : Bool := true
deriving DecidableEq, Repr

/-- The files and directories that are known to exist. A directory exists as
soon as something inside it does, and so do the current directory, those above
it and the root. Where no access is noted, all of it is granted. -/
structure FileTree where
  nodes : List (Location × FileNode) := []
  access : List (Location × Access) := []
deriving DecidableEq, Repr

def FileTree.accessTo (tree : FileTree) (location : Location) : Access :=
  (tree.access.lookup location).getD {}

def FileTree.node? (tree : FileTree) (location : Location) : Option FileNode :=
  if location.names.isEmpty then some .directory
  else
    match tree.nodes.lookup location with
    | some node => some node
    | none =>
      if tree.nodes.any fun (other, _) => other.isInside location then some .directory else none

def nameBytes (name : List Char) : Nat :=
  name.foldl (fun size c => size + c.utf8Size) 0

def longestName : Nat := 255

/-- The length that no path reaches, in bytes. -/
def pathLimit : Nat := 4096

/-- Follows names from a location. Every name but the last must lead to a
directory that may be searched; the last one may lead to nothing. -/
def FileTree.walk (tree : FileTree) : Location → List (List Char) → Except FileProblem Location
  | location, [] => .ok location
  | location, name :: later =>
    match tree.node? location with
    | none => .error .missing
    | some (.file _) => .error .notDirectory
    | some .directory =>
      if !(tree.accessTo location).search then .error .denied
      else if name = ['.', '.'] then walk tree location.leave later
      else if longestName < nameBytes name then .error .nameTooLong
      else walk tree (location.enter name) later

def Path.origin (path : Path) : Location :=
  match path.start with
  | .here => .below 0 []
  | .root => .rooted []
  | .doubleRoot => .rooted []

/-- The location that a path denotes. -/
def FileTree.locate (tree : FileTree) (path : Path) : Except FileProblem Location :=
  if pathLimit ≤ nameBytes path.text then .error .nameTooLong
  else tree.walk path.origin path.names

/-- The content of a file. -/
def FileTree.read (tree : FileTree) (path : Path) : Except FileProblem (List UInt8) := do
  let location ← tree.locate path
  match tree.node? location with
  | none => .error .missing
  | some node =>
    if !(tree.accessTo location).read then .error .denied
    else
      match node with
      | .directory => .error .isDirectory
      | .file content => .ok content

def setNode (location : Location) (node : FileNode) :
    List (Location × FileNode) → List (Location × FileNode)
  | [] => [(location, node)]
  | (other, old) :: later =>
    if other = location then (location, node) :: later
    else (other, old) :: setNode location node later

/-- Makes a node and leaves all others as they are. -/
def FileTree.set (tree : FileTree) (location : Location) (node : FileNode) : FileTree :=
  { tree with nodes := setNode location node tree.nodes }

/-- Gives a file a new content, and makes the file if its directory exists.
What changes must be open to that: the file, or the directory of a new one. -/
def FileTree.write (tree : FileTree) (path : Path) (content : List UInt8) :
    Except FileProblem FileTree := do
  let location ← tree.locate path
  match tree.node? location with
  | some .directory => .error .isDirectory
  | node =>
    let changed := if node.isSome then location else location.leave
    if (tree.accessTo changed).write then .ok (tree.set location (.file content))
    else .error .denied

/-- The location that a path leads to by its names alone. -/
def Path.goal (path : Path) : Location :=
  path.names.foldl
    (fun location name => if name = ['.', '.'] then location.leave else location.enter name)
    path.origin

/-- A node where a path leads, for a tree that is being put together. -/
def FileTree.add (tree : FileTree) (path : Path) (node : FileNode) : FileTree :=
  tree.set path.goal node

/-- The files whose content differs from what it was before. -/
def FileTree.changes (before after : FileTree) : List (Location × List UInt8) :=
  after.nodes.filterMap fun
    | (location, .file content) =>
      if before.node? location = some (.file content) then none else some (location, content)
    | (_, .directory) => none

/-- A path that leads to a location. -/
def Location.path : Location → Path
  | .below up names => ⟨.here, List.replicate up ['.', '.'] ++ names⟩
  | .rooted names => ⟨.root, names⟩

end QueryLayout
