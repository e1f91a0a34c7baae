import QueryLayout.Command

namespace QueryLayout

/-- Adds what a path leads to, and every directory on the way, to a tree. -/
def lookAt (tree : FileTree) (path : Path) : IO FileTree := do
  let here ← IO.currentDir
  let mut tree := tree
  for count in List.range path.names.length do
    let part : Path := { path with names := path.names.take (count + 1) }
    let place := here / part.toString
    if ← place.isDir then
      tree := tree.add part .directory
    else if ← place.pathExists then
      match ← (IO.FS.readBinFile place).toBaseIO with
      | .ok bytes => tree := tree.add part (.file bytes.toList)
      | .error _ =>
        tree := tree.add part (.file [])
        tree := { tree with access := (part.goal, { read := false }) :: tree.access }
  return tree

/-- All bytes of standard input. -/
partial def readAll (stream : IO.FS.Stream) (read : List UInt8) : IO (List UInt8) := do
  let chunk ← stream.read 65536
  if chunk.isEmpty then return read else readAll stream (read ++ chunk.toList)

/-- The part of the outside world that a run will ask about. -/
def observe (arguments : Arguments) : IO World := do
  let input := arguments.inputPath
  let output := optionalPath arguments.output
  let files ← (input.toList ++ output.toList ++ [arguments.configPath]).foldlM lookAt {}
  let stdin ← if input.isNone then readAll (← IO.getStdin) [] else pure []
  return { stdin := stdin, files := files }

/-- Makes the changes of an outcome real. -/
def carryOut (world : World) (outcome : Outcome) : IO UInt32 := do
  for (location, content) in world.files.changes outcome.files do
    IO.FS.writeBinFile location.path.toString (ByteArray.mk content.toArray)
  (← IO.getStdout).putStr outcome.stdout
  (← IO.getStderr).putStr outcome.stderr
  return outcome.exitCode.toUInt32

def runHere (words : List String) : IO UInt32 := do
  let world ←
    match parseArguments words with
    | .ok (.run arguments) => observe arguments
    | _ => pure {}
  match runCommand world words with
  | .ok outcome => carryOut world outcome
  | .error fault => throw (IO.userError fault.message)

end QueryLayout

def main (words : List String) : IO UInt32 :=
  QueryLayout.runHere words
