import BuildSettings.CommandLine.Inputs

/-!
# The program

Gathers the files that a command looks at, runs the command and prints what it answers.
-/

namespace BuildSettings.CommandLine

/-- The names of everything at and below a path. -/
partial def outlineOf (path : String) : IO FileNode := do
  let base ← IO.currentDir
  if ← (base / path).isDir then
    let entries ← (base / path).readDir
    let below ← entries.toList.mapM fun entry =>
      return (entry.fileName, ← outlineOf (path ++ "/" ++ entry.fileName))
    return .directory below
  else
    return .file .empty

/-- Whether a path names a directory. -/
def isDirectoryOnDisk (path : String) : IO Bool := do
  (← IO.currentDir) / path |>.isDir

/-- The names in a directory. -/
def namesOnDisk (path : String) : IO (List String) := do
  let entries ← (← IO.currentDir) / path |>.readDir
  return entries.toList.map (·.fileName)

/-- The pieces of a path with `.` and `..` resolved. -/
def resolvedPieces (pieces : List String) : List String :=
  (pieces.foldl (fun done piece =>
    if piece = "" ∨ piece = "." then done
    else if piece = ".." then done.drop 1
    else piece :: done) []).reverse

/-- The texts of a path's beginnings, from the shortest. -/
def beginnings (path : Path) : List String :=
  let pieces := Text.pieces '/' path.text.toList
  (List.range pieces.length).map fun n =>
    String.ofList (Text.joinPieces '/' (pieces.take n ++ [[]]))

/-- Puts a part of the disk into the tree. Of a path that leads nowhere only the directories on
its way are put. -/
def gather (tree : FileTree) (input : Input) : IO FileTree := do
  let path := match input with
    | .content path | .names path | .outline path => path
  if path.text.isEmpty then return tree
  let within := fun (text : String) => resolvedPieces (tree.piecesTo ⟨text⟩)
  let mut root := tree.root
  for beginning in beginnings path do
    if !beginning.isEmpty && (← isDirectoryOnDisk beginning) then
      root := root.makeDirectory (within beginning)
  let here := within path.text
  if ← isDirectoryOnDisk path.text then
    root := root.makeDirectory here
    match input with
    | .content _ => pure ()
    | .names _ =>
      for name in ← namesOnDisk path.text do
        root := root.makeDirectory (here ++ [name])
    | .outline _ => root := .place (← outlineOf path.text) here root
  else
    match ← (IO.FS.readBinFile path.text).toBaseIO with
    | .ok content => root := .place (.file content) here root
    | .error _ => pure ()
  return { tree with root }

/-- The tree of the files that a request looks at. -/
def gatherAll (env : Environment) (request : Request) : IO Environment := do
  let mut env := env
  for _ in [0, 1] do
    let files ← (env.inputs request).foldlM gather env.files
    env := { env with files }
  return env

/-- What is printed when the words do not make a command, or help is asked for. -/
def usage : String :=
  "Usage: xcbs [" ++ "|".intercalate (commandForms.map (·.1)) ++ "] [OPTIONS]"

/-- What a command can see before any file is gathered. -/
def emptyEnvironment : IO Environment := do
  let working := (Text.pieces '/' (← IO.currentDir).toString.toList).map String.ofList
  return {
    files := ⟨.makeDirectory (resolvedPieces working) (.directory []), working⟩
    home := (← IO.getEnv "HOME").map Path.mk
    developerDir := (← IO.getEnv "DEVELOPER_DIR").map Path.mk }

/-- Runs the command that the words make, prints how it ends and gives the exit code. -/
def runProgram (words : List String) : IO UInt32 := do
  let env ← emptyEnvironment
  let env ← match Request.ofWords words with
    | .ok request => gatherAll env request
    | .error _ => pure env
  let outcome := run env words
  match outcome with
  | .answer value => IO.println value.pretty
  | .failure error => IO.eprintln ("Error: " ++ error.message)
  | .stopped .help => IO.println usage
  | .stopped .usage => IO.eprintln usage
  return outcome.exitCode

end BuildSettings.CommandLine

/-- Runs the command that the words make. -/
def main (words : List String) : IO UInt32 :=
  BuildSettings.CommandLine.runProgram words
