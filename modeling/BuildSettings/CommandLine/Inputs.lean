import BuildSettings.CommandLine.Run

/-!
# Files that a command looks at

`Environment.run` answers from a tree of files. These are the parts of a disk that have to be in
the tree. The files that a command line names are known at once; which source files a project
names and which SDKs an Xcode has is known when the files of the first round are in the tree. So
`Environment.inputs` is asked in two rounds.
-/

namespace BuildSettings.CommandLine

/-- A part of a disk. -/
inductive Input where
  /-- A file with its content. -/
  | content (path : Path)
  /-- A directory with the names in it. -/
  | names (path : Path)
  /-- A file or directory and the names of everything below it. -/
  | outline (path : Path)
deriving DecidableEq, Repr

namespace Environment

/-- The files of preferences. -/
def preferenceInputs (env : Environment) (choice : PreferenceChoice) : List Input :=
  (env.hostFile? choice).toList.map .content ++ [.content (repositoryFile choice)]

/-- The source files that a project names. -/
def sourceInputs (env : Environment) (path : Path) : List Input :=
  match env.readProject path with
  | .ok project =>
    project.targets.flatMap fun target =>
      target.sourceFiles.map fun reference => .outline (project.folder / reference)
  | .error _ => []

/-- The files of an Xcode that tell versions, and the directories of SDKs. -/
def xcodeInputs (env : Environment) : List Input :=
  let xcode := Xcode.locate env.files env.xcodeDir
  let sdksDirs := platformDirectories.filterMap fun (platform, _) =>
    (xcode.sdksDir platform).toOption
  (Xcode.versionFile? env.xcodeDir).toList.map .content ++
    sdksDirs.flatMap fun dir =>
      .names dir :: (Xcode.entriesAt env.files dir).map fun name =>
        .content (Xcode.systemVersionFile (dir / name))

/-- The files of a project and of its SDKs and dumps. -/
def projectInputs (env : Environment) (choice : ProjectChoice) : List Input :=
  let sdks := match choice.sdks with
    | some path => [.content path]
    | none => env.xcodeInputs
  sdks ++ .content choice.project :: dumpInputs choice.dumps
where
  /-- The files of dumps. -/
  dumpInputs (texts : List String) : List Input :=
    texts.filterMap fun text => (dumpPair text).toOption.map fun pair => .content pair.2

/-- What a request looks at, as far as the files that are known tell. -/
def inputs (env : Environment) (request : Request) : List Input :=
  (match request.command with
    | .settings project _ _ => env.projectInputs project
    | .compileArgs project _ _ index _ =>
      env.sourceInputs project.project ++ env.projectInputs project ++
        index.toList.map .content
    | .buildOrder project additional _ => (project :: additional).map .content
    | .dump dumps => projectInputs.dumpInputs dumps
    | .config => []) ++ env.preferenceInputs request.preferences

end Environment

end BuildSettings.CommandLine
