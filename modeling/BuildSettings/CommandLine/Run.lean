import BuildSettings.CommandLine.Command
import BuildSettings.Engine
import BuildSettings.Json.Printer
import BuildSettings.Preferences.Effective
import BuildSettings.Project.Document
import BuildSettings.Sdk.Xcode

/-!
# Running commands

`run` answers a command line from the files that are there and the environment: with a JSON
value, with an error, or with a note on usage. Nothing is written but the answer.
-/

namespace BuildSettings.CommandLine

/-- What a command can see. -/
structure Environment where
  files : FileTree
  home : Option Path
  developerDir : Option Path

/-- Why a command fails. -/
inductive Failure where
  | preferences (error : PreferenceError)
  | load (error : LoadError)
  | unreadableCatalog (path : Path) (error : FileError)
  | undecodableCatalog (fault : Json.Fault)
  | settings (error : SettingsError)
  | malformedTarget (text : String)
  | malformedDump (text : String)
deriving DecidableEq, Repr

/-- The wording of a failure. -/
def Failure.message : Failure → String
  | .preferences error => error.message
  | .load error => error.message
  | .unreadableCatalog path error => "failed to read " ++ path.text ++ ": " ++ error.message
  | .undecodableCatalog _ => "invalid SDK catalog"
  | .settings error => error.message
  | .malformedTarget text => TargetId.malformedMessage text
  | .malformedDump text => "expected PROJECT=DUMP, got " ++ Text.quoted text

/-- How a command line ends. -/
inductive Outcome where
  | answer (value : Json)
  | failure (error : Failure)
  | stopped (stop : Stop)

/-- The exit code of the program. -/
def Outcome.exitCode : Outcome → UInt32
  | .answer _ => 0
  | .failure _ => 1
  | .stopped .help => 0
  | .stopped .usage => 2

namespace Environment

/-- Reads a document from a file. -/
def readDocument {α : Type} (env : Environment) (kind : DocumentKind)
    (read : String → Except Json.Fault α) (path : Path) : Except LoadError α :=
  match env.files.readText path with
  | .error e => .error (.unreadable path e)
  | .ok text =>
    match read text with
    | .error fault => .error (.undecodable kind fault)
    | .ok value => .ok value

/-- Reads a project. -/
def readProject (env : Environment) (path : Path) : Except Failure Project :=
  (env.readDocument .project Project.ofText path).mapError .load

/-- The preferences file of the user, unless it is to be left out. -/
def hostFile? (env : Environment) (choice : PreferenceChoice) : Option Path :=
  if choice.noHostFile then none else env.home.map EffectivePreferences.hostFile

/-- The preferences file of the repository. -/
def repositoryFile (choice : PreferenceChoice) : Path :=
  EffectivePreferences.repositoryFile (choice.repository.getD ⟨"."⟩)

/-- The preferences that hold. -/
def effectivePreferences (env : Environment) (choice : PreferenceChoice) :
    Except Failure EffectivePreferences :=
  let build := fun overrides =>
    (EffectivePreferences.build env.files (env.hostFile? choice) (some (repositoryFile choice))
      overrides).mapError Failure.preferences
  if choice.overrides.isEmpty then build none
  else match Preferences.overrides choice.overrides with
    | .error e => .error (.preferences (.invalid (.override e)))
    | .ok overrides => build (some overrides)

/-- The preferences that hold, by type. -/
def preferences (env : Environment) (choice : PreferenceChoice) :
    Except Failure Preferences :=
  match env.effectivePreferences choice with
  | .error e => .error e
  | .ok effective => effective.preferences.mapError .preferences

/-- The developer directory of the Xcode in use. -/
def xcodeDir (env : Environment) : Path :=
  env.developerDir.getD Xcode.defaultDeveloperDir

/-- The source of SDKs: a catalog file, or the Xcode of the environment. -/
def sdkSource (env : Environment) : Option Path → Except Failure SdkSource
  | some path =>
    match env.files.readText path with
    | .error e => .error (.unreadableCatalog path e)
    | .ok text =>
      match SdkCatalog.ofText text with
      | .error fault => .error (.undecodableCatalog fault)
      | .ok catalog => .ok catalog.source
  | none => .ok ((Xcode.locate env.files env.xcodeDir).source env.files)

/-- A project and the file of its dump, which stand before and after the first equals sign. -/
def dumpPair (text : String) : Except Failure (String × Path) :=
  match Text.cutFirst? '=' text.toList with
  | some (project, path) => .ok (String.ofList project, ⟨String.ofList path⟩)
  | none => .error (.malformedDump text)

/-- Loads dumps as one batch. Of several files for one project the last one is read. -/
def loadDumps (env : Environment) (texts : List String) : Except Failure Batch :=
  match texts.mapM dumpPair with
  | .error e => .error e
  | .ok pairs =>
    let fetch := fun (group : LoadGroup) =>
      match pairs.reverse.lookup group.project with
      | none => LoadOutcome.failure (.refused group.project "no dump file")
      | some path =>
        match env.readDocument .settingsDump DumpRecord.allOfText path with
        | .error e => .failure e
        | .ok records => .records records
    (Batch.loadEach fetch (pairs.map fun p => { project := p.1 })).mapError .load

/-- The directory below which derived data lies. -/
def homeDir (env : Environment) : Path :=
  env.home.getD ⟨"."⟩

/-- The engine for a project, and the project. -/
def openEngine (env : Environment) (choice : ProjectChoice) (preferences : PreferenceChoice) :
    Except Failure (Engine × Project) := do
  let preferences ← env.preferences preferences
  let sdks ← env.sdkSource choice.sdks
  let project ← env.readProject choice.project
  let loaded ← env.loadDumps choice.dumps
  return ({ preferences, home := env.homeDir, files := env.files, sdks, loaded }, project)

/-- The target that a text names: by its written form, or by its name in a project. -/
def targetNamed (project : Project) (text : String) : Except Failure TargetId :=
  if Text.startsWith text TargetId.scheme then
    match TargetId.ofText? text with
    | some id => .ok id
    | none => .error (.malformedTarget text)
  else .ok ⟨project.path, text⟩

/-- Writes the arguments of a provider. -/
def contributionToJson (contribution : String × List String) : Json :=
  .object [("provider", .text contribution.1), ("arguments", .ofTexts contribution.2)]

/-- Answers the command `settings`. -/
def runSettings (env : Environment) (choice : ProjectChoice) (target : String)
    (keys : List String) (preferences : PreferenceChoice) : Except Failure Json := do
  let (engine, project) ← env.openEngine choice preferences
  let settings ← (engine.targetSettings project target).mapError .settings
  if keys.isEmpty then return .ofSettings settings
  else
    let selected := keys.filterMap fun key => (settings.get? key).map (key, ·)
    return .ofSettings (.ofList selected)

/-- Answers the command `compile-args`. -/
def runCompileArgs (env : Environment) (choice : ProjectChoice) (target : String) (file : Path)
    (index : Option Path) (explain : Bool) (preferences : PreferenceChoice) :
    Except Failure Json := do
  let (engine, project) ← env.openEngine choice preferences
  if explain then
    let parts ← (engine.explainArguments project target file).mapError .settings
    return .array (parts.map contributionToJson)
  else
    let index ← match index with
      | none => pure none
      | some path =>
        (env.readDocument .fileIndex FileIndex.ofText path).map some |>.mapError Failure.load
    let arguments ← (engine.compileArguments project target file index).mapError .settings
    return .ofTexts arguments

/-- Answers the command `build-order`. -/
def runBuildOrder (env : Environment) (project : Path) (additional : List Path)
    (target : String) (preferences : PreferenceChoice) : Except Failure Json := do
  let preferences ← env.preferences preferences
  let primary ← env.readProject project
  let additional ← additional.mapM env.readProject
  let id ← targetNamed primary target
  return ((BuildGraph.ofProjects primary additional preferences.graph).resolve id).toJson

/-- Answers the command `dump`. -/
def runDump (env : Environment) (dumps : List String) (preferences : PreferenceChoice) :
    Except Failure Json := do
  let _ ← env.preferences preferences
  let batch ← env.loadDumps dumps
  let byText := Dictionary.ofList (batch.toList.map fun (id, settings) => (id.toText, settings))
  return .ofDictionary .ofSettings byText

/-- Answers a request. -/
def answer (env : Environment) (request : Request) : Except Failure Json :=
  match request.command with
  | .settings project target keys => env.runSettings project target keys request.preferences
  | .compileArgs project target file index explain =>
    env.runCompileArgs project target file index explain request.preferences
  | .buildOrder project additional target =>
    env.runBuildOrder project additional target request.preferences
  | .dump dumps => env.runDump dumps request.preferences
  | .config => (env.effectivePreferences request.preferences).map EffectivePreferences.toJson

end Environment

/-- Runs a command line. -/
def run (env : Environment) (words : List String) : Outcome :=
  match Request.ofWords words with
  | .error stop => .stopped stop
  | .ok request =>
    match env.answer request with
    | .error e => .failure e
    | .ok value => .answer value

end BuildSettings.CommandLine
