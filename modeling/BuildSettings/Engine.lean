import BuildSettings.Batch
import BuildSettings.Compile.Arguments
import BuildSettings.Preferences.Basic
import BuildSettings.Sources

/-!
# Queries

An engine answers the queries of a language server about the targets of a project: their
settings, the compiler arguments of their files and the order to build them in. A target that is
in the loaded batch has the settings of its dump.

Notes on how the functions mirror a program that does the same:
- The home directory comes from the environment in a program, at the time of a query. Here it is a
  field, as is the tree of files, so that an answer is a function of the engine and the query.
- A program asks the source of SDKs for its installation once, when the engine is made. A source
  here has one installation, so it is asked in `contextOf`.
- The batch in a program is shared by copies of the engine and never changes; logs are left out.
-/

namespace BuildSettings

/-- Everything that answers depend on besides the project. -/
structure Engine where
  preferences : Preferences
  /-- The home directory, below which derived data lies by default. -/
  home : Path
  files : FileTree
  sdks : SdkSource
  loaded : Batch

namespace Engine

/-- The options for the settings of a target. -/
def optionsFor (engine : Engine) (project : Project) (target : String) : SynthesisOptions :=
  { engine.preferences.synthesisOptions engine.home project with
    loaded := (engine.loaded.find? ⟨project.path, target⟩).getD ∅ }

/-- The settings of a target. -/
def targetSettings (engine : Engine) (project : Project) (target : String) :
    Except SettingsError Settings :=
  (engine.optionsFor project target).synthesize project target engine.sdks

/-- The context of a file of a target; what was recorded about the file may tell its dialect. -/
def contextOf (engine : Engine) (project : Project) (target : Target) (settings : Settings)
    (file : Path) (recorded : Option FileRecord) : CompileContext :=
  let sources := SourceItem.expand engine.files (SourceItem.ofTarget engine.files project target)
  let ctx := CompileContext.start settings (engine.preferences.derivedDataOf engine.home project)
    |>.forFile file
    |>.withSources sources
    |>.withInstallation engine.sdks.installation
    |>.withFileFlags ((target.flagListFor? file).getD [])
  match recorded.bind (·.dialect) with
  | some dialect => ctx.withDialect dialect
  | none => ctx

/-- Answers a query about a file of a target. -/
def withContext {α : Type} (engine : Engine) (project : Project) (targetName : String)
    (file : Path) (index : Option FileIndex)
    (answer : CompileContext → Option FileRecord → α) : Except SettingsError α :=
  match engine.targetSettings project targetName with
  | .error e => .error e
  | .ok settings =>
    match project.target? targetName with
    | none => .error (.targetNotFound targetName project.path)
    | some target =>
      let recorded := index.bind (·.find? (project.idOf target) file)
      .ok (answer (engine.contextOf project target settings file recorded) recorded)

/-- The compiler arguments of a file. -/
def compileArguments (engine : Engine) (project : Project) (target : String) (file : Path)
    (index : Option FileIndex) : Except SettingsError (List String) :=
  engine.withContext project target file index CompileContext.argumentsOr

/-- The compiler arguments of a file by provider. -/
def explainArguments (engine : Engine) (project : Project) (target : String) (file : Path) :
    Except SettingsError (List (String × List String)) :=
  engine.withContext project target file none fun ctx _ => ctx.explain

/-- The order to build a target in. -/
def buildOrder (engine : Engine) (primary : Project) (additional : List Project)
    (target : TargetId) : BuildOrder :=
  (BuildGraph.ofProjects primary additional engine.preferences.graph).resolve target

end Engine

end BuildSettings
