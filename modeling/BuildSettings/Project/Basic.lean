import BuildSettings.ProductType
import BuildSettings.Setting.Value
import BuildSettings.TargetId

/-!
# Projects

A project declares configurations of settings and targets. A target has its own configurations,
the targets it depends on, the files it links with and its source files, some with flags of
their own.
-/

namespace BuildSettings

/-- A named variant of settings. -/
structure Configuration where
  name : String := ""
  settings : Dictionary SettingValue := ∅
deriving DecidableEq, Inhabited

/-- A declared dependency: on a target of the same project by its name there, or on a target of
any project by a bare name. -/
structure Dependency where
  target : Option String := none
  name : Option String := none
deriving DecidableEq, Inhabited, Repr

/-- A target of a project. -/
structure Target where
  name : String := ""
  productName : Option String := none
  productType : Option ProductType := none
  dependencies : List Dependency := []
  /-- Files that the link step names, such as `Core.framework`. -/
  linkedFiles : List String := []
  /-- Files and directories that the compile step names. -/
  sourceFiles : List String := []
  /-- Compiler flags of single source files. -/
  fileFlags : Dictionary String := ∅
  configurations : List Configuration := []
deriving DecidableEq, Inhabited

/-- A project. -/
structure Project where
  /-- The path of the project file. -/
  path : String := ""
  name : String := ""
  guid : String := ""
  configurations : List Configuration := []
  targets : List Target := []
deriving DecidableEq, Inhabited

/-- The name of the configuration for debugging. -/
def debugConfiguration : String := "Debug"

namespace Configuration

/-- The settings as texts. -/
def flat (configuration : Configuration) : Settings :=
  configuration.settings.map SettingValue.flat

/-- The configurations of a name, as texts, in the order of the list. -/
def named (configurations : List Configuration) (name : String) : List Settings :=
  (configurations.filter (·.name == name)).map flat

end Configuration

namespace Target

/-- The name of the product, which is the target's own when none is given. -/
def product (target : Target) : String :=
  target.productName.getD target.name

/-- Whether flags given for `reference` are meant for `file`: the paths are the same, or the file
ends with a relative reference. -/
def isReferenceTo (reference : String) (file : Path) : Bool :=
  file.same ⟨reference⟩ || (!Path.isAbsolute ⟨reference⟩ && file.endsWith ⟨reference⟩)

/-- The flags given for a source file, by the first reference that fits. -/
def flagsFor? (target : Target) (file : Path) : Option String :=
  (target.fileFlags.entries.find? fun e => isReferenceTo e.1 file).map (·.2)

/-- The flags for a source file as a list, when there are any. -/
def flagListFor? (target : Target) (file : Path) : Option (List String) :=
  ((target.flagsFor? file).map Text.splitList).filter fun flags => !flags.isEmpty

end Target

namespace Project

/-- The first target of this name. -/
def target? (project : Project) (name : String) : Option Target :=
  project.targets.find? (·.name == name)

/-- The identity of a target that the project declares. -/
def idOf (project : Project) (target : Target) : TargetId :=
  ⟨project.path, target.name⟩

/-- The directory that holds the project file. -/
def folder (project : Project) : Path :=
  (Path.parent? ⟨project.path⟩).getD ⟨""⟩

end Project

end BuildSettings
