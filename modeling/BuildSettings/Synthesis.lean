import BuildSettings.Platform
import BuildSettings.Setting.Expansion

/-!
# Complete settings of a target

`SynthesisOptions.synthesize` brings everything about a target together. The SDK that its settings
name, or that a dump names, chooses the platform; the platform's settings and those about the
project and its directories become defaults under the target's own; a dump replaces what was
folded, apart from the identity of the SDK; references are expanded, and the architecture and
the target triple are derived last.

Notes on how the functions mirror a program that does the same:
- A program puts settings into a map one after the other. `requestLayer` and `environment` are
  dictionaries of the whole list, in which no name comes up twice.
- The last steps change the settings in place in a program, with a return in the middle when there
  is no architecture. `withSdkPath` and `withArch` are these steps as functions, and the return is
  the first branch of `withArch`.
- The options are plain data. Where a program counts the settings that came from a dump, it does so
  for its log, and the count is left out.
-/

namespace BuildSettings

open Setting

/-- What a caller decides about the settings of a target. -/
structure SynthesisOptions where
  configuration : String
  derivedData : Path
  forceSimulator : Bool
  archPolicy : ArchPolicy
  swiftVersion : String
  /-- Defaults that win over those of the platform. -/
  customDefaults : Settings
  /-- Settings that the build tool resolved for the target. -/
  loaded : Settings

/-- Why a target has no settings. -/
inductive SettingsError where
  | targetNotFound (target project : String)
  | invalidSdk (error : InvalidSdk)
deriving DecidableEq, Repr

/-- The wording of an error. -/
def SettingsError.message : SettingsError → String
  | .targetNotFound target project => "target " ++ target ++ " not found in project " ++ project
  | .invalidSdk error => error.message

/-- The settings of the request itself. -/
def requestLayer (target : Target) (configuration : String) : Settings :=
  .ofList <|
    [("CONFIGURATION", configuration), ("TARGET_NAME", target.name)] ++
    target.productType.toList.map fun t => ("PRODUCT_TYPE", t.identifier)

/-- The settings about a project, its products and its directories. -/
def environment (project : Project) (derivedData : Path) (installation : Option Installation) :
    Settings :=
  .ofList <|
    [("PROJECT", project.name),
      ("PROJECT_NAME", project.name),
      ("PROJECT_GUID", project.guid),
      ("PROJECT_FILE_PATH", project.path),
      ("PROJECT_DIR", project.folder.text),
      ("SRCROOT", project.folder.text),
      ("PRODUCT_NAME", "$(TARGET_NAME)"),
      ("PRODUCT_MODULE_NAME", "$(PRODUCT_NAME:c99extidentifier)"),
      ("SYMROOT", (derivedData / "Build/Products").text),
      ("OBJROOT", (derivedData / "Build/Intermediates.noindex").text),
      ("CONFIGURATION_BUILD_DIR", "$(SYMROOT)/$(CONFIGURATION)-$(PLATFORM_NAME)"),
      ("CONFIGURATION_TEMP_DIR",
        "$(OBJROOT)/$(PROJECT_NAME).build/$(CONFIGURATION)-$(PLATFORM_NAME)"),
      ("TARGET_TEMP_DIR", "$(CONFIGURATION_TEMP_DIR)/$(TARGET_NAME).build")] ++
    installation.toList.map fun i =>
      ("TOOLCHAIN_DIR", (i.developerDir / "Toolchains/XcodeDefault.xctoolchain").text)

/-- The settings with those of a dump over them, except for the identity of the SDK. -/
def overlayLoaded (merged loaded : Settings) : Settings :=
  merged.extend (loaded.filter fun key _ => !sdkIdentityKeys.contains key)

/-- The architecture that is built for: the machine's own when it is among those built for, else
the first of them. -/
def currentArch (settings : Settings) : String :=
  let archs := Settings.list settings "ARCHS"
  let native := (settings.get? "NATIVE_ARCH").getD ""
  if archs.contains native then native else archs.head?.getD native

/-- The target triple for an architecture, when the settings tell a system. -/
def targetTriple? (settings : Settings) (arch : String) : Option String :=
  ((settings.get? "LLVM_TARGET_TRIPLE_OS_VERSION").filter fun v => !v.isEmpty).map fun os =>
    arch ++ "-" ++ (settings.get? "LLVM_TARGET_TRIPLE_VENDOR").getD "apple" ++ "-" ++ os ++
      (settings.get? "LLVM_TARGET_TRIPLE_SUFFIX").getD ""

/-- The settings with the path of the SDK as its root. -/
def withSdkPath (settings : Settings) : Settings :=
  match (settings.get? "SDKROOT_PATH").filter fun path => !path.isEmpty with
  | some path => settings.insert "SDKROOT" path
  | none => settings

/-- The settings with the architecture and the target triple. -/
def withArch (settings : Settings) : Settings :=
  let arch := currentArch settings
  if arch.isEmpty then settings
  else
    let settings := match targetTriple? settings arch with
      | some triple => settings.insert "TARGET_TRIPLE" triple
      | none => settings
    settings.insert "CURRENT_ARCH" arch

/-- The settings with everything that is derived from their final values. -/
def finish (settings : Settings) : Settings :=
  withArch (withSdkPath settings)

namespace SynthesisOptions

/-- The layers of a target over the given defaults. -/
def layers (options : SynthesisOptions) (project : Project) (target : Target)
    (defaults : Settings) : Layers :=
  { request := requestLayer target options.configuration
    target := Configuration.named target.configurations options.configuration
    project := Configuration.named project.configurations options.configuration
    custom := defaults }

/-- The name of the SDK: that of the dump, else what the layers say without the platform. -/
def sdkName (options : SynthesisOptions) (project : Project) (target : Target) : String :=
  match Settings.filled? options.loaded "SDKROOT" with
  | some sdk => sdk
  | none =>
    ((options.layers project target options.customDefaults).resolve "SDKROOT").getD
      "iphonesimulator"

/-- The request for the platform. -/
def platformRequest (options : SynthesisOptions) (project : Project) (target : Target) :
    PlatformRequest :=
  { sdkName := options.sdkName project target
    configuration := options.configuration
    forceSimulator := options.forceSimulator
    archPolicy := options.archPolicy
    swiftVersion := options.swiftVersion }

/-- The defaults under a target's own settings, the platform's lowest. -/
def defaults (options : SynthesisOptions) (project : Project) (source : SdkSource)
    (platform : Settings) : Settings :=
  (platform.extend (environment project options.derivedData source.installation)).extend
    options.customDefaults

/-- The settings of a target from the settings of its platform. -/
def settingsOver (options : SynthesisOptions) (project : Project) (target : Target)
    (source : SdkSource) (platform : Settings) : Settings :=
  let merged := (options.layers project target (options.defaults project source platform)).merged
  finish (expandReferences (overlayLoaded merged options.loaded))

/-- The complete settings of a target. -/
def synthesize (options : SynthesisOptions) (project : Project) (targetName : String)
    (source : SdkSource) : Except SettingsError Settings :=
  match project.target? targetName with
  | none => .error (.targetNotFound targetName project.path)
  | some target =>
    match (options.platformRequest project target).settings source with
    | .error e => .error (.invalidSdk e)
    | .ok platform => .ok (options.settingsOver project target source platform)

end SynthesisOptions

end BuildSettings
