import BuildSettings.Project.Basic
import BuildSettings.Sdk.Basic

/-!
# Platforms

Each platform family has a variant for devices and most have one for the simulator. From the name
of an SDK, in any of its spellings, `PlatformRequest.settings` chooses the variant and derives
the settings that describe it.

Notes on how the functions mirror a program that does the same:
- The architecture of the machine is fixed when a program is built. Here it is the constant
  `hostArch`, that of a build for x86 processors. The choice of the variant, the SDK and the errors
  do not depend on it; `NATIVE_ARCH` and the architectures of a host-only simulator build are this
  constant.
- A program hands out families by reference and writes the settings into a map one after the other;
  here a family is a value and the settings are a dictionary made of the list of all of them. The
  names in that list are all different, so the order in which they are written does not matter.
- The endings of build directories are a list of names of their own, as in the program, though they
  could be read off the table of families: `effectivePlatformName_eq` proves that they agree.
- Where the first look-up of an SDK fails a program logs it before the second; logs are left out.
-/

namespace BuildSettings

/-- A platform family. -/
structure PlatformFamily where
  name : String
  deviceSdk : String
  simulatorSdk : Option String
  deploymentTargetKey : String
  deviceArchs : String
  codeSignIdentity : String
  /-- The system in a target triple. -/
  tripleOs : String
deriving DecidableEq, Inhabited, Repr

/-- Which architectures a simulator build is for. -/
inductive ArchPolicy where
  | hostOnly
  | universal
deriving DecidableEq, Inhabited, Repr

/-- The architecture of the machine, in a build for x86 processors, of 32 or 64 bits. A build for
any other processor has `arm64` here, and nothing else in it differs. -/
def hostArch : String := "x86_64"

namespace ArchPolicy

/-- The name of a policy. -/
def name : ArchPolicy → String
  | hostOnly => "host_only"
  | universal => "universal"

/-- The policies by name. -/
def names : List (String × ArchPolicy) :=
  [(name hostOnly, hostOnly), (name universal, universal)]

/-- The architectures of a simulator build. -/
def simulatorArchs : ArchPolicy → String
  | hostOnly => hostArch
  | universal => "arm64 x86_64"

end ArchPolicy

namespace PlatformFamily

/-- All families. -/
def all : List PlatformFamily :=
  [{ name := "ios", deviceSdk := "iphoneos", simulatorSdk := some "iphonesimulator"
     deploymentTargetKey := "IPHONEOS_DEPLOYMENT_TARGET", deviceArchs := "arm64"
     codeSignIdentity := "", tripleOs := "ios" },
   { name := "macos", deviceSdk := "macosx", simulatorSdk := none
     deploymentTargetKey := "MACOSX_DEPLOYMENT_TARGET", deviceArchs := "x86_64 arm64"
     codeSignIdentity := "-", tripleOs := "macos" },
   { name := "watchos", deviceSdk := "watchos", simulatorSdk := some "watchsimulator"
     deploymentTargetKey := "WATCHOS_DEPLOYMENT_TARGET", deviceArchs := "armv7k arm64_32 arm64"
     codeSignIdentity := "", tripleOs := "watchos" },
   { name := "tvos", deviceSdk := "appletvos", simulatorSdk := some "appletvsimulator"
     deploymentTargetKey := "TVOS_DEPLOYMENT_TARGET", deviceArchs := "arm64"
     codeSignIdentity := "", tripleOs := "tvos" },
   { name := "visionos", deviceSdk := "xros", simulatorSdk := some "xrsimulator"
     deploymentTargetKey := "XROS_DEPLOYMENT_TARGET", deviceArchs := "arm64"
     codeSignIdentity := "", tripleOs := "xros" }]

/-- Whether the name is that of the family's simulator variant. -/
def isSimulatorSdk (family : PlatformFamily) (sdk : String) : Bool :=
  family.simulatorSdk == some sdk

/-- The family with a variant of this name. -/
def find? (sdk : String) : Option PlatformFamily :=
  all.find? fun family => family.deviceSdk == sdk || family.isSimulatorSdk sdk

end PlatformFamily

/-! ### Names of SDKs -/

/-- The name of the variant that an SDK's name stands for: the last part of a path, without the
ending of an SDK directory and without a version, in small letters. -/
def variantName (requested : String) : String :=
  let trimmed := ((Text.trimChars requested.toList).reverse.dropWhile (· == '/')).reverse
  let file := match Text.cutLast? '/' trimmed with
    | some (_, name) => name
    | none => trimmed
  let bare := ((Text.beforeEnd? ".sdk".toList file).getD file).map Char.toLower
  let name := (bare.reverse.dropWhile fun c => c.isDigit || c == '.').reverse
  match String.ofList name with
  | "tvos" => "appletvos"
  | "tvossimulator" => "appletvsimulator"
  | name => name

/-- What the directories of simulator builds end with, a list of its own beside the table of
families. -/
def effectivePlatformName : String → String
  | "iphonesimulator" => "-iphonesimulator"
  | "appletvsimulator" => "-appletvsimulator"
  | "watchsimulator" => "-watchsimulator"
  | "xrsimulator" => "-xrsimulator"
  | _ => ""

/-! ### Settings of a variant -/

/-- The SDK for a request cannot be had. -/
structure InvalidSdk where
  sdk : String
  reason : String
deriving DecidableEq, Repr

/-- The wording of the error. -/
def InvalidSdk.message (e : InvalidSdk) : String :=
  "invalid SDK " ++ e.sdk ++ ": " ++ e.reason

/-- A request for the settings of a platform variant. -/
structure PlatformRequest where
  sdkName : String
  configuration : String
  forceSimulator : Bool
  archPolicy : ArchPolicy
  swiftVersion : String

namespace PlatformRequest

/-- Whether the simulator variant is chosen: it is asked for and there is one, or the name is
that of a simulator. -/
def wantsSimulator (request : PlatformRequest) (family : PlatformFamily) : Bool :=
  (request.forceSimulator && family.simulatorSdk.isSome) ||
    Text.endsWith (variantName request.sdkName) "simulator"

/-- The SDK of a variant; a variant without one takes that of the devices. -/
def findSdk (source : SdkSource) (variant device : String) : Except InvalidSdk Sdk :=
  match source.find variant with
  | .ok sdk => .ok sdk
  | .error e =>
    if variant = device then .error ⟨variant, e.message⟩
    else match source.find device with
      | .ok sdk => .ok sdk
      | .error e => .error ⟨variant, e.message⟩

/-- The settings that describe a variant and its SDK. -/
def describe (request : PlatformRequest) (family : PlatformFamily) (simulator : Bool)
    (variant : String) (sdk : Sdk) : Settings :=
  .ofList
    [("SDKROOT", variant),
      ("SDKROOT_PATH", sdk.path.text),
      ("SDK_VERSION", sdk.version),
      ("SDK_BUILD_VERSION", sdk.buildVersion),
      ("PLATFORM_NAME", variant),
      ("EFFECTIVE_PLATFORM_NAME", effectivePlatformName variant),
      ("SWIFT_VERSION", request.swiftVersion),
      ("ENABLE_TESTABILITY", if request.configuration = debugConfiguration then "YES" else "NO"),
      ("CODE_SIGN_IDENTITY", family.codeSignIdentity),
      ("DEPLOYMENT_TARGET_SETTING_NAME", family.deploymentTargetKey),
      ("ARCHS", if simulator then request.archPolicy.simulatorArchs else family.deviceArchs),
      ("NATIVE_ARCH", hostArch),
      ("LLVM_TARGET_TRIPLE_VENDOR", "apple"),
      ("LLVM_TARGET_TRIPLE_OS_VERSION",
        family.tripleOs ++ "$(" ++ family.deploymentTargetKey ++ ")"),
      ("LLVM_TARGET_TRIPLE_SUFFIX", if simulator then "-simulator" else "")]

/-- The settings of the variant that a request chooses. -/
def settings (request : PlatformRequest) (source : SdkSource) : Except InvalidSdk Settings :=
  match PlatformFamily.find? (variantName request.sdkName) with
  | none => .error ⟨request.sdkName, "no platform matches this SDK name"⟩
  | some family =>
    let simulator := request.wantsSimulator family
    let variant :=
      if simulator then family.simulatorSdk.getD family.deviceSdk else family.deviceSdk
    (findSdk source variant family.deviceSdk).map (request.describe family simulator variant)

end PlatformRequest

end BuildSettings
