import BuildSettings.FileTree
import BuildSettings.PropertyList.Basic
import BuildSettings.Sdk.Basic

/-!
# Xcode on a disk

Finds SDKs below the developer directory of an Xcode. Each platform variant has a directory of
its own that holds one `.sdk` directory per version; property lists tell the version of Xcode
and the builds of the SDKs.

Notes on how the functions mirror a program that does the same:
- A program walks one level of a directory in the order in which the system lists it. Here that is
  the order of the entries in the tree; it matters for directories with equal versions alone.
- Names that are no text are passed over in a program; there are none here (see the notes in
  `FileTree`). A link to an SDK, as the one whose name has no version, is a directory here.
- Only property lists that are written in XML are read. A program may read other forms and learn the
  versions from them; here a file in another form counts as one that cannot be read.
-/

namespace BuildSettings

/-- The names of the platform directories, by variant. -/
def platformDirectories : List (String × String) :=
  [("iphoneos", "iPhoneOS"), ("iphonesimulator", "iPhoneSimulator"), ("macosx", "MacOSX"),
    ("watchos", "WatchOS"), ("watchsimulator", "WatchSimulator"), ("appletvos", "AppleTVOS"),
    ("appletvsimulator", "AppleTVSimulator"), ("xros", "XROS"), ("xrsimulator", "XRSimulator")]

/-- The name of the platform directory of a variant. -/
def platformDirectory? (platform : String) : Option String :=
  platformDirectories.lookup (Text.asciiLower platform)

/-- What a property list says about versions. -/
structure VersionRecord where
  shortVersion : Option String := none
  productVersion : Option String := none
  buildVersion : Option String := none
deriving DecidableEq, Inhabited, Repr

namespace VersionRecord

/-- Reads the versions of a property list. -/
def ofText? (s : String) : Option VersionRecord :=
  match (PropertyList.ofText? s).bind (PropertyList.texts?
      ["CFBundleShortVersionString", "ProductVersion", "ProductBuildVersion"]) with
  | some [short, product, build] => some ⟨short, product, build⟩
  | _ => none

/-- The versions in a file; a file that cannot be read gives none. -/
def ofFile (files : FileTree) (path : Path) : VersionRecord :=
  match files.readText path with
  | .ok text => (ofText? text).getD {}
  | .error _ => {}

end VersionRecord

/-- An Xcode on a disk. -/
structure Xcode where
  developerDir : Path
  version : Option String
  build : Option String
deriving DecidableEq, Inhabited, Repr

namespace Xcode

/-- The file that tells the version of an Xcode; it stands next to the developer directory. -/
def versionFile? (developerDir : Path) : Option Path :=
  developerDir.parent?.map (· / "version.plist")

/-- The file that tells the version of an SDK. -/
def systemVersionFile (sdk : Path) : Path :=
  sdk / "System/Library/CoreServices/SystemVersion.plist"

/-- The Xcode with this developer directory. -/
def locate (files : FileTree) (developerDir : Path) : Xcode :=
  let versions := ((versionFile? developerDir).map (VersionRecord.ofFile files)).getD {}
  ⟨developerDir, versions.shortVersion, versions.buildVersion⟩

/-- Where Xcode is installed unless told otherwise. -/
def defaultDeveloperDir : Path := ⟨"/Applications/Xcode.app/Contents/Developer"⟩

/-- The directory with the SDKs of a variant. -/
def sdksDir (xcode : Xcode) (platform : String) : Except SdkError Path :=
  match platformDirectory? platform with
  | some name =>
    .ok (xcode.developerDir / "Platforms" / (name ++ ".platform") / "Developer" / "SDKs")
  | none => .error (.unknownPlatform platform)

/-- The version in the name of an SDK directory; empty for the one without a version. -/
def versionOfName? (directory name : String) : Option String :=
  ((Text.beforeEnd? ".sdk".toList name.toList).bind
    (Text.afterStart? directory.toList)).map String.ofList

/-- The entries of a directory by name. -/
def entriesAt (files : FileTree) (path : Path) : List String :=
  match files.find path with
  | .ok node => node.entries.map (·.1)
  | .error _ => []

/-- The newest SDK of a variant. -/
def find (files : FileTree) (xcode : Xcode) (platform : String) : Except SdkError Sdk :=
  match xcode.sdksDir platform with
  | .error e => .error e
  | .ok directory =>
    let named := (entriesAt files directory).filterMap fun name =>
      (versionOfName? ((platformDirectory? platform).getD platform) name).map (name, ·)
    match Version.newest? (·.2) named with
    | none => .error (.missing platform)
    | some (name, version) =>
      let path := directory / name
      let versions := VersionRecord.ofFile files (systemVersionFile path)
      .ok
        { name := Text.asciiLower platform
          path
          version := if version.isEmpty then versions.productVersion.getD "" else version
          buildVersion := versions.buildVersion.getD "" }

/-- The Xcode as an installation. -/
def installation (xcode : Xcode) : Installation :=
  ⟨xcode.build.getD "", xcode.developerDir⟩

/-- The Xcode as a source of SDKs. -/
def source (files : FileTree) (xcode : Xcode) : SdkSource :=
  ⟨xcode.find files, some xcode.installation⟩

end Xcode

end BuildSettings
