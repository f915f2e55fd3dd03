import BuildSettings.Json.Decoder
import BuildSettings.Path
import BuildSettings.Sdk.Version
import BuildSettings.Text.Identifier

/-!
# SDKs

An SDK is looked up by the name of its platform variant. Where SDKs come from is an `SdkSource`;
an `SdkCatalog` is a source that lists them.

Notes on how the functions mirror a program that does the same:
- A source of SDKs is an interface with two methods in a program. Here it is a structure of two
  fields, and everything that is proved of settings holds of any such structure.
- The greatest of several equal elements is the last one in a program, and so it is for
  `Version.newest?`.
-/

namespace BuildSettings

open Json

/-- An installed SDK. -/
structure Sdk where
  name : String := ""
  path : Path := ⟨""⟩
  version : String := ""
  buildVersion : String := ""
deriving DecidableEq, Inhabited, Repr

/-- The installation of the development tools. -/
structure Installation where
  buildVersion : String := ""
  developerDir : Path := ⟨""⟩
deriving DecidableEq, Inhabited, Repr

/-- Why there is no SDK for a name. -/
inductive SdkError where
  /-- The variant has no SDK. -/
  | missing (platform : String)
  /-- There is no such variant. -/
  | unknownPlatform (platform : String)
deriving DecidableEq, Repr

/-- The wording of an error. -/
def SdkError.message : SdkError → String
  | .missing platform => "no SDK found for platform " ++ platform
  | .unknownPlatform platform => "unknown platform: " ++ platform

/-- Where SDKs come from. -/
structure SdkSource where
  /-- The newest SDK of a variant. -/
  find : String → Except SdkError Sdk
  installation : Option Installation

namespace Sdk

/-- The fields of an SDK. -/
def fields : List (RecordField Sdk) :=
  [.needed "name" .text fun s v => { s with name := v },
    .needed "path" .text fun s v => { s with path := ⟨v⟩ },
    .needed "version" .text fun s v => { s with version := v },
    .defaulted "buildVersion" .text fun s v => { s with buildVersion := v }]

/-- Writes an SDK. -/
def toJson (sdk : Sdk) : Json :=
  .object [("name", .text sdk.name), ("path", .text sdk.path.text), ("version", .text sdk.version),
    ("buildVersion", .text sdk.buildVersion)]

end Sdk

namespace Installation

/-- The fields of an installation. -/
def fields : List (RecordField Installation) :=
  [.needed "buildVersion" .text fun i v => { i with buildVersion := v },
    .needed "developerDir" .text fun i v => { i with developerDir := ⟨v⟩ }]

/-- Reads an installation. -/
def decode : Decoder Installation :=
  .record {} fields

/-- Writes an installation. -/
def toJson (i : Installation) : Json :=
  .object [("buildVersion", .text i.buildVersion), ("developerDir", .text i.developerDir.text)]

end Installation

/-- A list of SDKs. -/
structure SdkCatalog where
  installation : Option Installation := none
  sdks : List Sdk := []
deriving DecidableEq, Inhabited

namespace SdkCatalog

/-- The fields of a catalog. -/
def fields : List (RecordField SdkCatalog) :=
  [.defaulted "installation" (.optional Installation.decode)
      fun c v => { c with installation := v },
    .defaulted "sdks" (.list (.record {} Sdk.fields)) fun c v => { c with sdks := v }]

/-- Reads a catalog. -/
def decode : Decoder SdkCatalog :=
  .record {} fields

/-- Reads the text of a catalog. -/
def ofText (s : String) : Except Fault SdkCatalog :=
  Document.readText decode s

/-- Writes a catalog. -/
def toJson (c : SdkCatalog) : Json :=
  .object <|
    optionalMember "installation" Installation.toJson c.installation ++
    [("sdks", .array (c.sdks.map Sdk.toJson))]

/-- The newest SDK of a variant; the case of ASCII letters does not count. -/
def find (catalog : SdkCatalog) (platform : String) : Except SdkError Sdk :=
  let matching := catalog.sdks.filter fun sdk =>
    Text.asciiLower sdk.name == Text.asciiLower platform
  match Version.newest? Sdk.version matching with
  | some sdk => .ok sdk
  | none => .error (.missing platform)

/-- The catalog as a source of SDKs. -/
def source (catalog : SdkCatalog) : SdkSource :=
  ⟨catalog.find, catalog.installation⟩

end SdkCatalog

end BuildSettings
