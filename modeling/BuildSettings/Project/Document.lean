import BuildSettings.Project.Basic

/-!
# Projects as JSON

Reads projects from JSON documents and writes them. A project without a name takes that of its
file.
-/

namespace BuildSettings

open Json

namespace Configuration

/-- The fields of a configuration. -/
def fields : List (RecordField Configuration) :=
  [.needed "name" .text fun c v => { c with name := v },
    .defaulted "buildSettings" (.dictionary SettingValue.decode) fun c v => { c with settings := v }]

/-- Reads a configuration. -/
def decode : Decoder Configuration :=
  .record {} fields

/-- Writes a configuration. -/
def toJson (c : Configuration) : Json :=
  .object [("name", .text c.name), ("buildSettings", .ofDictionary SettingValue.toJson c.settings)]

end Configuration

namespace Dependency

/-- The fields of a dependency. -/
def fields : List (RecordField Dependency) :=
  [.defaulted "target" (.optional .text) fun d v => { d with target := v },
    .defaulted "name" (.optional .text) fun d v => { d with name := v }]

/-- Reads a dependency. -/
def decode : Decoder Dependency :=
  .record {} fields

/-- Writes a dependency. -/
def toJson (d : Dependency) : Json :=
  .object (optionalMember "target" .text d.target ++ optionalMember "name" .text d.name)

end Dependency

namespace Target

/-- The fields of a target. -/
def fields : List (RecordField Target) :=
  [.needed "name" .text fun t v => { t with name := v },
    .defaulted "productName" (.optional .text) fun t v => { t with productName := v },
    .defaulted "productType" (.optional (.map ProductType.ofIdentifier .text))
      fun t v => { t with productType := v },
    .defaulted "dependencies" (.list Dependency.decode) fun t v => { t with dependencies := v },
    .defaulted "linkedFiles" (.list .text) fun t v => { t with linkedFiles := v },
    .defaulted "sourceFiles" (.list .text) fun t v => { t with sourceFiles := v },
    .defaulted "fileCompilerFlags" (.dictionary .text) fun t v => { t with fileFlags := v },
    .defaulted "buildConfigurations" (.list Configuration.decode)
      fun t v => { t with configurations := v }]

/-- Reads a target. -/
def decode : Decoder Target :=
  .record {} fields

/-- Writes a target. -/
def toJson (t : Target) : Json :=
  .object <|
    [("name", .text t.name)] ++ optionalMember "productName" .text t.productName ++
    optionalMember "productType" (fun p => .text p.identifier) t.productType ++
    [("dependencies", .array (t.dependencies.map Dependency.toJson)),
      ("linkedFiles", .ofTexts t.linkedFiles), ("sourceFiles", .ofTexts t.sourceFiles)] ++
    (if t.fileFlags.isEmpty then [] else [("fileCompilerFlags", .ofSettings t.fileFlags)]) ++
    [("buildConfigurations", .array (t.configurations.map Configuration.toJson))]

end Target

namespace Project

/-- The fields of a project. -/
def fields : List (RecordField Project) :=
  [.needed "path" .text fun p v => { p with path := v },
    .defaulted "name" .text fun p v => { p with name := v },
    .defaulted "guid" .text fun p v => { p with guid := v },
    .defaulted "buildConfigurations" (.list Configuration.decode)
      fun p v => { p with configurations := v },
    .defaulted "targets" (.list Target.decode) fun p v => { p with targets := v }]

/-- A project without a name takes that of its file, without the extension. -/
def withName (project : Project) : Project :=
  if project.name.isEmpty then
    { project with name := ((Path.fileStem? ⟨project.path⟩).getD "") }
  else project

/-- Reads a project. -/
def decode : Decoder Project :=
  .map withName (.record {} fields)

/-- Writes a project. -/
def toJson (p : Project) : Json :=
  .object
    [("path", .text p.path), ("name", .text p.name), ("guid", .text p.guid),
      ("buildConfigurations", .array (p.configurations.map Configuration.toJson)),
      ("targets", .array (p.targets.map Target.toJson))]

/-- Reads the text of a project. -/
def ofText (s : String) : Except Fault Project :=
  Document.readText decode s

end Project

end BuildSettings
