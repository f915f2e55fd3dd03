import BuildSettings.Digest.Sha256
import BuildSettings.FileTree
import BuildSettings.Preferences.Basic
import BuildSettings.Preferences.Merge
import BuildSettings.Toml.Document

/-!
# Effective preferences

The preferences that hold come from four layers: built-in defaults, a file of the machine's user,
a file of the repository and the overrides of a command line. The layers stay on record with the
digests of their files.

Notes on how the functions mirror a program that does the same:
- A program also records when the preferences were computed. The time is left out, and nothing that
  is modelled reads it.
- A file that is not there is no layer. A program asks and then reads, and so does `fileLayer`; the
  tree does not change in between (see the notes in `FileTree`).
- Why a file cannot be parsed is a text of the parser in a program. The error here names the file.
-/

namespace BuildSettings

/-- The kinds of layers, from the lowest. -/
inductive PreferenceOrigin where
  | builtin
  | host
  | repository
  | commandLine
deriving DecidableEq, Repr

/-- The name of a kind of layer. -/
def PreferenceOrigin.name : PreferenceOrigin → String
  | builtin => "builtin"
  | host => "host"
  | repository => "repo"
  | commandLine => "cli"

/-- Where a layer came from; files have a path and the digest of their bytes. -/
structure PreferenceSource where
  origin : PreferenceOrigin
  path : Option String := none
  digest : Option String := none
deriving DecidableEq, Repr

/-- Writes where a layer came from. -/
def PreferenceSource.toJson (s : PreferenceSource) : Json :=
  .object <|
    [("origin", .text s.origin.name)] ++ Json.optionalMember "path" .text s.path ++
    Json.optionalMember "digest" .text s.digest

/-- What is wrong with merged preferences. -/
inductive PreferenceComplaint where
  | blankConfiguration
  | notOneOf (path : List String) (allowed : List String)
  | customDefaultsNotTexts
  | prefixesNotTexts
  /-- The preferences are not of the right kinds. -/
  | mismatch
  | override (error : Preferences.OverrideError)
deriving DecidableEq, Repr

/-- The wording of a complaint. -/
def PreferenceComplaint.message : PreferenceComplaint → String
  | blankConfiguration => "configuration must be a non-empty string"
  | notOneOf path allowed =>
    ".".intercalate path ++ " must be one of " ++ ", ".intercalate allowed
  | customDefaultsNotTexts => "custom_defaults must be a table of string settings"
  | prefixesNotTexts => "graph.aggregate_prefixes must be an array of strings"
  | mismatch => "invalid configuration"
  | override error => error.message

/-- Why there are no preferences. -/
inductive PreferenceError where
  | unreadable (path : Path) (error : FileError)
  | unparsable (path : Path)
  | invalid (complaint : PreferenceComplaint)
deriving DecidableEq, Repr

/-- The wording of an error. -/
def PreferenceError.message : PreferenceError → String
  | .unreadable path error => "failed to read " ++ path.text ++ ": " ++ error.message
  | .unparsable path => "failed to parse " ++ path.text
  | .invalid complaint => "validation error: " ++ complaint.message

/-- Merged preferences and where their layers came from. -/
structure EffectivePreferences where
  merged : Json
  sources : List PreferenceSource

namespace EffectivePreferences

/-- The version of the written form. -/
def schemaVersion : Nat := 1

/-- The name of the written form. -/
def schemaId : String := "xcbs/effective_config@1"

/-- The file of a user below the home directory. -/
def hostFile (home : Path) : Path :=
  home / ".config/xcbs/config.toml"

/-- The file of a repository below its root. -/
def repositoryFile (root : Path) : Path :=
  root / ".xcbs" / "config.toml"

/-! ### Validation -/

/-- A value that is there has to be one of the allowed texts. -/
def checkOneOf (merged : Json) (path allowed : List String) : Except PreferenceComplaint Unit :=
  match merged.at? path with
  | none => .ok ()
  | some value =>
    if value.asText?.any allowed.contains then .ok () else .error (.notOneOf path allowed)

/-- The configuration, if it is there, is a text that is not blank. -/
def checkConfiguration (merged : Json) : Except PreferenceComplaint Unit :=
  match merged.field? "configuration" with
  | none => .ok ()
  | some value =>
    if value.asText?.any fun s => !Text.isBlankText s then .ok () else .error .blankConfiguration

/-- Custom defaults, if they are there, are an object of texts. -/
def checkCustomDefaults (merged : Json) : Except PreferenceComplaint Unit :=
  match merged.field? "custom_defaults" with
  | none => .ok ()
  | some (.object members) =>
    if members.all fun m => m.2.isText then .ok () else .error .customDefaultsNotTexts
  | some _ => .error .customDefaultsNotTexts

/-- The prefixes of aggregates, if they are there, are an array of texts. -/
def checkPrefixes (merged : Json) : Except PreferenceComplaint Unit :=
  match merged.at? ["graph", "aggregate_prefixes"] with
  | none => .ok ()
  | some (.array items) =>
    if items.all Json.isText then .ok () else .error .prefixesNotTexts
  | some _ => .error .prefixesNotTexts

/-- All checks in order. -/
def validate (merged : Json) : Except PreferenceComplaint Unit := do
  checkConfiguration merged
  checkOneOf merged ["simulator_arch_policy"] (ArchPolicy.names.map (·.1))
  checkOneOf merged ["graph", "mode"] (ResolutionMode.names.map (·.1))
  checkCustomDefaults merged
  checkPrefixes merged

/-! ### Layers -/

/-- Reads a file of preferences: its value and the digest of its bytes. -/
def readFile (files : FileTree) (path : Path) : Except PreferenceError (Json × String) :=
  match files.readBytes path with
  | .error e => .error (.unreadable path e)
  | .ok bytes =>
    match (String.fromUTF8? bytes).bind Toml.parse? with
    | some value => .ok (value, Digest.hex (Digest.Sha256.digest bytes.toList))
    | none => .error (.unparsable path)

/-- The layer of a file, if the file is there. -/
def fileLayer (files : FileTree) (origin : PreferenceOrigin) (path : Path) :
    Except PreferenceError (List (Json × PreferenceSource)) :=
  if files.contains path then
    (readFile files path).map fun (value, digest) =>
      [(value, ⟨origin, some path.text, some digest⟩)]
  else .ok []

/-- All layers, the lowest first. -/
def layers (files : FileTree) (host repository : Option Path) (overrides : Option Json) :
    Except PreferenceError (List (Json × PreferenceSource)) := do
  let hostLayer ← host.elim (.ok []) (fileLayer files .host)
  let repositoryLayer ← repository.elim (.ok []) (fileLayer files .repository)
  return (Preferences.builtin, ⟨.builtin, none, none⟩) :: hostLayer ++ repositoryLayer ++
    overrides.toList.map fun value => (value, ⟨.commandLine, none, none⟩)

/-- Merges the layers that are there. -/
def build (files : FileTree) (host repository : Option Path) (overrides : Option Json) :
    Except PreferenceError EffectivePreferences := do
  let layers ← layers files host repository overrides
  let merged := Preferences.mergeLayers (layers.map (·.1))
  match validate merged with
  | .error complaint => .error (.invalid complaint)
  | .ok () => .ok ⟨merged, layers.map (·.2)⟩

/-- The value under a path of keys between dots. -/
def get? (e : EffectivePreferences) (path : String) : Option Json :=
  e.merged.at? ((Text.pieces '.' path.toList).map String.ofList)

/-- The preferences in the merged value. -/
def preferences (e : EffectivePreferences) : Except PreferenceError Preferences :=
  match Preferences.ofJson e.merged with
  | .ok p => .ok p
  | .error _ => .error (.invalid .mismatch)

/-- Writes the preferences with their layers. -/
def toJson (e : EffectivePreferences) : Json :=
  .object
    [("schema_version", .number (.integer schemaVersion)),
      ("schema_id", .text schemaId),
      ("config", e.merged),
      ("sources", .array (e.sources.map PreferenceSource.toJson))]

end EffectivePreferences

end BuildSettings
