import BuildSettings.Json.Decoder
import BuildSettings.Path

/-!
# Identity of targets

A target is known by the path of the project file that declares it and by its name. The written
form is `xcode://`, the path, a slash and the name; on input the scheme may be left out. The
last slash separates, so a name never holds a slash, while a path may.
-/

namespace BuildSettings

/-- A target, by its project file and its name. -/
structure TargetId where
  project : String
  name : String
deriving DecidableEq, Inhabited, Repr

namespace TargetId

/-- What the written form starts with. -/
def scheme : String := "xcode://"

/-- The written form. -/
def toText (id : TargetId) : String :=
  scheme ++ id.project ++ "/" ++ id.name

/-- A text without the scheme at its start, if it is there. -/
def body (cs : List Char) : List Char :=
  (Text.afterStart? scheme.toList cs).getD cs

/-- Reads the written form; both parts have to be there. -/
def ofText? (s : String) : Option TargetId :=
  match Text.cutLast? '/' (body s.toList) with
  | some (project, name) =>
    if project.isEmpty || name.isEmpty then none
    else some ⟨String.ofList project, String.ofList name⟩
  | none => none

/-- Reads an identity, in its written form, from JSON. -/
def decode : Json.Decoder TargetId :=
  .andThen .text ofText?

/-- Writes an identity to JSON. -/
def toJson (id : TargetId) : Json :=
  .text id.toText

/-- The directory that holds the project file. -/
def folder (id : TargetId) : Path :=
  (Path.parent? ⟨id.project⟩).getD ⟨""⟩

/-- The complaint about a text that is no written form. -/
def malformedMessage (s : String) : String :=
  "invalid target identifier: " ++ s

end TargetId

end BuildSettings
