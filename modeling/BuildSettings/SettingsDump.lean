import BuildSettings.Setting.Value

/-!
# Dumps of settings

A dump lists the settings that the build tool resolved, one record per target and action. Of the
records of a target one counts: the last for the action `build` or, without one, the first.

Notes on how the functions mirror a program that does the same:
- A program asks for the chosen record of a target and inserts the new one in two of three branches.
  `choose` joins these two, since both insert, and its condition is the third. Earlier records of a
  target only matter by being there.
-/

namespace BuildSettings

/-- The resolved settings of a target for one action. -/
structure DumpRecord where
  target : String := ""
  action : String := ""
  settings : Dictionary SettingValue := ∅
deriving DecidableEq, Inhabited

namespace DumpRecord

/-- The settings as texts. -/
def flat (r : DumpRecord) : Settings :=
  r.settings.map SettingValue.flat

/-- The action whose records replace earlier ones. -/
def buildAction : String := "build"

/-- The fields of a record. -/
def fields : List (Json.RecordField DumpRecord) :=
  [.needed "target" .text fun r v => { r with target := v },
    .needed "action" .text fun r v => { r with action := v },
    .defaulted "buildSettings" (.dictionary SettingValue.decode) fun r v => { r with settings := v }]

/-- Reads the records of a dump. -/
def decodeAll : Json.Decoder (List DumpRecord) :=
  .list (.record {} fields)

/-- Reads the text of a dump. -/
def allOfText (s : String) : Except Json.Fault (List DumpRecord) :=
  Json.Document.readText decodeAll s

/-- Writes a record. -/
def toJson (r : DumpRecord) : Json :=
  .object [("target", .text r.target), ("action", .text r.action),
    ("buildSettings", .ofDictionary SettingValue.toJson r.settings)]

/-- Takes a record into account after those before it. -/
def choose (chosen : Dictionary DumpRecord) (r : DumpRecord) : Dictionary DumpRecord :=
  if chosen.contains r.target && r.action != buildAction then chosen
  else chosen.insert r.target r

/-- The settings of the record that counts, for each target. -/
def grouped (records : List DumpRecord) : Dictionary Settings :=
  (records.foldl choose ∅).map flat

end DumpRecord

end BuildSettings
