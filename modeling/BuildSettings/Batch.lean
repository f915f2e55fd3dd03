import BuildSettings.FileTree
import BuildSettings.SettingsDump
import BuildSettings.TargetId

/-!
# Batches of dumps

The dumps of several projects are loaded at the same time, one group of targets per project, and
the loads end in any order. Either all groups load, or the batch fails with the error of the first
group, in the order of the list, that does not.

Notes on how the functions mirror a program that does the same:
- A program starts one thread for each group and waits for all of them in the order of the list.
  Here the ends of the loads come as a list of arrivals in any order, each with the position of its
  group, and `load` looks the groups up in the order of the list.
- A thread that panics is an outcome of its own. A load without an arrival counts as one, so that
  `load` answers for every list; where each group has its arrival this does not come up.
- A program keeps a map by identities, which are compared by project first. Here the settings are
  kept by project and then by target, which gives the same order in `toList`.
- A program makes the error when it waits for a thread, and gives up on it when it enters the
  groups. `loadInto` does both in one step, because no outcome depends on another.
-/

namespace BuildSettings

/-- The documents that are read. -/
inductive DocumentKind where
  | project
  | settingsDump
  | fileIndex
deriving DecidableEq, Repr

/-- What a document is called in complaints. -/
def DocumentKind.name : DocumentKind → String
  | project => "project model"
  | settingsDump => "build settings dump"
  | fileIndex => "index settings"

/-- Why a document could not be loaded. -/
inductive LoadError where
  | unreadable (path : Path) (error : FileError)
  | undecodable (kind : DocumentKind) (fault : Json.Fault)
  /-- The settings of a project could not be had. -/
  | refused (project message : String)
  /-- The load of a project was broken off. -/
  | crashed (project : String)
deriving DecidableEq, Repr

/-- The wording of an error. -/
def LoadError.message : LoadError → String
  | .unreadable path error => "failed to read " ++ path.text ++ ": " ++ error.message
  | .undecodable kind _ => "failed to decode " ++ kind.name
  | .refused project message => "failed to load settings for " ++ project ++ ": " ++ message
  | .crashed project => "settings loader for " ++ project ++ " panicked"

/-- The targets of a project whose settings are loaded together; no targets mean all. -/
structure LoadGroup where
  project : String
  targets : List String := []
deriving DecidableEq, Inhabited, Repr

/-- Whether a group takes the settings of a target. -/
def LoadGroup.wants (group : LoadGroup) (target : String) : Bool :=
  group.targets.isEmpty || group.targets.contains target

/-- How the load of a group ended. -/
inductive LoadOutcome where
  | records (found : List DumpRecord)
  | failure (error : LoadError)
  | crash

/-- The records of a group, or why there are none. -/
def LoadOutcome.toExcept (project : String) : LoadOutcome → Except LoadError (List DumpRecord)
  | .records found => .ok found
  | .failure error => .error error
  | .crash => .error (.crashed project)

/-- The end of a load, with the position of its group in the list. -/
structure Arrival where
  position : Nat
  outcome : LoadOutcome

/-- How the load of the group at a position ended. A load that never ended is broken off. -/
def Arrival.outcomeAt (arrivals : List Arrival) (position : Nat) : LoadOutcome :=
  ((arrivals.find? (·.position == position)).map Arrival.outcome).getD .crash

/-- Loaded settings by project and by target. -/
abbrev Batch := Dictionary (Dictionary Settings)

namespace Batch

/-- The loaded settings of a target. -/
def find? (batch : Batch) (id : TargetId) : Option Settings :=
  (batch.get? id.project).bind (·.get? id.name)

/-- Enters the settings of one target. -/
def add (batch : Batch) (id : TargetId) (settings : Settings) : Batch :=
  batch.insert id.project (((batch.get? id.project).getD ∅).insert id.name settings)

/-- All targets with their settings, in the order of projects and then of names. -/
def toList (batch : Batch) : List (TargetId × Settings) :=
  batch.entries.flatMap fun (project, targets) =>
    targets.entries.map fun (name, settings) => (⟨project, name⟩, settings)

/-- Enters those targets of a group's records that the group takes. -/
def addGroup (batch : Batch) (group : LoadGroup) (records : List DumpRecord) : Batch :=
  ((DumpRecord.grouped records).entries.filter fun e => group.wants e.1).foldl
    (fun batch e => batch.add ⟨group.project, e.1⟩ e.2) batch

/-- Enters groups with their outcomes; the first outcome that is no list of records ends it. -/
def loadInto (batch : Batch) : List (LoadGroup × LoadOutcome) → Except LoadError Batch
  | [] => .ok batch
  | (group, outcome) :: rest =>
    match outcome.toExcept group.project with
    | .error e => .error e
    | .ok records => loadInto (batch.addGroup group records) rest

/-- The batch of groups whose loads have ended, in whatever order. -/
def load (groups : List LoadGroup) (arrivals : List Arrival) : Except LoadError Batch :=
  loadInto ∅ (groups.zipIdx.map fun (group, position) => (group, Arrival.outcomeAt arrivals position))

/-- The batch of groups whose loads end one after the other. -/
def loadEach (fetch : LoadGroup → LoadOutcome) (groups : List LoadGroup) :
    Except LoadError Batch :=
  load groups (groups.zipIdx.map fun (group, position) => ⟨position, fetch group⟩)

end Batch

end BuildSettings
