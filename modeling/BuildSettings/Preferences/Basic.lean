import BuildSettings.DerivedData
import BuildSettings.Graph
import BuildSettings.Json.Decoder
import BuildSettings.Synthesis

/-!
# Preferences

What a user decides for all queries: the configuration, the platform variant, defaults for
settings, how graphs are walked. Every preference has a default.
-/

namespace BuildSettings

open Json

/-- The preferences of a user. -/
structure Preferences where
  configuration : String := debugConfiguration
  /-- The directory for derived data; each project has its own when none is given. -/
  derivedData : Option Path := none
  forceSimulator : Bool := true
  archPolicy : ArchPolicy := .hostOnly
  swiftVersion : String := "5.0"
  graph : GraphOptions := {}
  /-- Settings for the layer of custom defaults. -/
  customDefaults : Settings := ∅
  logFilter : String := "warn"
deriving DecidableEq, Inhabited

namespace Preferences

/-- The fields about graphs. -/
def graphFields : List (RecordField GraphOptions) :=
  [.defaulted "mode" (.choice ResolutionMode.names) fun g v => { g with mode := v },
    .defaulted "aggregate_prefixes" (.list .text) fun g v => { g with aggregatePrefixes := v }]

/-- The fields about the log. -/
def logFields : List (RecordField String) :=
  [.defaulted "filter" .text fun _ v => v]

/-- The fields of preferences. -/
def fields : List (RecordField Preferences) :=
  [.defaulted "configuration" .text fun p v => { p with configuration := v },
    .defaulted "derived_data_path" (.optional (.map Path.mk .text))
      fun p v => { p with derivedData := v },
    .defaulted "force_simulator" .flag fun p v => { p with forceSimulator := v },
    .defaulted "simulator_arch_policy" (.choice ArchPolicy.names)
      fun p v => { p with archPolicy := v },
    .defaulted "swift_version" .text fun p v => { p with swiftVersion := v },
    .defaulted "graph" (.record {} graphFields) fun p v => { p with graph := v },
    .defaulted "custom_defaults" (.dictionary .text) fun p v => { p with customDefaults := v },
    .defaulted "log" (.record "warn" logFields) fun p v => { p with logFilter := v }]

/-- Reads preferences. -/
def decode : Decoder Preferences :=
  .record {} fields

/-- The preferences in a JSON value. -/
def ofJson (value : Json) : Except Fault Preferences :=
  decode (.ofJson value)

/-- Writes preferences. -/
def toJson (p : Preferences) : Json :=
  .object <|
    [("configuration", .text p.configuration)] ++
    optionalMember "derived_data_path" (fun d => .text d.text) p.derivedData ++
    [("force_simulator", .bool p.forceSimulator),
      ("simulator_arch_policy", .text p.archPolicy.name),
      ("swift_version", .text p.swiftVersion),
      ("graph", .object [("mode", .text p.graph.mode.name),
        ("aggregate_prefixes", .ofTexts p.graph.aggregatePrefixes)]),
      ("custom_defaults", .ofSettings p.customDefaults),
      ("log", .object [("filter", .text p.logFilter)])]

/-- The lowest layer: the defaults as a JSON value with all keys in order. -/
def builtin : Json :=
  let p : Preferences := {}
  .object
    [("configuration", .text p.configuration),
      ("custom_defaults", .object []),
      ("force_simulator", .bool p.forceSimulator),
      ("graph", .object [("aggregate_prefixes", .ofTexts p.graph.aggregatePrefixes),
        ("mode", .text p.graph.mode.name)]),
      ("log", .object [("filter", .text p.logFilter)]),
      ("simulator_arch_policy", .text p.archPolicy.name),
      ("swift_version", .text p.swiftVersion)]

/-- The directory for the derived data of a project. -/
def derivedDataOf (p : Preferences) (home : Path) (project : Project) : Path :=
  p.derivedData.getD (DerivedData.directory home project.name project.path)

/-- The options for the settings of a project's targets. -/
def synthesisOptions (p : Preferences) (home : Path) (project : Project) : SynthesisOptions :=
  { configuration := p.configuration
    derivedData := p.derivedDataOf home project
    forceSimulator := p.forceSimulator
    archPolicy := p.archPolicy
    swiftVersion := p.swiftVersion
    customDefaults := p.customDefaults
    loaded := ∅ }

end Preferences

end BuildSettings
