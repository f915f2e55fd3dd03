import BuildSettings.Batch
import BuildSettings.CommandLine.Command
import BuildSettings.CommandLine.Inputs
import BuildSettings.CommandLine.Options
import BuildSettings.CommandLine.Run
import BuildSettings.Compile.Arguments
import BuildSettings.Compile.Context
import BuildSettings.Compile.Files
import BuildSettings.Compile.Language
import BuildSettings.Compile.SearchPaths
import BuildSettings.Compile.Warnings
import BuildSettings.Decimal.Nearest
import BuildSettings.Decimal.Power
import BuildSettings.Decimal.Shortest
import BuildSettings.DerivedData
import BuildSettings.Dialect
import BuildSettings.Dictionary
import BuildSettings.Digest.Hex
import BuildSettings.Digest.Md5
import BuildSettings.Digest.Sha256
import BuildSettings.Engine
import BuildSettings.FileIndex
import BuildSettings.FileTree
import BuildSettings.Graph
import BuildSettings.Json.Basic
import BuildSettings.Json.Decoder
import BuildSettings.Json.Document
import BuildSettings.Json.Number
import BuildSettings.Json.Printer
import BuildSettings.Json.Token
import BuildSettings.Main
import BuildSettings.Path
import BuildSettings.Platform
import BuildSettings.Preferences.Basic
import BuildSettings.Preferences.Effective
import BuildSettings.Preferences.Merge
import BuildSettings.ProductType
import BuildSettings.Project.Basic
import BuildSettings.Project.Document
import BuildSettings.Proofs.Batch.Dumps
import BuildSettings.Proofs.Batch.Load
import BuildSettings.Proofs.Batch.Records
import BuildSettings.Proofs.Compile.Compilers
import BuildSettings.Proofs.Compile.Input
import BuildSettings.Proofs.Compile.ObjectiveC
import BuildSettings.Proofs.Compile.Output
import BuildSettings.Proofs.Compile.SearchPaths
import BuildSettings.Proofs.Compile.SwiftFiles
import BuildSettings.Proofs.DerivedData.Letters
import BuildSettings.Proofs.Graph.Appended
import BuildSettings.Proofs.Graph.Mode
import BuildSettings.Proofs.Graph.Order
import BuildSettings.Proofs.Graph.Product
import BuildSettings.Proofs.Graph.Reference
import BuildSettings.Proofs.Graph.Simulation
import BuildSettings.Proofs.Graph.Walk
import BuildSettings.Proofs.Json.Order
import BuildSettings.Proofs.Json.Printed
import BuildSettings.Proofs.Json.Record
import BuildSettings.Proofs.Json.Written
import BuildSettings.Proofs.Path.FileName
import BuildSettings.Proofs.Path.Steps
import BuildSettings.Proofs.Platform.Coherence
import BuildSettings.Proofs.Platform.Spelling
import BuildSettings.Proofs.Platform.Variant
import BuildSettings.Proofs.Preferences.Effective
import BuildSettings.Proofs.Preferences.Merge
import BuildSettings.Proofs.Preferences.Overrides
import BuildSettings.Proofs.Project.FileFlags
import BuildSettings.Proofs.Project.Identity
import BuildSettings.Proofs.Project.Restored
import BuildSettings.Proofs.Sdk.Newest
import BuildSettings.Proofs.Setting.Additive
import BuildSettings.Proofs.Setting.Course
import BuildSettings.Proofs.Setting.Filling
import BuildSettings.Proofs.Setting.FlatList
import BuildSettings.Proofs.Setting.Inherit
import BuildSettings.Proofs.Setting.Layers
import BuildSettings.Proofs.Setting.Locality
import BuildSettings.Proofs.Setting.Meaning
import BuildSettings.Proofs.Setting.Modifier
import BuildSettings.Proofs.Setting.Names
import BuildSettings.Proofs.Setting.Nested
import BuildSettings.Proofs.Setting.Pieces
import BuildSettings.Proofs.Setting.Replaced
import BuildSettings.Proofs.Setting.Reset
import BuildSettings.Proofs.Setting.Respelled
import BuildSettings.Proofs.Setting.Rounds
import BuildSettings.Proofs.Setting.Template
import BuildSettings.Proofs.Setting.Tidy
import BuildSettings.Proofs.Setting.Unknown
import BuildSettings.Proofs.Sources.Listing
import BuildSettings.Proofs.Synthesis.Architecture
import BuildSettings.Proofs.Synthesis.Derived
import BuildSettings.Proofs.Synthesis.Expanded
import BuildSettings.Proofs.Synthesis.Folded
import BuildSettings.Proofs.Synthesis.Precedence
import BuildSettings.Proofs.Synthesis.Reattached
import BuildSettings.Proofs.Synthesis.SdkIdentity
import BuildSettings.Proofs.Synthesis.SdkRoot
import BuildSettings.Proofs.Synthesis.TripleVersion
import BuildSettings.Proofs.Text.ByteOrder
import BuildSettings.Proofs.Text.TokenList
import BuildSettings.Proofs.Toml.Order
import BuildSettings.PropertyList.Base64
import BuildSettings.PropertyList.Basic
import BuildSettings.PropertyList.Event
import BuildSettings.PropertyList.Markup
import BuildSettings.PropertyList.Moment
import BuildSettings.Sdk.Basic
import BuildSettings.Sdk.Version
import BuildSettings.Sdk.Xcode
import BuildSettings.Setting.Expansion
import BuildSettings.Setting.Key
import BuildSettings.Setting.Layers
import BuildSettings.Setting.Reference
import BuildSettings.Setting.Value
import BuildSettings.SettingsDump
import BuildSettings.Sources
import BuildSettings.Synthesis
import BuildSettings.TargetId
import BuildSettings.Text.Blank
import BuildSettings.Text.Case
import BuildSettings.Text.CaseTable
import BuildSettings.Text.Cut
import BuildSettings.Text.HiddenTable
import BuildSettings.Text.Identifier
import BuildSettings.Text.Quoted
import BuildSettings.Text.TokenList
import BuildSettings.Timestamp
import BuildSettings.Toml.Document
import BuildSettings.Toml.Scalar
import BuildSettings.Toml.Table
