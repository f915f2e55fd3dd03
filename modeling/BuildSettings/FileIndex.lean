import BuildSettings.Dialect
import BuildSettings.Json.Decoder
import BuildSettings.TargetId

/-!
# File indexes

What the build tool recorded about single source files: a file index holds, for each target and
file, the dialect and the compiler arguments that were used.
-/

namespace BuildSettings

open Json

/-- What was recorded about a source file. -/
structure FileRecord where
  dialect : Option Dialect := none
  outputPath : Option String := none
  swiftArguments : Option (List String) := none
  clangArguments : Option (List String) := none
  clangProductsDir : Option String := none
  swiftModule : Option String := none
deriving DecidableEq, Inhabited

/-- The records by target and by file. -/
abbrev FileIndex := Dictionary (Dictionary FileRecord)

namespace FileRecord

/-- The recorded compiler arguments, when there are any; those for Swift come first. -/
def arguments? (r : FileRecord) : Option (List String) :=
  (r.swiftArguments.toList ++ r.clangArguments.toList).find? fun args => !args.isEmpty

/-- The fields of a record. -/
def fields : List (RecordField FileRecord) :=
  [.defaulted "languageDialect" (.optional (.map Dialect.ofTag .text))
      fun r v => { r with dialect := v },
    .defaulted "outputFilePath" (.optional .text) fun r v => { r with outputPath := v },
    .defaulted "swiftASTCommandArguments" (.optional (.list .text))
      fun r v => { r with swiftArguments := v },
    .defaulted "clangASTCommandArguments" (.optional (.list .text))
      fun r v => { r with clangArguments := v },
    .defaulted "clangASTBuiltProductsDir" (.optional .text)
      fun r v => { r with clangProductsDir := v },
    .defaulted "swiftASTModuleName" (.optional .text) fun r v => { r with swiftModule := v }]

/-- Reads a record. -/
def decode : Decoder FileRecord :=
  .record {} fields

/-- Writes a record; what is missing is left out. -/
def toJson (r : FileRecord) : Json :=
  .object <|
    optionalMember "languageDialect" (fun d => .text d.tag) r.dialect ++
    optionalMember "outputFilePath" .text r.outputPath ++
    optionalMember "swiftASTCommandArguments" .ofTexts r.swiftArguments ++
    optionalMember "clangASTCommandArguments" .ofTexts r.clangArguments ++
    optionalMember "clangASTBuiltProductsDir" .text r.clangProductsDir ++
    optionalMember "swiftASTModuleName" .text r.swiftModule

end FileRecord

namespace FileIndex

/-- Reads a file index. -/
def decode : Decoder FileIndex :=
  .dictionary (.dictionary FileRecord.decode)

/-- Reads the text of a file index. -/
def ofText (s : String) : Except Fault FileIndex :=
  Document.readText decode s

/-- Writes a file index. -/
def toJson (index : FileIndex) : Json :=
  .ofDictionary (.ofDictionary FileRecord.toJson) index

/-- What is recorded about a file of a target. The target is looked up by its written form, else
by its bare name. -/
def find? (index : FileIndex) (target : TargetId) (file : Path) : Option FileRecord :=
  ((index.get? target.toText).or (index.get? target.name)).bind (·.get? file.text)

end FileIndex

end BuildSettings
