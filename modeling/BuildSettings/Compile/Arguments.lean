import BuildSettings.Compile.Files
import BuildSettings.Compile.Language
import BuildSettings.Compile.SearchPaths
import BuildSettings.Compile.Warnings
import BuildSettings.FileIndex

/-!
# Compiler arguments

The arguments of a compilation are the parts of all providers one after the other. Arguments that
the build tool recorded for a file come instead of all of them.
-/

namespace BuildSettings

namespace CompileContext

open Compile

/-- The providers in the order of their arguments. -/
def providers : List ArgumentProvider :=
  [sdk, targetTriple, workingDirectory, language, targetModule, languageStandard, swiftOptions,
    clangOptions, objcFeatures, prefixHeader, clangWarnings, gccWarnings, swiftFiles, clangInput,
    headerSearchPaths, frameworkSearchPaths, librarySearchPaths, derivedSources, headerMaps,
    vfsOverlay, debugInfo, sdkStatCache, indexStore, output]

/-- The arguments of each provider. -/
def explain (ctx : CompileContext) : List (String × List String) :=
  providers.map fun p => (p.name, p.arguments ctx)

/-- The compiler arguments. -/
def arguments (ctx : CompileContext) : List String :=
  providers.flatMap fun p => p.arguments ctx

/-- The compiler arguments, those that were recorded if there are any. -/
def argumentsOr (ctx : CompileContext) (recorded : Option FileRecord) : List String :=
  match recorded.bind (·.arguments?) with
  | some arguments => arguments
  | none => ctx.arguments

end CompileContext

end BuildSettings
