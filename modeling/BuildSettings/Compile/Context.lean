import BuildSettings.Dialect
import BuildSettings.Platform

/-!
# Contexts of compilations

What the compiler arguments of a file depend on. The arguments for the compiler of the C family
reach the Swift compiler wrapped one by one.

A context has a dialect and a compiler, and nothing in the structure holds the one to the other: a
context can be written down that has Objective-C for the Swift compiler, and the providers then ask
partly for the one and partly for the other. Contexts are put together by the functions below, each
of which sets the two together or leaves both alone. That they agree after any number of these
functions is proved where it is needed (`CompileContext.agrees_ofSteps`) and assumed nowhere.

Notes on how the functions mirror the builder of a program:
- A builder takes its context and gives the changed one back; here each function makes a new
  context, so that a context can be used again after a step.
- Files and sources are whole paths and not borrowed ones, which matters to no provider.
- Paths that are no text have no place here (see the notes on paths), so the stem and the extension
  of a file are always texts where there are any.
-/

namespace BuildSettings

/-- What the arguments of a compilation depend on. -/
structure CompileContext where
  settings : Settings
  derivedData : Path
  dialect : Dialect := .swift
  /-- The compiler that is meant. -/
  compiler : Compiler := .swift
  /-- The file that is compiled, when the request is about one. -/
  file : Option Path := none
  /-- The source files of the target. -/
  sources : List Path := []
  installation : Option Installation := none
  /-- Compiler flags of this file alone. -/
  fileFlags : List String := []

namespace CompileContext

/-- The context of a target without a file, which is for the Swift compiler. -/
def start (settings : Settings) (derivedData : Path) : CompileContext where
  settings := settings
  derivedData := derivedData

/-- Whether the Swift compiler is meant. -/
def isSwift (ctx : CompileContext) : Bool :=
  ctx.compiler == .swift

/-- The context for a file; its name tells its dialect, and that tells the compiler. -/
def forFile (ctx : CompileContext) (file : Path) : CompileContext :=
  let dialect := Dialect.ofPath file
  { ctx with dialect, compiler := dialect.compiler, file := some file }

/-- The context with a dialect that is known from elsewhere, and with the compiler for it. -/
def withDialect (ctx : CompileContext) (dialect : Dialect) : CompileContext :=
  { ctx with dialect, compiler := dialect.compiler }

/-- The context with the source files of its target. -/
def withSources (ctx : CompileContext) (sources : List Path) : CompileContext :=
  { ctx with sources }

/-- The context with what is known of the installation. -/
def withInstallation (ctx : CompileContext) (installation : Option Installation) :
    CompileContext :=
  { ctx with installation }

/-- The context with flags of its file alone. -/
def withFileFlags (ctx : CompileContext) (fileFlags : List String) : CompileContext :=
  { ctx with fileFlags }

/-- The architecture that objects are built for. -/
def arch? (ctx : CompileContext) : Option String :=
  (ctx.settings.filled? "CURRENT_ARCH").or (ctx.settings.filled? "NATIVE_ARCH")

/-- Whether the target builds a bundle of tests. -/
def isTestBundle (ctx : CompileContext) : Bool :=
  (ctx.settings.get? "PRODUCT_TYPE").any fun id => (ProductType.ofIdentifier id).isTestBundle

/-- The directory that holds the caches of all projects, next to the derived data. -/
def sharedCaches (ctx : CompileContext) : Path :=
  ctx.derivedData.parent?.getD ctx.derivedData

/-- A path of a setting, which is seen from the source root unless it is absolute. -/
def fromSourceRoot (ctx : CompileContext) (value : String) : String :=
  if Path.isAbsolute ⟨value⟩ then value
  else match ctx.settings.filled? "SRCROOT" with
    | some root =>
      String.ofList (root.toList.reverse.dropWhile (· == '/')).reverse ++ "/" ++ value
    | none => value

end CompileContext

/-- Arguments of the compiler of the C family as this compiler takes them: the Swift compiler
needs `-Xcc` before each. -/
def Compiler.wrap : Compiler → List String → List String
  | .swift, arguments => arguments.flatMap fun a => ["-Xcc", a]
  | .clang, arguments => arguments

/-- A part of the compiler arguments, with the name by which it is explained. -/
structure ArgumentProvider where
  name : String
  arguments : CompileContext → List String

end BuildSettings
