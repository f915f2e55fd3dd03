import BuildSettings.Compile.Context
import BuildSettings.Digest.Md5

/-!
# Files of a compilation

The files that a compilation reads, and those that it writes or shares with other compilations.

Notes on how the functions mirror a program that does the same:
- A program keeps the paths that it has seen in a set, which compares paths by their steps.
  `distinctPaths` keeps them in a list and compares by `Path.same`.
- A file whose stem is no text has no object file in a program; stems are texts here.
-/

namespace BuildSettings.Compile

/-- Whether the file is a Swift source. -/
def isSwiftFile (path : Path) : Bool :=
  path.extension? == some "swift"

/-- The paths that take other steps than all paths before them; `seen` holds earlier ones. -/
def distinctPaths (seen : List Path) : List Path → List Path
  | [] => []
  | p :: ps =>
    if seen.any p.same then distinctPaths seen ps else p :: distinctPaths (p :: seen) ps

/-- The Swift files of the target, which are compiled together; the file that is asked for comes
first. -/
def swiftFiles : ArgumentProvider where
  name := "swift-files"
  arguments ctx :=
    if ctx.isSwift then
      (distinctPaths [] ((ctx.file.toList ++ ctx.sources).filter isSwiftFile)).map (·.text)
    else []

/-- The one file that the compiler of the C family reads. -/
def clangInput : ArgumentProvider where
  name := "clang-input"
  arguments ctx :=
    if ctx.isSwift then [] else ctx.file.toList.flatMap fun file => ["-c", file.text]

/-- The name of an SDK's path in the names of caches. -/
def sdkPathHash (path : String) : String :=
  Digest.hex (Digest.Md5.digest (Digest.utf8 path))

/-- The build of the installation, else that of the SDK. -/
def buildVersion? (ctx : CompileContext) : Option String :=
  ((ctx.installation.map (·.buildVersion)).filter fun v => !v.isEmpty).or
    (ctx.settings.filled? "SDK_BUILD_VERSION")

/-- The cache of the file attributes of the SDK. -/
def sdkStatCache : ArgumentProvider where
  name := "sdk-stat-cache"
  arguments ctx :=
    match buildVersion? ctx, ctx.settings.filled? "SDKROOT_PATH",
      ctx.settings.filled? "SDK_VERSION", ctx.settings.filled? "PLATFORM_NAME" with
    | some build, some sdk, some version, some platform =>
      let file := platform ++ version ++ "-" ++ build ++ "-" ++ sdkPathHash sdk ++ ".sdkstatcache"
      ctx.compiler.wrap
        ["-ivfsstatcache", (ctx.sharedCaches / "SDKStatCaches.noindex" / file).text]
    | _, _, _, _ => []

/-- The index that the compiler adds to. -/
def indexStore : ArgumentProvider where
  name := "index-store"
  arguments ctx :=
    ["-index-store-path", (ctx.derivedData / "Index.noindex" / "DataStore").text]

/-- The object file of a source file. -/
def objectPath (temp arch stem : String) : Path :=
  Path.mk temp / "Objects-normal" / arch / (stem ++ ".o")

/-- The directory that the names of index units are seen from. -/
def intermediates (ctx : CompileContext) : Path :=
  match ctx.settings.filled? "OBJROOT" with
  | some objroot => ⟨objroot⟩
  | none => ctx.derivedData / "Build" / "Intermediates.noindex"

/-- The name of the index unit of an object file. -/
def unitPath (object intermediates : Path) : String :=
  match object.after? intermediates with
  | some relative => "/" ++ relative.text
  | none => object.text

/-- The object file and its index unit. -/
def output : ArgumentProvider where
  name := "output"
  arguments ctx :=
    match ctx.file.bind (·.fileStem?), ctx.arch?, (ctx.settings.filled? "TARGET_TEMP_DIR").or
        (ctx.settings.filled? "CONFIGURATION_TEMP_DIR") with
    | some stem, some arch, some temp =>
      let object := objectPath temp arch stem
      ["-o", object.text, "-index-unit-output-path", unitPath object (intermediates ctx)]
    | _, _, _ => []

end BuildSettings.Compile
