import BuildSettings.Compile.Context

/-!
# Search paths

Where the compiler looks for headers, frameworks and libraries, and the maps that the build puts
in their place.
-/

namespace BuildSettings.Compile

/-- An entry of a list of directories without the mark for all directories below. -/
def searchEntry (entry : String) : String :=
  match Text.beforeEnd? "/**".toList entry.toList with
  | some rest => String.ofList rest
  | none =>
    match Text.beforeEnd? "**".toList entry.toList with
    | some rest => String.ofList rest
    | none => entry

/-- The directory of the platform that holds the SDK, for bundles of tests. -/
def testPlatform? (ctx : CompileContext) : Option Path :=
  if ctx.isTestBundle then
    (ctx.settings.filled? "SDKROOT_PATH").bind fun sdk => Path.ancestor? ⟨sdk⟩ 3
  else none

/-- The directories of headers. -/
def headerSearchPaths : ArgumentProvider where
  name := "header-search-paths"
  arguments ctx :=
    ctx.compiler.wrap <|
      (ctx.settings.list "HEADER_SEARCH_PATHS" ++
        ctx.settings.list "USER_HEADER_SEARCH_PATHS").map fun entry => "-I" ++ searchEntry entry

/-- The directories of frameworks: those of the settings, the products and, for tests, the
platform's. -/
def frameworkSearchPaths : ArgumentProvider where
  name := "framework-search-paths"
  arguments ctx :=
    ((ctx.settings.list "FRAMEWORK_SEARCH_PATHS").map fun entry => "-F" ++ searchEntry entry) ++
    ((ctx.settings.filled? "CONFIGURATION_BUILD_DIR").toList.flatMap fun products =>
      ["-F" ++ products, "-F" ++ products ++ "/PackageFrameworks"]) ++
    ((testPlatform? ctx).toList.map fun platform =>
      "-F" ++ (platform / "Developer/Library/Frameworks").text)

/-- The plugins for tests that come with the toolchain. -/
def testingPlugins (ctx : CompileContext) : List String :=
  if ctx.isTestBundle && ctx.isSwift then
    (ctx.settings.filled? "TOOLCHAIN_DIR").toList.flatMap fun toolchain =>
      ["-plugin-path", (Path.join ⟨toolchain⟩ "usr/lib/swift/host/plugins/testing").text]
  else []

/-- The directories of libraries. -/
def librarySearchPaths : ArgumentProvider where
  name := "library-search-paths"
  arguments ctx :=
    ((ctx.settings.list "LIBRARY_SEARCH_PATHS").map fun entry => "-L" ++ searchEntry entry) ++
    ((testPlatform? ctx).toList.map fun platform =>
      "-L" ++ (platform / "Developer/usr/lib").text) ++
    testingPlugins ctx

/-- The directories of headers that the build makes. -/
def derivedSources : ArgumentProvider where
  name := "derived-sources"
  arguments ctx :=
    let products := (ctx.settings.filled? "CONFIGURATION_BUILD_DIR").toList.map fun products =>
      products ++ "/include"
    let derived := (ctx.settings.filled? "TARGET_TEMP_DIR").toList.flatMap fun temp =>
      (ctx.arch?.toList.flatMap fun arch =>
        [temp ++ "/DerivedSources-normal/" ++ arch, temp ++ "/DerivedSources/" ++ arch]) ++
      [temp ++ "/DerivedSources"]
    ctx.compiler.wrap ((products ++ derived).map fun directory => "-I" ++ directory)

/-- The maps from names of headers to files. -/
def headerMaps : ArgumentProvider where
  name := "header-maps"
  arguments ctx :=
    match ctx.settings.filled? "TARGET_TEMP_DIR", ctx.settings.filled? "TARGET_NAME" with
    | some temp, some target =>
      ctx.compiler.wrap <|
        (if ctx.isSwift then ["-I" ++ temp ++ "/swift-overrides.hmap"] else []) ++
        ["-iquote", temp ++ "/" ++ target ++ "-generated-files.hmap",
          "-I" ++ temp ++ "/" ++ target ++ "-own-target-headers.hmap",
          "-I" ++ temp ++ "/" ++ target ++ "-all-target-headers.hmap",
          "-iquote", temp ++ "/" ++ target ++ "-project-headers.hmap"]
    | _, _ => []

/-- The overlay that shows the headers of products where they will be. -/
def vfsOverlay : ArgumentProvider where
  name := "vfs-overlay"
  arguments ctx :=
    match ctx.settings.filled? "CONFIGURATION_TEMP_DIR", ctx.settings.filled? "PROJECT_NAME",
      ctx.settings.filled? "PROJECT_GUID", ctx.settings.filled? "PLATFORM_NAME" with
    | some temp, some project, some guid, some platform =>
      ctx.compiler.wrap
        ["-ivfsoverlay",
          temp ++ "/" ++ project ++ "-" ++ guid ++ "-VFS-" ++ platform ++
            "/all-product-headers.yaml"]
    | _, _, _, _ => []

end BuildSettings.Compile
