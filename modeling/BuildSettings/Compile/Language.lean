import BuildSettings.Compile.Context

/-!
# Language and code generation

The arguments that tell the compiler the SDK, the language, the module and how to translate.
-/

namespace BuildSettings.Compile

/-- The root of the SDK. -/
def sdk : ArgumentProvider where
  name := "sdk"
  arguments ctx :=
    match (ctx.settings.filled? "SDKROOT_PATH").or (ctx.settings.filled? "SDKROOT") with
    | some root => [if ctx.isSwift then "-sdk" else "-isysroot", root]
    | none => []

/-- The target triple. -/
def targetTriple : ArgumentProvider where
  name := "target-triple"
  arguments ctx :=
    match ctx.settings.filled? "TARGET_TRIPLE" with
    | some triple => ["-target", triple]
    | none => []

/-- The directory that relative paths start from. -/
def workingDirectory : ArgumentProvider where
  name := "working-directory"
  arguments ctx :=
    match (ctx.settings.filled? "SRCROOT").or (ctx.settings.filled? "PROJECT_DIR") with
    | some directory => ["-working-directory", directory]
    | none => []

/-- The language of a file of the C family. -/
def language : ArgumentProvider where
  name := "language"
  arguments ctx :=
    if ctx.isSwift then []
    else match ctx.dialect.clangLanguage? with
      | some language => ["-x", language]
      | none => []

/-- How modules of the C family are stored and checked. -/
def moduleFormat : List String :=
  ["-Xclang", "-fmodule-format=raw", "-fmodules-validate-system-headers",
    "-fretain-comments-from-system-headers"]

/-- The module of the target and the cache of modules. -/
def targetModule : ArgumentProvider where
  name := "module"
  arguments ctx :=
    let cache := (ctx.sharedCaches / "ModuleCache.noindex").text
    let name := ctx.settings.filled? "PRODUCT_MODULE_NAME"
    if ctx.isSwift then
      (name.toList.flatMap fun n => ["-module-name", n]) ++ ["-module-cache-path", cache] ++
        ctx.compiler.wrap moduleFormat
    else if ctx.settings.isYes "CLANG_ENABLE_MODULES" then
      ["-fmodules", "-fmodules-cache-path=" ++ cache] ++ moduleFormat ++
        ["-fmodules-prune-interval=86400", "-fmodules-prune-after=345600"] ++
        (name.toList.map fun n => "-fmodule-name=" ++ n) ++
        ["-Wno-error=non-modular-include-in-framework-module"]
    else []

/-- The value of a setting, unless it leaves the choice to the compiler. -/
def chosenByUser? (settings : Settings) (key : String) : Option String :=
  (settings.filled? key).filter (· != "compiler-default")

/-- The version of the language and, for C++, the standard library. -/
def languageStandard : ArgumentProvider where
  name := "language-standard"
  arguments ctx :=
    if ctx.isSwift then
      (ctx.settings.filled? "SWIFT_VERSION").toList.flatMap fun v => ["-swift-version", v]
    else
      let key :=
        if ctx.dialect.isCpp then "CLANG_CXX_LANGUAGE_STANDARD" else "GCC_C_LANGUAGE_STANDARD"
      ((chosenByUser? ctx.settings key).toList.map fun v => "-std=" ++ v) ++
        if ctx.dialect.isCpp then
          (chosenByUser? ctx.settings "CLANG_CXX_LIBRARY").toList.map fun v => "-stdlib=" ++ v
        else []

/-- Options of the Swift compiler. -/
def swiftOptions : ArgumentProvider where
  name := "swift-options"
  arguments ctx :=
    if !ctx.isSwift then []
    else
      ((ctx.settings.filled? "SWIFT_OBJC_BRIDGING_HEADER").toList.flatMap fun header =>
        ["-import-objc-header", ctx.fromSourceRoot header]) ++
      ((ctx.settings.filled? "SWIFT_OPTIMIZATION_LEVEL").toList.flatMap fun level =>
        [level,
          "-enforce-exclusivity=" ++ if level = "-Onone" then "checked" else "unchecked"]) ++
      (if ctx.settings.isYes "ENABLE_TESTABILITY" then ["-enable-testing"] else []) ++
      (if ctx.settings.get? "SWIFT_COMPILATION_MODE" = some "wholemodule" then
        ["-whole-module-optimization"] else []) ++
      ((ctx.settings.list "SWIFT_ACTIVE_COMPILATION_CONDITIONS").flatMap fun condition =>
        ["-D", condition]) ++
      ctx.settings.list "OTHER_SWIFT_FLAGS" ++ ctx.fileFlags

/-- The flag of an optimization level, which may be given as the flag or as the level alone. -/
def optimizationFlag (level : String) : String :=
  if Text.startsWith level "-" then level else "-O" ++ level

/-- Options of the compiler of the C family. -/
def clangOptions : ArgumentProvider where
  name := "clang-options"
  arguments ctx :=
    if ctx.isSwift then []
    else
      ((ctx.settings.list "GCC_PREPROCESSOR_DEFINITIONS").map fun d => "-D" ++ d) ++
      ((ctx.settings.filled? "GCC_OPTIMIZATION_LEVEL").toList.map optimizationFlag) ++
      ctx.settings.list "OTHER_CFLAGS" ++
      (if ctx.dialect.isCpp then ctx.settings.list "OTHER_CPLUSPLUSFLAGS" else []) ++
      ctx.fileFlags

/-- A feature of Objective-C that a setting turns on, unless a flag of the file turns it off. -/
def objcFeature (ctx : CompileContext) (key on off : String) : List String :=
  if ctx.settings.isYes key && !ctx.fileFlags.contains off then [on] else []

/-- Reference counting and weak references of Objective-C. -/
def objcFeatures : ArgumentProvider where
  name := "objc-features"
  arguments ctx :=
    if ctx.dialect.isObjectiveC then
      objcFeature ctx "CLANG_ENABLE_OBJC_ARC" "-fobjc-arc" "-fno-objc-arc" ++
        objcFeature ctx "CLANG_ENABLE_OBJC_WEAK" "-fobjc-weak" "-fno-objc-weak"
    else []

/-- The header that comes before every file. -/
def prefixHeader : ArgumentProvider where
  name := "prefix-header"
  arguments ctx :=
    if ctx.isSwift then []
    else (ctx.settings.filled? "GCC_PREFIX_HEADER").toList.flatMap fun header =>
      ["-include", ctx.fromSourceRoot header]

/-- Information for the debugger. -/
def debugInfo : ArgumentProvider where
  name := "debug-info"
  arguments ctx :=
    if ctx.settings.get? "GCC_GENERATE_DEBUGGING_SYMBOLS" = some "NO" then []
    else if ctx.isSwift then ["-g", "-Xfrontend", "-serialize-debugging-options"]
    else ["-g", "-gmodules"]

end BuildSettings.Compile
