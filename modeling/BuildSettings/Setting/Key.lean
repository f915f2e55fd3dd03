import BuildSettings.Text.Cut

/-!
# Names of settings

Three facts about names and values that decide how layers of settings combine: which names hold
single values, which ones tell the SDK in use, and which values are truth values.
-/

namespace BuildSettings.Setting

/-- Names that hold a single value: a higher layer replaces it. -/
def scalarKeys : List String :=
  ["SDKROOT", "SRCROOT", "SYMROOT", "OBJROOT", "PLATFORM_NAME", "CONFIGURATION", "TARGET_NAME",
    "PRODUCT_NAME", "PRODUCT_MODULE_NAME", "PRODUCT_TYPE", "PRODUCT_BUNDLE_IDENTIFIER",
    "SWIFT_VERSION", "SWIFT_OPTIMIZATION_LEVEL", "SWIFT_OBJC_BRIDGING_HEADER",
    "SWIFT_COMPILATION_MODE", "GCC_OPTIMIZATION_LEVEL", "GCC_C_LANGUAGE_STANDARD",
    "GCC_PREFIX_HEADER", "CLANG_CXX_LANGUAGE_STANDARD", "CLANG_CXX_LIBRARY",
    "CODE_SIGN_IDENTITY", "CODE_SIGN_STYLE", "DEVELOPMENT_TEAM", "DEBUG_INFORMATION_FORMAT",
    "INFOPLIST_FILE", "MARKETING_VERSION", "CURRENT_PROJECT_VERSION",
    "TARGETED_DEVICE_FAMILY", "MACH_O_TYPE"]

/-- Endings of further names that hold a single value: deployment targets and single paths. -/
def scalarEndings : List String :=
  ["_DEPLOYMENT_TARGET", "_DIR", "_ROOT", "_PATH", "_FILE"]

/-- Whether the setting holds a single value. -/
def isScalarKey (key : String) : Bool :=
  scalarKeys.contains key || scalarEndings.any (Text.endsWith key)

/-- Names that describe the SDK in use. -/
def sdkIdentityKeys : List String :=
  ["SDKROOT", "SDKROOT_PATH", "SDK_VERSION", "SDK_BUILD_VERSION", "PLATFORM_NAME",
    "EFFECTIVE_PLATFORM_NAME", "NATIVE_ARCH", "LLVM_TARGET_TRIPLE_SUFFIX"]

/-- Whether a value is one of the truth values of settings. -/
def isBooleanLiteral (value : String) : Bool :=
  ["YES", "NO", "YES_ERROR", "YES_AGGRESSIVE", "YES_NONAGGRESSIVE"].contains value

end BuildSettings.Setting
