import BuildSettings.Compile.Context

/-!
# Warnings

Settings that turn on warnings of the compiler of the C family. Some know one level, `YES`; the
others know further levels, each with flags of its own.
-/

namespace BuildSettings.Compile

/-- Settings that turn on one flag. -/
def simpleWarnings : List (String × String) :=
  [("CLANG_WARN_BLOCK_CAPTURE_AUTORELEASING", "-Wblock-capture-autoreleasing"),
    ("CLANG_WARN_BOOL_CONVERSION", "-Wbool-conversion"),
    ("CLANG_WARN_COMMA", "-Wcomma"),
    ("CLANG_WARN_CONSTANT_CONVERSION", "-Wconstant-conversion"),
    ("CLANG_WARN_DEPRECATED_OBJC_IMPLEMENTATIONS", "-Wdeprecated-objc-implementations"),
    ("CLANG_WARN_DIRECT_OBJC_ISA_USAGE", "-Wdirect-objc-isa-usage"),
    ("CLANG_WARN_DOCUMENTATION_COMMENTS", "-Wdocumentation-comments"),
    ("CLANG_WARN_EMPTY_BODY", "-Wempty-body"),
    ("CLANG_WARN_ENUM_CONVERSION", "-Wenum-conversion"),
    ("CLANG_WARN_INFINITE_RECURSION", "-Winfinite-recursion"),
    ("CLANG_WARN_INT_CONVERSION", "-Wint-conversion"),
    ("CLANG_WARN_NON_LITERAL_NULL_CONVERSION", "-Wnon-literal-null-conversion"),
    ("CLANG_WARN_OBJC_IMPLICIT_RETAIN_SELF", "-Wobjc-implicit-retain-self"),
    ("CLANG_WARN_OBJC_LITERAL_CONVERSION", "-Wobjc-literal-conversion"),
    ("CLANG_WARN_OBJC_ROOT_CLASS", "-Wobjc-root-class"),
    ("CLANG_WARN_QUOTED_INCLUDE_IN_FRAMEWORK_HEADER", "-Wquoted-include-in-framework-header"),
    ("CLANG_WARN_RANGE_LOOP_ANALYSIS", "-Wrange-loop-analysis"),
    ("CLANG_WARN_STRICT_PROTOTYPES", "-Wstrict-prototypes"),
    ("CLANG_WARN_SUSPICIOUS_MOVE", "-Wsuspicious-move"),
    ("CLANG_WARN_UNGUARDED_AVAILABILITY", "-Wunguarded-availability"),
    ("CLANG_WARN_UNREACHABLE_CODE", "-Wunreachable-code"),
    ("CLANG_WARN__DUPLICATE_METHOD_MATCH", "-Wduplicate-method-match")]

/-- A warning, and the same warning as an error. -/
def warningOrError (key flag : String) : String × List (String × List String) :=
  (key, [("YES", [flag]), ("YES_ERROR", [flag, "-Werror"])])

/-- Settings with flags by level. -/
def leveledWarnings : List (String × List (String × List String)) :=
  [warningOrError "GCC_WARN_64_TO_32_BIT_CONVERSION" "-Wconversion",
    warningOrError "GCC_WARN_ABOUT_DEPRECATED_FUNCTIONS" "-Wdeprecated-declarations",
    warningOrError "GCC_WARN_ABOUT_INVALID_OFFSETOF_MACRO" "-Winvalid-offsetof",
    warningOrError "GCC_WARN_ABOUT_MISSING_FIELD_INITIALIZERS" "-Wmissing-field-initializers",
    ("GCC_WARN_ABOUT_RETURN_TYPE",
      [("YES", ["-Wreturn-type"]), ("YES_ERROR", ["-Werror=return-type"])]),
    warningOrError "GCC_WARN_SHADOW" "-Wshadow",
    warningOrError "GCC_WARN_SIGN_COMPARE" "-Wsign-compare",
    warningOrError "GCC_WARN_STRICT_SELECTOR_MATCH" "-Wstrict-selector-match",
    warningOrError "GCC_WARN_TYPECHECK_CALLS_TO_PRINTF" "-Wformat",
    warningOrError "GCC_WARN_UNDECLARED_SELECTOR" "-Wundeclared-selector",
    ("GCC_WARN_UNINITIALIZED_AUTOS",
      [("YES", ["-Wuninitialized"]),
        ("YES_AGGRESSIVE", ["-Wuninitialized", "-Wconditional-uninitialized"]),
        ("YES_ERROR", ["-Wuninitialized", "-Werror"])]),
    warningOrError "GCC_WARN_UNREACHABLE_CODE" "-Wunreachable-code",
    warningOrError "GCC_WARN_UNUSED_FUNCTION" "-Wunused-function",
    warningOrError "GCC_WARN_UNUSED_LABEL" "-Wunused-label",
    warningOrError "GCC_WARN_UNUSED_PARAMETER" "-Wunused-parameter",
    warningOrError "GCC_WARN_UNUSED_VALUE" "-Wunused-value",
    warningOrError "GCC_WARN_UNUSED_VARIABLE" "-Wunused-variable"]

/-- The flags of the simple settings that are on. -/
def clangWarnings : ArgumentProvider where
  name := "clang-warnings"
  arguments ctx :=
    if ctx.isSwift then []
    else (simpleWarnings.filter fun w => ctx.settings.isYes w.1).map (·.2)

/-- The flags that the other settings have at their level. -/
def gccWarnings : ArgumentProvider where
  name := "gcc-warnings"
  arguments ctx :=
    if ctx.isSwift then []
    else leveledWarnings.flatMap fun w =>
      ((ctx.settings.get? w.1).bind fun level => w.2.lookup level).getD []

end BuildSettings.Compile
