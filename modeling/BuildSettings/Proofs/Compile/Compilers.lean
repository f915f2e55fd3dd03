import BuildSettings.Engine
import BuildSettings.Proofs.Compile.Input
import Mathlib.Data.List.Induction

/-!
# The two compilers

A context has a dialect and a compiler, and the parts of the arguments ask for either: most of them
for the compiler, the features of Objective-C for the dialect alone. Nothing would keep a part for
one compiler out of the arguments of the other if the two fields went apart. They do not, because of
how contexts are put together: in steps, each of which sets both fields together or leaves both
alone. So their agreement (`Agrees`) is an invariant of the steps. It holds of the context that they
start with, `Agrees.apply` carries it over one step, and `agrees_ofSteps` over all of them.

Some parts are meant for one compiler and are empty for the other. Other parts are arguments of the
compiler of the C family, which the Swift compiler takes as well if each of them is wrapped. These
depend on the settings, the derived data and the installation alone, so they can be compared with
those of `bare`, the context for a C file that has nothing else.

* `dialect_ofSteps`, `agrees_ofSteps` — the dialect after any steps, and the compiler that goes
  with it.
* `isMade_contextOf` — the contexts that queries are answered with are put together so.
* `arguments_of_swift`, `arguments_of_clang` — what is empty; for the Swift compiler this is where
  the agreement is needed.
* `arguments_eq_wrap`, `headerMaps_of_swift` — what is wrapped, and what the Swift compiler is given
  in addition.
* `arguments_ofSteps` — all of it, for contexts put together in any way.
-/

namespace BuildSettings

namespace CompileContext

open Compile

/-! ### Steps -/

/-- A step in which a context is put together. -/
inductive Step where
  | forFile (file : Path)
  | withDialect (dialect : Dialect)
  | withSources (sources : List Path)
  | withInstallation (installation : Option Installation)
  | withFileFlags (flags : List String)

/-- The context after a step. -/
def Step.apply (ctx : CompileContext) : Step → CompileContext
  | .forFile file => ctx.forFile file
  | .withDialect dialect => ctx.withDialect dialect
  | .withSources sources => ctx.withSources sources
  | .withInstallation installation => ctx.withInstallation installation
  | .withFileFlags flags => ctx.withFileFlags flags

/-- The dialect that a step tells. -/
def Step.dialect? : Step → Option Dialect
  | .forFile file => some (Dialect.ofPath file)
  | .withDialect dialect => some dialect
  | _ => none

/-- The dialect that the last of the steps tells which tells one. -/
def toldDialect? (steps : List Step) : Option Dialect :=
  steps.reverse.findSome? Step.dialect?

/-- The context that steps make of settings and derived data. -/
def ofSteps (settings : Settings) (derivedData : Path) (steps : List Step) : CompileContext :=
  steps.foldl Step.apply (start settings derivedData)

/-- The context is one that some steps make. -/
def IsMade (ctx : CompileContext) : Prop :=
  ∃ settings derivedData steps, ctx = ofSteps settings derivedData steps

/-- The compiler is the one for the dialect. -/
def Agrees (ctx : CompileContext) : Prop :=
  ctx.compiler = ctx.dialect.compiler

variable {settings : Settings} {derivedData : Path} {ctx : CompileContext}

/-- A step changes the dialect to the one that it tells, if it tells one. -/
theorem dialect_apply (ctx : CompileContext) (step : Step) :
    (step.apply ctx).dialect = step.dialect?.getD ctx.dialect := by
  cases step <;> rfl

/-- The last step acts on what the steps before it have made. Inductions on steps go from the end
because of this. -/
theorem ofSteps_concat (steps : List Step) (step : Step) :
    ofSteps settings derivedData (steps ++ [step]) =
      step.apply (ofSteps settings derivedData steps) := by
  unfold ofSteps
  rw [List.foldl_append]
  rfl

/-- Later steps win, and without any the file is Swift. A dialect that is told after the file wins
over the one that the name of the file tells. -/
theorem dialect_ofSteps (steps : List Step) :
    (ofSteps settings derivedData steps).dialect = (toldDialect? steps).getD .swift := by
  induction steps using List.reverseRecOn with
  | nil => rfl
  | append_singleton steps step ih =>
    rw [ofSteps_concat, dialect_apply, ih]
    unfold toldDialect?
    rw [List.reverse_append, List.reverse_singleton, List.singleton_append, List.findSome?_cons]
    cases step.dialect? <;> rfl

/-- A file and a dialect that is told set the compiler and the dialect together, and the other steps
touch neither. -/
theorem Agrees.apply (h : ctx.Agrees) (step : Step) : (step.apply ctx).Agrees := by
  cases step with
  | forFile file => rfl
  | withDialect dialect => rfl
  | withSources sources => exact h
  | withInstallation installation => exact h
  | withFileFlags flags => exact h

/-- However a context is put together, its compiler is the one for its dialect: the context without
a file is Swift in both, and each step keeps the agreement. -/
theorem agrees_ofSteps (settings : Settings) (derivedData : Path) (steps : List Step) :
    (ofSteps settings derivedData steps).Agrees := by
  induction steps using List.reverseRecOn with
  | nil => rfl
  | append_singleton steps step ih =>
    rw [ofSteps_concat]
    exact ih.apply step

/-- The context that a query about a file is answered with is put together in steps, the last of
which is the dialect that was recorded for the file, if one was. -/
theorem isMade_contextOf (engine : Engine) (project : Project) (target : Target)
    (settings : Settings) (file : Path) (recorded : Option FileRecord) :
    (engine.contextOf project target settings file recorded).IsMade := by
  let sources := SourceItem.expand engine.files (SourceItem.ofTarget engine.files project target)
  let steps : List Step := [.forFile file, .withSources sources,
    .withInstallation engine.sdks.installation,
    .withFileFlags ((target.flagListFor? file).getD [])]
  unfold Engine.contextOf
  dsimp only
  split
  next dialect hdialect => exact ⟨settings, _, steps ++ [.withDialect dialect], rfl⟩
  next hnone => exact ⟨settings, _, steps, rfl⟩

/-- No step touches what the context started with. -/
theorem settings_ofSteps (steps : List Step) :
    (ofSteps settings derivedData steps).settings = settings ∧
      (ofSteps settings derivedData steps).derivedData = derivedData := by
  induction steps using List.reverseRecOn with
  | nil => exact ⟨rfl, rfl⟩
  | append_singleton steps step ih =>
    rw [ofSteps_concat]
    cases step <;> exact ih

/-! ### Parts for one compiler -/

/-- The parts that are meant for the compiler of the C family alone. -/
def clangProviders : List ArgumentProvider :=
  [language, clangOptions, objcFeatures, prefixHeader, clangWarnings, gccWarnings, clangInput]

/-- The parts that are meant for the Swift compiler alone. -/
def swiftProviders : List ArgumentProvider :=
  [swiftOptions, swiftFiles]

variable {p : ArgumentProvider}

theorem isSwift_of_clang (h : ctx.compiler = .clang) : ctx.isSwift = false := by
  unfold isSwift
  rw [h]
  rfl

/-- The Swift compiler is given nothing that is meant for the other one. The features of Objective-C
ask for the dialect, so they are left out only because the dialect agrees with the compiler. -/
theorem arguments_of_swift (hagrees : ctx.Agrees) (h : ctx.compiler = .swift)
    (hp : p ∈ clangProviders) : p.arguments ctx = [] := by
  have hswift := isSwift_eq_true_iff.2 h
  have hdialect : ctx.dialect = .swift := Dialect.compiler_eq_swift_iff.1 (hagrees.symm.trans h)
  simp only [clangProviders, List.mem_cons, List.not_mem_nil, or_false] at hp
  rcases hp with rfl | rfl | rfl | rfl | rfl | rfl | rfl
  · exact if_pos hswift
  · exact if_pos hswift
  · show (if ctx.dialect.isObjectiveC then _ else _) = _
    rw [hdialect]
    rfl
  · exact if_pos hswift
  · exact if_pos hswift
  · exact if_pos hswift
  · exact if_pos hswift

/-- A context with fields that do not agree is put together by no steps, and has a feature of
Objective-C for the Swift compiler. -/
example : objcFeatures.arguments
    { settings := .ofList [("CLANG_ENABLE_OBJC_ARC", "YES")], derivedData := ⟨"/dd"⟩,
      dialect := .objectiveC, compiler := .swift } = ["-fobjc-arc"] := by
  decide

/-- The compiler of the C family is given nothing that is meant for the Swift compiler, whatever the
dialect. -/
theorem arguments_of_clang (h : ctx.compiler = .clang) (hp : p ∈ swiftProviders) :
    p.arguments ctx = [] := by
  have hclang := isSwift_of_clang h
  simp only [swiftProviders, List.mem_cons, List.not_mem_nil, or_false] at hp
  rcases hp with rfl | rfl
  · unfold swiftOptions
    dsimp only
    rw [hclang]
    rfl
  · unfold swiftFiles
    dsimp only
    rw [hclang]
    rfl

/-! ### Parts that are wrapped -/

/-- The parts that both compilers are given, wrapped for one of them. -/
def wrappedProviders : List ArgumentProvider :=
  [headerSearchPaths, derivedSources, vfsOverlay, sdkStatCache]

/-- The context for a C file with the same settings, derived data and installation. -/
def bare (ctx : CompileContext) : CompileContext where
  settings := ctx.settings
  derivedData := ctx.derivedData
  installation := ctx.installation
  dialect := .c
  compiler := .clang

theorem wrap_nil (compiler : Compiler) : compiler.wrap [] = [] := by
  cases compiler <;> rfl

/-- A part that both compilers are given is the part of the bare context, wrapped for the compiler
that is meant. It depends on nothing of the context but this compiler and what the bare one has. -/
theorem arguments_eq_wrap (hp : p ∈ wrappedProviders) :
    p.arguments ctx = ctx.compiler.wrap (p.arguments ctx.bare) := by
  simp only [wrappedProviders, List.mem_cons, List.not_mem_nil, or_false] at hp
  rcases hp with rfl | rfl | rfl | rfl
  · rfl
  · rfl
  · have hsettings : ctx.bare.settings = ctx.settings := rfl
    unfold vfsOverlay
    dsimp only
    rw [hsettings]
    split
    · rfl
    · exact (wrap_nil _).symm
  · have hsettings : ctx.bare.settings = ctx.settings := rfl
    have hbuild : buildVersion? ctx.bare = buildVersion? ctx := rfl
    unfold sdkStatCache
    dsimp only
    rw [hsettings, hbuild]
    split
    · rfl
    · exact (wrap_nil _).symm

/-- What the Swift compiler is given before the maps that both are given. -/
theorem headerMaps_of_swift {temp target : String} (h : ctx.compiler = .swift)
    (htemp : ctx.settings.filled? "TARGET_TEMP_DIR" = some temp)
    (htarget : ctx.settings.filled? "TARGET_NAME" = some target) :
    headerMaps.arguments ctx =
      "-Xcc" :: ("-I" ++ temp ++ "/swift-overrides.hmap") ::
        Compiler.swift.wrap (headerMaps.arguments ctx.bare) := by
  have hsettings : ctx.bare.settings = ctx.settings := rfl
  unfold headerMaps
  dsimp only
  rw [hsettings, htemp, htarget, h, isSwift_eq_true_iff.2 h]
  rfl

/-- Without the directory of the target or its name there are no maps, for either compiler. -/
theorem headerMaps_of_none
    (h : ctx.settings.filled? "TARGET_TEMP_DIR" = none ∨
      ctx.settings.filled? "TARGET_NAME" = none) : headerMaps.arguments ctx = [] := by
  unfold headerMaps
  dsimp only
  split
  next temp target htemp htarget =>
    rcases h with hnone | hnone
    · rw [hnone] at htemp
      cases htemp
    · rw [hnone] at htarget
      cases htarget
  next => rfl

/-! ### Contexts of steps -/

/-- What is given to the compiler of the C family does not depend on its file. -/
theorem arguments_bare {other : CompileContext} (h : other.compiler = .clang)
    (hp : p ∈ wrappedProviders) : p.arguments other = p.arguments other.bare := by
  rw [arguments_eq_wrap hp, h]
  rfl

/-- The maps of the compiler of the C family do not depend on its file either. -/
theorem headerMaps_bare {other : CompileContext} (h : other.compiler = .clang) :
    headerMaps.arguments other = headerMaps.arguments other.bare := by
  have hsettings : other.bare.settings = other.settings := rfl
  unfold headerMaps
  dsimp only
  rw [hsettings, h, isSwift_of_clang h]
  rfl

/-- **Two compilers**: the last dialect that is told is that of the context, and the compiler is the
one for it. Each compiler is given nothing of what is meant for the other. Where both are given the
same, the Swift compiler is given it with `-Xcc` before each argument, and before the maps of
headers, if there are any, one map more. -/
theorem arguments_ofSteps (settings : Settings) (derivedData : Path) (steps : List Step) :
    let ctx := ofSteps settings derivedData steps
    (ctx.dialect = (toldDialect? steps).getD .swift ∧ ctx.compiler = ctx.dialect.compiler) ∧
    (ctx.compiler = .swift → ∀ p ∈ clangProviders, p.arguments ctx = []) ∧
    (ctx.compiler = .clang → ∀ p ∈ swiftProviders, p.arguments ctx = []) ∧
    ∀ others, let other := ofSteps settings derivedData others
      ctx.compiler = .swift → other.compiler = .clang → ctx.installation = other.installation →
      (∀ p ∈ wrappedProviders,
        p.arguments ctx = (p.arguments other).flatMap fun a => ["-Xcc", a]) ∧
      (∀ temp target, settings.filled? "TARGET_TEMP_DIR" = some temp →
        settings.filled? "TARGET_NAME" = some target →
        headerMaps.arguments ctx =
          "-Xcc" :: ("-I" ++ temp ++ "/swift-overrides.hmap") ::
            (headerMaps.arguments other).flatMap fun a => ["-Xcc", a]) ∧
      (settings.filled? "TARGET_TEMP_DIR" = none ∨ settings.filled? "TARGET_NAME" = none →
        headerMaps.arguments ctx = [] ∧ headerMaps.arguments other = []) := by
  intro ctx
  obtain ⟨hsettings, hderived⟩ := @settings_ofSteps settings derivedData steps
  have hagrees : ctx.Agrees := agrees_ofSteps settings derivedData steps
  refine ⟨⟨dialect_ofSteps steps, hagrees⟩, fun h p hp => arguments_of_swift hagrees h hp,
    fun h p hp => arguments_of_clang h hp, ?_⟩
  intro others other hswift hclang hinstallation
  obtain ⟨hsettings', hderived'⟩ := @settings_ofSteps settings derivedData others
  -- apart from their files the two contexts are the same
  have hbare : ctx.bare = other.bare := by
    unfold bare
    rw [hsettings, hsettings', hderived, hderived', hinstallation]
  refine ⟨fun p hp => ?_, fun temp target htemp htarget => ?_, fun hnone => ?_⟩
  · rw [arguments_eq_wrap hp, hswift, arguments_bare hclang hp, hbare]
    rfl
  · rw [← hsettings] at htemp htarget
    rw [headerMaps_of_swift hswift htemp htarget, headerMaps_bare hclang, hbare]
    rfl
  · exact ⟨headerMaps_of_none (hsettings ▸ hnone), headerMaps_of_none (hsettings' ▸ hnone)⟩

/-- Settings of a target with maps of headers and an overlay. -/
def mappedSettings : Settings :=
  .ofList [("TARGET_TEMP_DIR", "/t"), ("TARGET_NAME", "Hello"), ("HEADER_SEARCH_PATHS", "/a /b"),
    ("CLANG_ENABLE_OBJC_ARC", "YES"), ("ENABLE_TESTABILITY", "YES")]

/-- A file that is Swift by its name is known to be Objective-C++, and the other way round. -/
theorem arguments_ofSteps_told :
    let swift := ofSteps mappedSettings ⟨"/dd"⟩
      [.forFile ⟨"/p/a.mm"⟩, .withFileFlags ["-w"], .withDialect .swift, .withSources [⟨"/p/a.mm"⟩]]
    let clang := ofSteps mappedSettings ⟨"/dd"⟩
      [.withInstallation none, .forFile ⟨"/p/a.swift"⟩, .withDialect .objectiveCpp]
    objcFeatures.arguments swift = [] ∧ swiftOptions.arguments clang = [] ∧
      headerSearchPaths.arguments swift = ["-Xcc", "-I/a", "-Xcc", "-I/b"] ∧
      headerMaps.arguments swift =
        "-Xcc" :: "-I/t/swift-overrides.hmap" ::
          (headerMaps.arguments clang).flatMap fun a => ["-Xcc", a] := by
  intro swift clang
  obtain ⟨-, hsilent, -, hpair⟩ := arguments_ofSteps mappedSettings ⟨"/dd"⟩
    [.forFile ⟨"/p/a.mm"⟩, .withFileFlags ["-w"], .withDialect .swift, .withSources [⟨"/p/a.mm"⟩]]
  obtain ⟨-, -, hsilent', -⟩ := arguments_ofSteps mappedSettings ⟨"/dd"⟩
    [.withInstallation none, .forFile ⟨"/p/a.swift"⟩, .withDialect .objectiveCpp]
  obtain ⟨hwrapped, hmaps, -⟩ := hpair
    [.withInstallation none, .forFile ⟨"/p/a.swift"⟩, .withDialect .objectiveCpp] rfl rfl rfl
  refine ⟨hsilent rfl _ (by simp [clangProviders]), hsilent' rfl _ (by simp [swiftProviders]),
    (hwrapped headerSearchPaths (by simp [wrappedProviders])).trans (by decide),
    hmaps "/t" "Hello" (by decide) (by decide)⟩

/-- Without the name of the target there are no maps of headers, and so not the one of the Swift
compiler either. -/
theorem headerMaps_without_name :
    let settings : Settings := .ofList [("TARGET_TEMP_DIR", "/t")]
    let swift := ofSteps settings ⟨"/dd"⟩ [.forFile ⟨"/p/A.swift"⟩]
    let clang := ofSteps settings ⟨"/dd"⟩ [.forFile ⟨"/p/a.m"⟩]
    swift.compiler = .swift ∧ clang.compiler = .clang ∧
      ∀ map, headerMaps.arguments swift ≠
        "-Xcc" :: map :: (headerMaps.arguments clang).flatMap fun a => ["-Xcc", a] := by
  intro settings swift clang
  have hnone : headerMaps.arguments swift = [] := headerMaps_of_none (.inr (by decide))
  refine ⟨by decide, by decide, fun map h => ?_⟩
  rw [hnone] at h
  cases h

end CompileContext

end BuildSettings
