import BuildSettings.Engine
import BuildSettings.Proofs.Synthesis.Precedence

/-!
# The identity of the SDK

Eight settings tell the SDK in use. A dump may choose the SDK through its `SDKROOT`, and has no
other say about them: it is not laid over them (`get?_folded_of_identity`), and the root is derived
in the end from another one of the eight. What a dump does reach are the settings that they refer
to, so they are out of its reach where their folded values have no references.

* `get?_finish_of_identity` — then they come out as the layers have them, with the path of the SDK
  as its root.
* `sdkIdentity_of_dumps` — two dumps that name the same SDK, or none, lead to the same identity; and
  a target that is not in a batch is answered for as if there was no batch.
-/

namespace BuildSettings

open Setting

variable {options : SynthesisOptions} {project : Project} {target : Target}
  {targetName key : String} {source : SdkSource} {platform settings loaded loaded' : Settings}

/-! ### Which SDK is in use -/

namespace SynthesisOptions

/-- The layers tell the SDK in use without references. -/
def IdentityClosed (options : SynthesisOptions) (project : Project) (target : Target)
    (source : SdkSource) (platform : Settings) : Prop :=
  ∀ key ∈ sdkIdentityKeys, ∀ value,
    (options.layered project target source platform).get? key = some value →
      hasReference value = false

/-- Of a dump only the name of the SDK counts for the platform. -/
theorem platformRequest_congr
    (hagree : Settings.filled? loaded "SDKROOT" = Settings.filled? loaded' "SDKROOT") :
    (options.withLoaded loaded).platformRequest project target =
      (options.withLoaded loaded').platformRequest project target := by
  have hname : (options.withLoaded loaded).sdkName project target =
      (options.withLoaded loaded').sdkName project target := by
    rw [sdkName, sdkName]
    simp only [withLoaded, hagree]
    rfl
  rw [platformRequest, platformRequest, hname]
  rfl

/-- A setting about the SDK has no reference, so the expansion leaves it as the layers have it,
whatever the dump says beside it. -/
theorem get?_expandReferences_of_identity
    (hclosed : options.IdentityClosed project target source platform)
    (hkey : key ∈ sdkIdentityKeys) :
    (expandReferences (options.folded project target source platform)).get? key =
      (options.layered project target source platform).get? key := by
  have hfolded : (options.folded project target source platform).get? key =
      (options.layered project target source platform).get? key :=
    get?_folded_of_identity hkey
  cases hget : (options.layered project target source platform).get? key with
  | none => exact get?_expandReferences_of_none (hfolded.trans hget)
  | some value =>
    exact get?_expandReferences_of_closed (hfolded.trans hget) (hclosed key hkey value hget)

end SynthesisOptions

/-- What is derived from the architecture tells nothing about the SDK. -/
theorem ne_of_identity (hkey : key ∈ sdkIdentityKeys) :
    key ≠ "TARGET_TRIPLE" ∧ key ≠ "CURRENT_ARCH" := by
  have hall : ∀ k ∈ sdkIdentityKeys, k ≠ "TARGET_TRIPLE" ∧ k ≠ "CURRENT_ARCH" := by
    decide
  exact hall key hkey

/-- The identity of the SDK comes out as the layers have it, with the path as the root. -/
theorem get?_finish_of_identity
    (hclosed : options.IdentityClosed project target source platform)
    (hkey : key ∈ sdkIdentityKeys) :
    (finish (expandReferences (options.folded project target source platform))).get? key =
      (withSdkPath (options.layered project target source platform)).get? key := by
  obtain ⟨htriple, harch⟩ := ne_of_identity hkey
  have hexpand := SynthesisOptions.get?_expandReferences_of_identity hclosed hkey
  have hpath : "SDKROOT_PATH" ∈ sdkIdentityKeys := by simp [sdkIdentityKeys]
  rw [finish, get?_withArch_of_ne htriple harch, get?_withSdkPath, get?_withSdkPath, hexpand,
    SynthesisOptions.get?_expandReferences_of_identity hclosed hpath]

/-! ### Targets without a dump -/

namespace Engine

variable {engine : Engine} {name : String}

/-- The engine without a batch. -/
def bare (engine : Engine) : Engine :=
  { engine with loaded := ∅ }

/-- A target that is not in the batch has the options it would have without one, so it gets the same
settings or the same error. -/
theorem targetSettings_bare (h : engine.loaded.find? ⟨project.path, name⟩ = none) :
    engine.targetSettings project name = engine.bare.targetSettings project name := by
  have hoptions : engine.optionsFor project name = engine.bare.optionsFor project name := by
    rw [optionsFor, h]
    rfl
  rw [targetSettings, hoptions]
  rfl

/-- Queries about a file see nothing of the batch but the settings of the target. -/
theorem withContext_bare {α : Type} (h : engine.loaded.find? ⟨project.path, name⟩ = none)
    (file : Path) (index : Option FileIndex) (answer : CompileContext → Option FileRecord → α) :
    engine.withContext project name file index answer =
      engine.bare.withContext project name file index answer := by
  rw [withContext, targetSettings_bare h]
  rfl

end Engine

/-- Two dumps of a target with the same `SDKROOT`, or both without one, fail alike or lead to the
same identity of the SDK, if the layers tell it without references. A target that is not in the
batch of an engine has the settings and the arguments that it has without a batch. -/
theorem sdkIdentity_of_dumps :
    (∀ (options : SynthesisOptions) (project : Project) (targetName : String) (source : SdkSource)
      (loaded loaded' : Settings),
      Settings.filled? loaded "SDKROOT" = Settings.filled? loaded' "SDKROOT" →
      (∃ e, (options.withLoaded loaded).synthesize project targetName source = .error e ∧
        (options.withLoaded loaded').synthesize project targetName source = .error e) ∨
      ∃ target platform settings settings', project.target? targetName = some target ∧
        ((options.withLoaded loaded).platformRequest project target).settings source =
          .ok platform ∧
        (options.withLoaded loaded).synthesize project targetName source = .ok settings ∧
        (options.withLoaded loaded').synthesize project targetName source = .ok settings' ∧
        (options.IdentityClosed project target source platform →
          ∀ key ∈ sdkIdentityKeys, settings.get? key = settings'.get? key)) ∧
    ∀ (engine : Engine) (project : Project) (name : String),
      engine.loaded.find? ⟨project.path, name⟩ = none →
      engine.targetSettings project name = engine.bare.targetSettings project name ∧
      ∀ file,
        (∀ index, engine.compileArguments project name file index =
          engine.bare.compileArguments project name file index) ∧
        engine.explainArguments project name file =
          engine.bare.explainArguments project name file := by
  constructor
  · intro options project targetName source loaded loaded' hagree
    cases htarget : project.target? targetName with
    | none =>
      exact .inl ⟨_, SynthesisOptions.synthesize_of_none htarget,
        SynthesisOptions.synthesize_of_none htarget⟩
    | some target =>
      have hrequest : (options.withLoaded loaded).platformRequest project target =
          (options.withLoaded loaded').platformRequest project target :=
        SynthesisOptions.platformRequest_congr hagree
      cases hplatform :
          ((options.withLoaded loaded).platformRequest project target).settings source with
      | error e =>
        have hplatform' := hrequest ▸ hplatform
        exact .inl ⟨_, SynthesisOptions.synthesize_of_error htarget hplatform,
          SynthesisOptions.synthesize_of_error htarget hplatform'⟩
      | ok platform =>
        have hplatform' := hrequest ▸ hplatform
        refine .inr ⟨target, platform, _, _, rfl, hplatform,
          SynthesisOptions.synthesize_of_ok htarget hplatform,
          SynthesisOptions.synthesize_of_ok htarget hplatform', fun hclosed key hkey => ?_⟩
        -- the layers are the same under both dumps
        have hfinal : ∀ dump : Settings, (finish (expandReferences
            ((options.withLoaded dump).folded project target source platform))).get? key =
              (withSdkPath (options.layered project target source platform)).get? key :=
          fun dump => get?_finish_of_identity hclosed hkey
        exact (hfinal loaded).trans (hfinal loaded').symm
  · intro engine project name h
    refine ⟨Engine.targetSettings_bare h, fun file => ⟨fun index => ?_, ?_⟩⟩
    · exact Engine.withContext_bare h file index _
    · exact Engine.withContext_bare h file none _

/-- A source with an SDK at a path that tells its name. -/
def xcodeSource : SdkSource :=
  SdkCatalog.source
    { sdks := [{ name := "macosx", path := ⟨"/Xcode/MacOSX14.2.sdk"⟩, version := "14.2" }] }

/-- What the layers of a project tell about this SDK, and what is built for. -/
def betaSdk : List (String × String) :=
  [("SDKROOT", "macosx"), ("SDKROOT_PATH", "/Xcode/MacOSX14.2.sdk"), ("SDK_VERSION", "14.2"),
    ("SDK_BUILD_VERSION", ""), ("PLATFORM_NAME", "macosx"), ("EFFECTIVE_PLATFORM_NAME", ""),
    ("NATIVE_ARCH", "x86_64"), ("LLVM_TARGET_TRIPLE_SUFFIX", ""), ("ARCHS", "x86_64 arm64")]

/-- What the layers tell of the SDK in this project. -/
theorem layered_beta {platform : Settings} (hplatform :
      (plainOptions.platformRequest betaProject betaTarget).settings xcodeSource = .ok platform) :
    ∀ e ∈ betaSdk,
      (plainOptions.layered betaProject betaTarget xcodeSource platform).get? e.1 = some e.2 := by
  have hresolve : ∀ platform ∈ ((plainOptions.platformRequest betaProject betaTarget).settings
      xcodeSource).toOption, ∀ e ∈ betaSdk, (plainOptions.layers betaProject betaTarget
        (plainOptions.defaults betaProject xcodeSource platform)).resolve e.1 = some e.2 := by
    simp only [Layers.resolve, SynthesisOptions.values_defaults]
    decide +kernel
  rw [hplatform] at hresolve
  simp only [SynthesisOptions.layered, Layers.get?_merged]
  exact hresolve platform rfl

/-- It is told without references. -/
theorem identityClosed_beta {platform : Settings} (hplatform :
      (plainOptions.platformRequest betaProject betaTarget).settings xcodeSource = .ok platform) :
    plainOptions.IdentityClosed betaProject betaTarget xcodeSource platform := by
  have hvalues : ∀ key ∈ sdkIdentityKeys, ∃ e ∈ betaSdk, e.1 = key ∧ '$' ∉ e.2.toList := by
    decide
  intro key hkey value hget
  obtain ⟨e, he, rfl, hdollar⟩ := hvalues key hkey
  obtain rfl := Option.some.inj ((layered_beta hplatform e he).symm.trans hget)
  exact closed_of_dollar_notMem hdollar

/-- A dump with a blank `SDKROOT` that contradicts the SDK in use. -/
def strangeDump : Settings :=
  .ofList [("SDKROOT", " "), ("PLATFORM_NAME", "iphoneos"), ("SDK_VERSION", "$(MAJOR).4"),
    ("MAJOR", "17")]

/-- A dump without `SDKROOT`. -/
def otherDump : Settings :=
  .ofList [("SDKROOT_PATH", ""), ("PROJECT_NAME", "Other")]

/-- An engine with a dump of another target. -/
def strangeEngine : Engine where
  preferences := {}
  home := ⟨"/home"⟩
  files := ⟨.directory [], []⟩
  sdks := xcodeSource
  loaded := Batch.add ∅ ⟨betaProject.path, "Other"⟩ strangeDump

theorem sdkIdentity_of_dumps_strange :
    (∃ settings settings',
      (plainOptions.withLoaded strangeDump).synthesize betaProject "App" xcodeSource =
        .ok settings ∧
      (plainOptions.withLoaded otherDump).synthesize betaProject "App" xcodeSource =
        .ok settings' ∧
      ∀ key ∈ sdkIdentityKeys, settings.get? key = settings'.get? key) ∧
    strangeEngine.targetSettings betaProject "App" =
      strangeEngine.bare.targetSettings betaProject "App" := by
  constructor
  · have hagree : Settings.filled? strangeDump "SDKROOT" =
        Settings.filled? otherDump "SDKROOT" := by
      decide
    obtain ⟨settings, hsettings⟩ : ∃ settings, (plainOptions.withLoaded strangeDump).synthesize
        betaProject "App" xcodeSource = .ok settings :=
      SynthesisOptions.exists_synthesize rfl rfl
    rcases sdkIdentity_of_dumps.1 plainOptions betaProject "App" xcodeSource strangeDump otherDump
      hagree with ⟨e, herror, -⟩ | ⟨target, platform, s, s', htarget, hplatform, hs, hs', hequal⟩
    · rw [hsettings] at herror
      cases herror
    · obtain rfl : betaTarget = target := Option.some.inj htarget
      -- a blank root in the dump leaves the choice to the layers
      have hrequest : (plainOptions.withLoaded strangeDump).platformRequest betaProject betaTarget =
          plainOptions.platformRequest betaProject betaTarget :=
        SynthesisOptions.platformRequest_congr (by decide)
      exact ⟨s, s', hs, hs', hequal (identityClosed_beta (hrequest ▸ hplatform))⟩
  · exact (sdkIdentity_of_dumps.2 strangeEngine betaProject "App" (by decide)).1

end BuildSettings
