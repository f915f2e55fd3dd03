import BuildSettings.Proofs.Setting.Layers
import BuildSettings.Proofs.Setting.Rounds
import BuildSettings.Synthesis

/-!
# Settings of a target before the expansion

`SynthesisOptions.synthesize` folds the layers, lays the dump over them, expands and derives a few
settings in the end. `SynthesisOptions.folded` is what is expanded (`synthesize_eq_ok_iff`), and
`finish` touches three settings only (`get?_finish_of_ne`).

* `get?_folded_of_defaults` — a setting that nobody has written has there the value that the
  environment of the project, the platform or the built-in defaults give it.
* `contains_folded` — the settings of the request and of the environment are always there.
-/

namespace BuildSettings

open Setting

variable {options : SynthesisOptions} {project : Project} {target : Target} {source : SdkSource}
  {platform settings : Settings} {targetName key value : String}

/-! ### What is derived last -/

/-- A path of the SDK, unless it is empty, becomes its root. -/
theorem get?_withSdkPath (settings : Settings) (key : String) :
    (withSdkPath settings).get? key =
      if key = "SDKROOT" then
        ((settings.get? "SDKROOT_PATH").filter fun path => !path.isEmpty).or (settings.get? key)
      else settings.get? key := by
  unfold withSdkPath
  cases (settings.get? "SDKROOT_PATH").filter fun path => !path.isEmpty with
  | some path => exact Dictionary.get?_insert settings "SDKROOT" key path
  | none => rw [Option.none_or, ite_self]

/-- The frame of the first derived setting: it is `SDKROOT` that gets the path of the SDK. -/
theorem get?_withSdkPath_of_ne (h : key ≠ "SDKROOT") :
    (withSdkPath settings).get? key = settings.get? key := by
  rw [get?_withSdkPath, if_neg h]

/-- The frame of the other two, the architecture and the target triple. -/
theorem get?_withArch_of_ne (htriple : key ≠ "TARGET_TRIPLE") (harch : key ≠ "CURRENT_ARCH") :
    (withArch settings).get? key = settings.get? key := by
  unfold withArch
  simp only
  split
  next => rfl
  next =>
    rw [Dictionary.get?_insert_of_ne _ _ harch]
    split
    next triple _ => exact Dictionary.get?_insert_of_ne settings triple htriple
    next => rfl

/-- The last step leaves all settings alone but the root of the SDK, the target triple and the
architecture. -/
theorem get?_finish_of_ne (hroot : key ≠ "SDKROOT") (htriple : key ≠ "TARGET_TRIPLE")
    (harch : key ≠ "CURRENT_ARCH") : (finish settings).get? key = settings.get? key := by
  rw [finish, get?_withArch_of_ne htriple harch, get?_withSdkPath_of_ne hroot]

/-- The last step takes no setting away. It writes the three derived settings and nothing else. -/
theorem contains_finish (h : settings.contains key = true) :
    (finish settings).contains key = true := by
  -- only `insert` is used, which takes nothing away
  have hinsert : ∀ {m : Settings}, m.contains key = true → ∀ name value,
      (m.insert name value).contains key = true :=
    fun hm _ _ => contains_insert.2 (.inr hm)
  have hsdk : (withSdkPath settings).contains key = true := by
    unfold withSdkPath
    split
    next => exact hinsert h _ _
    next => exact h
  unfold finish withArch
  simp only
  split
  next => exact hsdk
  next =>
    refine hinsert ?_ _ _
    split
    next => exact hinsert hsdk _ _
    next => exact hsdk

/-! ### What is expanded -/

/-- A request names the configuration and the target. -/
theorem contains_requestLayer {configuration : String}
    (h : key ∈ ["CONFIGURATION", "TARGET_NAME"]) :
    (requestLayer target configuration).contains key = true := by
  simp only [List.mem_cons, List.not_mem_nil, or_false] at h
  rw [Dictionary.contains, requestLayer, Dictionary.get?_ofList]
  cases target.productType with
  | none => rcases h with rfl | rfl <;> rfl
  | some t => rcases h with rfl | rfl <;> rfl

/-- It says nothing else, but for the type of the product. -/
theorem get?_requestLayer_of_notMem {configuration : String}
    (h : key ∉ ["CONFIGURATION", "TARGET_NAME", "PRODUCT_TYPE"]) :
    (requestLayer target configuration).get? key = none := by
  simp only [List.mem_cons, List.not_mem_nil, or_false, not_or] at h
  obtain ⟨hconfiguration, hname, htype⟩ := h
  rw [requestLayer, Dictionary.get?_ofList]
  cases target.productType with
  | none => simp [Dictionary.lookup_cons_eq, hconfiguration, hname]
  | some t => simp [Dictionary.lookup_cons_eq, hconfiguration, hname, htype]

/-- The names of the settings about a project and its directories. -/
def environmentKeys : List String :=
  ["PROJECT", "PROJECT_NAME", "PROJECT_GUID", "PROJECT_FILE_PATH", "PROJECT_DIR", "SRCROOT",
    "PRODUCT_NAME", "PRODUCT_MODULE_NAME", "SYMROOT", "OBJROOT", "CONFIGURATION_BUILD_DIR",
    "CONFIGURATION_TEMP_DIR", "TARGET_TEMP_DIR", "TOOLCHAIN_DIR"]

/-- The environment of a project says nothing about other settings. -/
theorem get?_environment_of_notMem {derivedData : Path} {installation : Option Installation}
    (h : key ∉ environmentKeys) :
    (environment project derivedData installation).get? key = none := by
  simp only [environmentKeys, List.mem_cons, List.not_mem_nil, or_false, not_or] at h
  rw [environment, Dictionary.get?_ofList]
  cases installation <;> simp [Dictionary.lookup_cons_eq, h]

/-- A dump replaces what was folded, unless the setting tells the SDK in use. -/
theorem get?_overlayLoaded (merged loaded : Settings) (key : String) :
    (overlayLoaded merged loaded).get? key =
      (if key ∈ sdkIdentityKeys then none else loaded.get? key).or (merged.get? key) := by
  rw [overlayLoaded, Dictionary.get?_extend, Dictionary.get?_filter]
  congr 1
  cases loaded.get? key with
  | none => simp
  | some value => by_cases hkey : key ∈ sdkIdentityKeys <;> simp [hkey]

theorem get?_overlayLoaded_of_none {merged loaded : Settings} (h : loaded.get? key = none) :
    (overlayLoaded merged loaded).get? key = merged.get? key := by
  rw [get?_overlayLoaded, h, ite_self, Option.none_or]

/-- A dump takes no setting away. -/
theorem contains_overlayLoaded {merged loaded : Settings} (h : merged.contains key = true) :
    (overlayLoaded merged loaded).contains key = true := by
  rw [Dictionary.contains] at h ⊢
  rw [overlayLoaded, Dictionary.get?_extend, Option.isSome_or, h, Bool.or_true]

namespace SynthesisOptions

/-- All layers of a target, the platform's among the defaults, before the dump is laid over them. -/
def layered (options : SynthesisOptions) (project : Project) (target : Target) (source : SdkSource)
    (platform : Settings) : Settings :=
  (options.layers project target (options.defaults project source platform)).merged

/-- The settings that are expanded: all layers, with the dump over them. -/
def folded (options : SynthesisOptions) (project : Project) (target : Target) (source : SdkSource)
    (platform : Settings) : Settings :=
  overlayLoaded (options.layers project target (options.defaults project source platform)).merged
    options.loaded

/-- The same options with another dump. -/
def withLoaded (options : SynthesisOptions) (loaded : Settings) : SynthesisOptions :=
  { options with loaded }

/-- The settings that somebody wrote for a target: its configurations, those of the project, the
custom defaults and the dump. -/
def written (options : SynthesisOptions) (project : Project) (target : Target) : List Settings :=
  Configuration.named target.configurations options.configuration ++
    Configuration.named project.configurations options.configuration ++
    [options.customDefaults, options.loaded]

theorem forall_mem_written {P : Settings → Prop} :
    (∀ layer ∈ options.written project target, P layer) ↔
      (∀ layer ∈ Configuration.named target.configurations options.configuration, P layer) ∧
      (∀ layer ∈ Configuration.named project.configurations options.configuration, P layer) ∧
      P options.customDefaults ∧ P options.loaded := by
  simp only [written, List.forall_mem_append, List.forall_mem_cons, List.not_mem_nil,
    false_imp_iff, implies_true, and_true, and_assoc]

/-- A target that there is not has no settings. -/
theorem synthesize_of_none (htarget : project.target? targetName = none) :
    options.synthesize project targetName source =
      .error (.targetNotFound targetName project.path) := by
  rw [synthesize, htarget]

/-- A target without a platform has no settings. -/
theorem synthesize_of_error {e : InvalidSdk} (htarget : project.target? targetName = some target)
    (hplatform : (options.platformRequest project target).settings source = .error e) :
    options.synthesize project targetName source = .error (.invalidSdk e) := by
  rw [synthesize, htarget]
  simp only [hplatform]

/-- A target with a platform has the expanded settings with what is derived from them. -/
theorem synthesize_of_ok (htarget : project.target? targetName = some target)
    (hplatform : (options.platformRequest project target).settings source = .ok platform) :
    options.synthesize project targetName source =
      .ok (finish (expandReferences (options.folded project target source platform))) := by
  rw [synthesize, htarget]
  simp only [hplatform]
  rfl

/-- A target that there is has settings exactly if there is a platform for it, and then they are
the expanded ones with what is derived from them. -/
theorem synthesize_eq_ok_iff : options.synthesize project targetName source = .ok settings ↔
    ∃ target platform, project.target? targetName = some target ∧
      (options.platformRequest project target).settings source = .ok platform ∧
      finish (expandReferences (options.folded project target source platform)) = settings := by
  constructor
  · intro h
    unfold synthesize at h
    split at h
    next => cases h
    next target htarget =>
      split at h
      next => cases h
      next platform hplatform => exact ⟨target, platform, htarget, hplatform, Except.ok.inj h⟩
  · rintro ⟨target, platform, htarget, hplatform, rfl⟩
    exact synthesize_of_ok htarget hplatform

/-- The platform is the only thing that can fail for a target that is there: once it is found, there
are settings. -/
theorem exists_synthesize (htarget : project.target? targetName = some target)
    (hplatform : (options.platformRequest project target).settings source = .ok platform) :
    ∃ settings, options.synthesize project targetName source = .ok settings :=
  ⟨_, synthesize_eq_ok_iff.2 ⟨target, platform, htarget, hplatform, rfl⟩⟩

/-- A setting that the dump does not have is folded over the layers. -/
theorem get?_folded_of_none (hloaded : options.loaded.get? key = none) :
    (options.folded project target source platform).get? key =
      (options.layers project target (options.defaults project source platform)).resolve key := by
  rw [folded, get?_overlayLoaded_of_none hloaded, Layers.get?_merged]

/-- A setting that tells the SDK in use is folded over the layers, whatever the dump says. -/
theorem get?_folded_of_identity (hkey : key ∈ sdkIdentityKeys) :
    (options.folded project target source platform).get? key =
      (options.layered project target source platform).get? key := by
  rw [folded, get?_overlayLoaded, if_pos hkey, Option.none_or, layered]

/-- The custom defaults lie over the environment of the project, and that over the platform. -/
theorem get?_defaults (options : SynthesisOptions) (project : Project) (source : SdkSource)
    (platform : Settings) (key : String) :
    (options.defaults project source platform).get? key = (options.customDefaults.get? key).or
      (((environment project options.derivedData source.installation).get? key).or
        (platform.get? key)) := by
  rw [defaults, Dictionary.get?_extend, Dictionary.get?_extend]

/-- The values of all layers, where the defaults are looked up one after the other. With this the
values for a single key can be computed without merging the defaults. -/
theorem values_defaults (options : SynthesisOptions) (project : Project) (target : Target)
    (source : SdkSource) (platform : Settings) (key : String) :
    (options.layers project target (options.defaults project source platform)).values key =
      [(false, builtinDefault? key),
        (false, (options.customDefaults.get? key).or
          (((environment project options.derivedData source.installation).get? key).or
            (platform.get? key))),
        (true, chosen? (Configuration.named project.configurations options.configuration) key),
        (true, chosen? (Configuration.named target.configurations options.configuration) key),
        (true, (requestLayer target options.configuration).get? key)] := by
  rw [← get?_defaults]
  rfl

/-- The environment stands over the platform and under the custom defaults. -/
theorem get?_defaults_of_environment
    (henvironment : (environment project options.derivedData source.installation).get? key =
      some value) (hcustom : options.customDefaults.get? key = none) :
    (options.defaults project source platform).get? key = some value := by
  rw [get?_defaults, hcustom, Option.none_or, henvironment, Option.some_or]

/-- A setting that nobody wrote is that of the project's environment, of the platform or of the
built-in defaults, as it is, unless it has the inherit macro. -/
theorem get?_folded_of_defaults
    (hrequest : (requestLayer target options.configuration).get? key = none)
    (hunwritten : ∀ layer ∈ options.written project target, layer.get? key = none)
    (hplain : ∀ value ∈ ((environment project options.derivedData source.installation).get? key).or
      ((platform.get? key).or (builtinDefault? key)), hasInherited value = false) :
    (options.folded project target source platform).get? key =
      ((environment project options.derivedData source.installation).get? key).or
        ((platform.get? key).or (builtinDefault? key)) := by
  obtain ⟨htarget, hproject, hcustom, hloaded⟩ := forall_mem_written.1 hunwritten
  have hdefaults : ((options.defaults project source platform).get? key).or (builtinDefault? key) =
      ((environment project options.derivedData source.installation).get? key).or
        ((platform.get? key).or (builtinDefault? key)) := by
    rw [get?_defaults, hcustom, Option.none_or, Option.or_assoc]
  rw [get?_folded_of_none hloaded, ← hdefaults]
  refine Layers.resolve_of_defaults hproject htarget hrequest ?_
  rw [← hdefaults] at hplain
  exact hplain

/-- A setting that nobody wrote has the value of the project's environment. -/
theorem get?_folded_of_unwritten (hbuiltin : builtinDefault? key = none)
    (hrequest : (requestLayer target options.configuration).get? key = none)
    (henvironment : (environment project options.derivedData source.installation).get? key =
      some value) (hplain : hasInherited value = false)
    (hunwritten : ∀ layer ∈ options.written project target, layer.get? key = none) :
    (options.folded project target source platform).get? key = some value := by
  obtain ⟨htarget, hproject, hcustom, hloaded⟩ := forall_mem_written.1 hunwritten
  have hdefaults : (options.defaults project source platform).get? key = some value :=
    get?_defaults_of_environment henvironment hcustom
  rw [get?_folded_of_none hloaded]
  exact Layers.resolve_of_custom hbuiltin hdefaults hplain hproject htarget hrequest

/-- What the request or the environment of the project gives is among the settings, so a template
that names it finds it. -/
theorem contains_folded
    (h : (requestLayer target options.configuration).contains key = true ∨
      (environment project options.derivedData source.installation).contains key = true) :
    (options.folded project target source platform).contains key = true := by
  refine contains_overlayLoaded ?_
  rcases h with hrequest | henvironment
  · exact Layers.contains_merged_of_request hrequest
  · refine Layers.contains_merged_of_custom ?_
    show (options.defaults project source platform).contains key = true
    obtain ⟨value, hvalue⟩ := Dictionary.contains_iff.1 henvironment
    rw [Dictionary.contains, get?_defaults, hvalue]
    cases options.customDefaults.get? key <;> rfl

end SynthesisOptions

end BuildSettings
