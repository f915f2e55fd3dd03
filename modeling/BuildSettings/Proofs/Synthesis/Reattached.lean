import BuildSettings.Proofs.Platform.Variant
import BuildSettings.Proofs.Setting.Tidy
import BuildSettings.Proofs.Synthesis.Expanded
import BuildSettings.Proofs.Synthesis.SdkIdentity

/-!
# Settings attached again

The settings of a target are themselves a dump of it. Attached again they should change nothing,
though the second run has them from elsewhere: the SDK is chosen by its path instead of its name,
and all settings but those about the SDK come from the dump instead of the layers.

* `platformRequest_reattached` — the path leads to the platform of the first run, if it names the
  variant.
* `get?_folded_reattached` — the second run expands what the first one has handed out, apart from
  the identity of the SDK.
* `withArch_of_derived`, `archDerived_withArch` — what is derived last is derived again from the
  result, so it stays.
* `synthesize_reattached` — so the result is the same, if it has no references and its root leads to
  its platform.
-/

namespace BuildSettings

open Setting

variable {options : SynthesisOptions} {project : Project} {target : Target}
  {targetName key : String} {source : SdkSource} {platform settings other : Settings}

/-! ### What is derived last -/

/-- The architecture is chosen from two settings. -/
theorem currentArch_congr (harchs : settings.get? "ARCHS" = other.get? "ARCHS")
    (hnative : settings.get? "NATIVE_ARCH" = other.get? "NATIVE_ARCH") :
    currentArch settings = currentArch other := by
  rw [currentArch, currentArch, Settings.list, Settings.list, harchs, hnative]

/-- The triple is put together from three settings and the architecture. -/
theorem targetTriple?_congr {arch : String}
    (h : ∀ key ∈ ["LLVM_TARGET_TRIPLE_OS_VERSION", "LLVM_TARGET_TRIPLE_VENDOR",
      "LLVM_TARGET_TRIPLE_SUFFIX"], settings.get? key = other.get? key) :
    targetTriple? settings arch = targetTriple? other arch := by
  rw [targetTriple?, targetTriple?, h _ (by simp), h _ (by simp), h _ (by simp)]

/-- The settings have the architecture and the target triple that are derived from them. -/
def ArchDerived (settings : Settings) : Prop :=
  (currentArch settings).isEmpty = false →
    settings.get? "CURRENT_ARCH" = some (currentArch settings) ∧
      ∀ triple ∈ targetTriple? settings (currentArch settings),
        settings.get? "TARGET_TRIPLE" = some triple

/-- Deriving again what is derived already changes nothing. -/
theorem withArch_of_derived (h : ArchDerived settings) : withArch settings = settings := by
  unfold withArch
  simp only
  split
  next => rfl
  next hempty =>
    obtain ⟨harch, htriple⟩ := h (Bool.eq_false_iff.2 hempty)
    split
    next triple heq => rw [Dictionary.insert_eq_self (htriple triple heq),
        Dictionary.insert_eq_self harch]
    next => exact Dictionary.insert_eq_self harch

/-- What is derived is derived from settings that the derivation leaves as they are, so the result
has what would be derived from it. -/
theorem archDerived_withArch (settings : Settings) : ArchDerived (withArch settings) := by
  have hkeep : ∀ key ∈ ["ARCHS", "NATIVE_ARCH", "LLVM_TARGET_TRIPLE_OS_VERSION",
      "LLVM_TARGET_TRIPLE_VENDOR", "LLVM_TARGET_TRIPLE_SUFFIX"],
      (withArch settings).get? key = settings.get? key := by
    have hne : ∀ key ∈ ["ARCHS", "NATIVE_ARCH", "LLVM_TARGET_TRIPLE_OS_VERSION",
        "LLVM_TARGET_TRIPLE_VENDOR", "LLVM_TARGET_TRIPLE_SUFFIX"],
        key ≠ "TARGET_TRIPLE" ∧ key ≠ "CURRENT_ARCH" := by
      decide
    exact fun key hkey => get?_withArch_of_ne (hne key hkey).1 (hne key hkey).2
  -- so the second derivation meets what the first one met
  have harch : currentArch (withArch settings) = currentArch settings :=
    currentArch_congr (hkeep _ (by simp)) (hkeep _ (by simp))
  have htriple : ∀ arch, targetTriple? (withArch settings) arch = targetTriple? settings arch :=
    fun arch => targetTriple?_congr fun key hkey =>
      hkeep key (List.mem_cons_of_mem _ (List.mem_cons_of_mem _ hkey))
  intro hempty
  rw [harch] at hempty ⊢
  rw [htriple]
  unfold withArch
  simp only [hempty, Bool.false_eq_true, if_false]
  refine ⟨Dictionary.get?_insert_self .., fun triple heq => ?_⟩
  rw [Option.mem_def] at heq
  rw [heq, Dictionary.get?_insert_of_ne _ _ (by decide)]
  exact Dictionary.get?_insert_self ..

/-! ### The second run -/

/-- The environment does not name a platform, so the platform itself does. -/
theorem get?_environment_platformName (options : SynthesisOptions) (project : Project)
    (source : SdkSource) :
    (environment project options.derivedData source.installation).get? "PLATFORM_NAME" = none :=
  get?_environment_of_notMem (by decide)

/-- The layers name the variant that was chosen, if nobody writes its name: neither the request nor
the environment has it, and the built-in default stands below the platform. -/
theorem get?_layered_platformName
    (hplatform : (options.platformRequest project target).settings source = .ok platform)
    (hunwritten : ∀ layer ∈ (options.withLoaded ∅).written project target,
      layer.get? "PLATFORM_NAME" = none) :
    (options.layered project target source platform).get? "PLATFORM_NAME" =
      platform.get? "PLATFORM_NAME" := by
  obtain ⟨family, hfind, hname⟩ := PlatformRequest.settings_eq_ok hplatform
  obtain ⟨hfamily, -⟩ := PlatformFamily.exists_variant_of_find? hfind
  have hidentity : "PLATFORM_NAME" ∈ sdkIdentityKeys := by simp [sdkIdentityKeys]
  -- among the sources nobody but the platform has a name for it
  have hdecided : (options.withLoaded ∅).decided? project target source platform "PLATFORM_NAME" =
      platform.get? "PLATFORM_NAME" := by
    rw [SynthesisOptions.decided?_of_unwritten (get?_requestLayer_of_notMem (by decide)) hunwritten,
      get?_environment_platformName, hname]
    rfl
  have hplain : ∀ value ∈ (options.withLoaded ∅).decided? project target source platform
      "PLATFORM_NAME", hasInherited value = false := by
    intro value hvalue
    rw [hdecided, hname] at hvalue
    obtain rfl := Option.some.inj hvalue
    -- the name of a variant has no dollar sign, so no macro
    have hdollar := PlatformFamily.dollar_notMem_variant family hfamily
    exact hasInherited_of_closed (closed_of_dollar_notMem (hdollar _))
  have hfolded := SynthesisOptions.get?_folded_of_scalar (by decide) hplain
  rw [SynthesisOptions.get?_folded_of_identity hidentity, hdecided] at hfolded
  exact hfolded

/-- What the layers have is among the settings in the end. -/
theorem contains_of_layered
    (h : finish (expandReferences (options.folded project target source platform)) = settings)
    (hkey : (options.layered project target source platform).contains key = true) :
    settings.contains key = true :=
  h ▸ contains_finish (contains_expandReferences.2 (contains_overlayLoaded hkey))

/-- The second run expands what the first one has handed out, apart from the identity of the SDK,
which is the layers' alone. -/
theorem get?_folded_reattached
    (h : finish (expandReferences (options.folded project target source platform)) = settings)
    (key : String) :
    ((options.withLoaded settings).folded project target source platform).get? key =
      if key ∈ sdkIdentityKeys then (options.layered project target source platform).get? key
      else settings.get? key := by
  split
  next hkey => exact SynthesisOptions.get?_folded_of_identity hkey
  next hkey =>
    rw [SynthesisOptions.folded, get?_overlayLoaded, if_neg hkey]
    show (settings.get? key).or ((options.layered project target source platform).get? key) = _
    cases hsettings : settings.get? key with
    | some value => rfl
    | none =>
      -- the layers do not have it either
      rw [Option.none_or, ← Dictionary.contains_eq_false_iff, Bool.eq_false_iff]
      intro hlayered
      have hcontains := contains_of_layered h hlayered
      rw [Dictionary.contains, hsettings] at hcontains
      cases hcontains

/-- The second run has the platform of the first, if the root of the SDK leads to its variant: the
dump's root stands for the name that the layers gave. -/
theorem platformRequest_reattached
    (hplatform : (options.platformRequest project target).settings source = .ok platform)
    {root : String} (hroot : settings.get? "SDKROOT" = some root)
    (hname : platform.get? "PLATFORM_NAME" = some (variantName root)) :
    ((options.withLoaded settings).platformRequest project target).settings source =
      .ok platform := by
  obtain ⟨family, hfind, hvariant⟩ := PlatformRequest.settings_eq_ok hplatform
  obtain ⟨hfamily, -⟩ := PlatformFamily.exists_variant_of_find? hfind
  have hfilled : Settings.filled? settings "SDKROOT" = some root := by
    have hrootName := Option.some.inj (hname.symm.trans hvariant)
    exact filled?_of_find? hroot (hrootName ▸ PlatformFamily.find?_variant family hfamily _)
  have hsdk : (options.withLoaded settings).sdkName project target = root := by
    rw [SynthesisOptions.sdkName]
    simp only [SynthesisOptions.withLoaded, hfilled]
  have hagain := PlatformRequest.settings_of_platformName hplatform hname
  rw [SynthesisOptions.platformRequest, hsdk]
  exact hagain

/-- The result of the second run is that of the first. Nothing is left to expand, and what is
derived last is there already. -/
theorem finish_reattached
    (h : finish (expandReferences (options.folded project target source platform)) = settings)
    (hclosed : ∀ key value, settings.get? key = some value → hasReference value = false)
    (hidentity : options.IdentityClosed project target source platform) :
    finish (expandReferences ((options.withLoaded settings).folded project target source
      platform)) = settings := by
  have hfolded := get?_folded_reattached h
  have hexpand : expandReferences ((options.withLoaded settings).folded project target source
      platform) = (options.withLoaded settings).folded project target source platform := by
    refine expandReferences_of_closed fun key value hget => ?_
    rw [hfolded] at hget
    split at hget
    next hkey => exact hidentity key hkey value hget
    next => exact hclosed key value hget
  -- the two maps agree key by key, on the identity of the SDK as the layers have it
  have hsdk : withSdkPath ((options.withLoaded settings).folded project target source platform) =
      settings := by
    refine Dictionary.ext_get? fun key => ?_
    by_cases hkey : key ∈ sdkIdentityKeys
    · have hpath : "SDKROOT_PATH" ∈ sdkIdentityKeys := by simp [sdkIdentityKeys]
      rw [get?_withSdkPath, hfolded, hfolded, if_pos hkey, if_pos hpath, ← get?_withSdkPath,
        ← get?_finish_of_identity hidentity hkey, h]
    · have hne : key ≠ "SDKROOT" := by
        rintro rfl
        exact hkey (by simp [sdkIdentityKeys])
      rw [get?_withSdkPath_of_ne hne, hfolded, if_neg hkey]
  rw [hexpand, finish, hsdk]
  refine withArch_of_derived ?_
  rw [← h]
  exact archDerived_withArch _

/-- The settings of a target attached as a dump of it are its settings again, if they and the folded
identity of the SDK have no references and the root leads to the platform, whose name nobody
writes. -/
theorem synthesize_reattached (h : options.synthesize project targetName source = .ok settings) :
    ∃ target platform, project.target? targetName = some target ∧
      (options.platformRequest project target).settings source = .ok platform ∧
      ((∀ key value, settings.get? key = some value → hasReference value = false) →
        options.IdentityClosed project target source platform →
        (settings.get? "SDKROOT").map variantName = settings.get? "PLATFORM_NAME" →
        (∀ layer ∈ (options.withLoaded ∅).written project target,
          layer.get? "PLATFORM_NAME" = none) →
        (options.withLoaded settings).synthesize project targetName source = .ok settings) := by
  obtain ⟨target, platform, htarget, hplatform, hfinal⟩ := SynthesisOptions.synthesize_eq_ok_iff.1 h
  refine ⟨target, platform, htarget, hplatform, ?_⟩
  intro hclosed hidentity hvariant hunwritten
  have hname : settings.get? "PLATFORM_NAME" = platform.get? "PLATFORM_NAME" := by
    have hkey : "PLATFORM_NAME" ∈ sdkIdentityKeys := by simp [sdkIdentityKeys]
    rw [← hfinal, get?_finish_of_identity hidentity hkey, get?_withSdkPath_of_ne (by decide)]
    exact get?_layered_platformName hplatform hunwritten
  obtain ⟨family, -, hfamily⟩ := PlatformRequest.settings_eq_ok hplatform
  obtain ⟨root, hroot, hrootName⟩ : ∃ root, settings.get? "SDKROOT" = some root ∧
      variantName root = family.variant ((options.platformRequest project target).wantsSimulator
        family) :=
    Option.map_eq_some_iff.1 (hvariant.trans (hname.trans hfamily))
  rw [← hrootName] at hfamily
  have hplatform' := platformRequest_reattached hplatform hroot hfamily
  rw [SynthesisOptions.synthesize_of_ok htarget hplatform',
    finish_reattached hfinal hclosed hidentity]

/-! ### Tidy layers -/

/-- If all layers of a target are tidy, then nothing that is derived from them has a dollar sign, so
the condition on references need not be computed. -/
theorem plain_finish_of_tidy
    (h : ∀ layer ∈ requestLayer target options.configuration ::
      environment project options.derivedData source.installation :: platform ::
        options.written project target, Tidy layer) :
    Plain (finish (expandReferences (options.folded project target source platform))) := by
  have hdefaults : Tidy (options.defaults project source platform) :=
    ((h platform (by simp)).extend (h _ (by simp))).extend
      (h options.customDefaults (by simp [SynthesisOptions.written]))
  have hlayers : ∀ layer ∈ (options.layers project target
      (options.defaults project source platform)).request :: options.defaults project source
        platform :: (Configuration.named target.configurations options.configuration ++
          Configuration.named project.configurations options.configuration), Tidy layer := by
    intro layer hlayer
    simp only [List.mem_cons, List.mem_append] at hlayer
    rcases hlayer with rfl | rfl | hlayer
    · exact h _ (List.mem_cons_self ..)
    · exact hdefaults
    · exact h layer (by simp only [SynthesisOptions.written, List.mem_cons, List.mem_append]; tauto)
  have hfolded : ∀ key value, (options.folded project target source platform).get? key =
      some value → DollarsRefer value.toList := by
    intro key value hget
    rw [SynthesisOptions.folded, get?_overlayLoaded] at hget
    -- a value is that of the dump or that of the layers
    rcases Option.or_eq_some_iff.1 hget with hloaded | ⟨-, hmerged⟩
    · split at hloaded
      next => cases hloaded
      next => exact ((h options.loaded (by simp [SynthesisOptions.written])).of_get? hloaded).2
    · exact Layers.dollarsRefer_merged hlayers hmerged
  refine Plain.finish fun key value hget => ?_
  have hconfined : Confined _ (Reaches _ key) :=
    confined_reaches fun a raw _ hraw => hfolded a raw hraw
  exact expandReferences_plain hconfined key value hget .refl

theorem synthesize_reattached_beta :
    ∃ settings, plainOptions.synthesize betaProject "App" xcodeSource = .ok settings ∧
      (plainOptions.withLoaded settings).synthesize betaProject "App" xcodeSource =
        .ok settings := by
  obtain ⟨settings, hsettings⟩ : ∃ settings,
      plainOptions.synthesize betaProject "App" xcodeSource = .ok settings :=
    SynthesisOptions.exists_synthesize rfl rfl
  obtain ⟨target, platform, htarget, hplatform, hagain⟩ := synthesize_reattached hsettings
  obtain rfl : betaTarget = target := Option.some.inj htarget
  have hidentity := identityClosed_beta hplatform
  have htidy : ∀ platform ∈ ((plainOptions.platformRequest betaProject betaTarget).settings
      xcodeSource).toOption, ∀ layer ∈ requestLayer betaTarget plainOptions.configuration ::
      environment betaProject plainOptions.derivedData xcodeSource.installation :: platform ::
        plainOptions.written betaProject betaTarget, Tidy layer := by
    decide
  rw [hplatform] at htidy
  have hunwritten : ∀ layer ∈ (plainOptions.withLoaded ∅).written betaProject betaTarget,
      layer.get? "PLATFORM_NAME" = none := by
    decide
  have hfinal := Except.ok.inj
    (hsettings.symm.trans (SynthesisOptions.synthesize_of_ok htarget hplatform))
  -- the path of the SDK is read as the name of the variant
  have hvariant : (settings.get? "SDKROOT").map variantName = settings.get? "PLATFORM_NAME" := by
    have hsdk := layered_beta hplatform
    have hpath := hsdk ("SDKROOT_PATH", "/Xcode/MacOSX14.2.sdk") (by simp [betaSdk])
    have hname := hsdk ("PLATFORM_NAME", "macosx") (by simp [betaSdk])
    rw [hfinal, get?_finish_of_identity hidentity (by simp [sdkIdentityKeys]),
      get?_finish_of_identity hidentity (by simp [sdkIdentityKeys]), get?_withSdkPath, hpath,
      get?_withSdkPath_of_ne (by decide), hname]
    show some (variantName "/Xcode/MacOSX14.2.sdk") = some "macosx"
    decide
  refine ⟨settings, hsettings, hagain (fun key value hget => ?_) hidentity hvariant hunwritten⟩
  rw [hfinal] at hget
  exact closed_of_dollar_notMem (plain_finish_of_tidy (htidy platform rfl) key value hget)

end BuildSettings
