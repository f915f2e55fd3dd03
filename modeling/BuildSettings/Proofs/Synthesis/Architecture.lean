import BuildSettings.Proofs.Platform.Coherence
import BuildSettings.Proofs.Synthesis.Reattached

/-!
# The architecture and the target triple

The architecture that a target is built for is chosen from the final settings, and the target triple
is put together from it and from other final settings. Neither can be written down anywhere: what
the layers or a dump have for them is replaced (`ArchDerived`).

* `currentArch_eq`, `currentArch_mem` — the choice among the architectures of the list.
* `exists_synthesized` — what the platform has is there in the end, with some value.
* `synthesize_architecture` — the architecture and the target triple of a target.
-/

namespace BuildSettings

open Setting

variable {options : SynthesisOptions} {project : Project} {target : Target}
  {targetName key native archs : String} {source : SdkSource} {platform settings : Settings}

/-! ### What is derived -/

/-- The architecture of the machine is chosen if it is in the list, and else the first of the list,
if there is one. -/
theorem currentArch_eq (harchs : settings.get? "ARCHS" = some archs)
    (hnative : settings.get? "NATIVE_ARCH" = some native) :
    currentArch settings =
      if native ∈ Text.splitList archs then native
      else (Text.splitList archs).head?.getD native := by
  have hlist : Settings.list settings "ARCHS" = Text.splitList archs := by
    rw [Settings.list, harchs]
    rfl
  unfold currentArch
  simp only [hlist, hnative, Option.getD_some, List.contains_iff_mem]

/-- What is chosen from a list is one of it. -/
theorem currentArch_mem (harchs : settings.get? "ARCHS" = some archs)
    (hnative : settings.get? "NATIVE_ARCH" = some native) (hne : Text.splitList archs ≠ []) :
    currentArch settings ∈ Text.splitList archs := by
  rw [currentArch_eq harchs hnative]
  split
  next hmem => exact hmem
  next =>
    obtain ⟨first, rest, hlist⟩ := List.exists_cons_of_ne_nil hne
    rw [hlist]
    exact List.mem_cons_self ..

/-- There is an architecture unless the list is empty and the machine has none. -/
theorem currentArch_ne_empty (harchs : settings.get? "ARCHS" = some archs)
    (hnative : settings.get? "NATIVE_ARCH" = some native)
    (h : Text.splitList archs ≠ [] ∨ native ≠ "") : currentArch settings ≠ "" := by
  by_cases hempty : Text.splitList archs = []
  · rw [currentArch_eq harchs hnative, hempty]
    exact h.resolve_left fun hne => hne hempty
  · exact Text.ne_empty_of_mem_splitList (currentArch_mem harchs hnative hempty)

/-- The triple is the architecture, the vendor, the system and the suffix, where the system is not
empty. -/
theorem targetTriple?_eq {vendor os suffix : String}
    (hvendor : settings.get? "LLVM_TARGET_TRIPLE_VENDOR" = some vendor)
    (hos : settings.get? "LLVM_TARGET_TRIPLE_OS_VERSION" = some os)
    (hsuffix : settings.get? "LLVM_TARGET_TRIPLE_SUFFIX" = some suffix) (hne : os ≠ "")
    (arch : String) :
    targetTriple? settings arch = some (arch ++ "-" ++ vendor ++ "-" ++ os ++ suffix) := by
  have hfilled : (some os).filter (fun v => !v.isEmpty) = some os := by
    simp [Option.filter_some, hne]
  rw [targetTriple?, hvendor, hos, hsuffix, hfilled]
  rfl

/-! ### What it is derived from -/

/-- The settings that the architecture and the target triple are derived from. -/
def archKeys : List String :=
  ["ARCHS", "NATIVE_ARCH", "LLVM_TARGET_TRIPLE_VENDOR", "LLVM_TARGET_TRIPLE_OS_VERSION",
    "LLVM_TARGET_TRIPLE_SUFFIX"]

/-- Every platform has them. -/
theorem contains_platform {request : PlatformRequest} (h : request.settings source = .ok platform)
    (hkey : key ∈ archKeys) : platform.contains key = true := by
  obtain ⟨family, simulator, sdk, -, -, rfl⟩ := PlatformRequest.settings_eq_ok_iff.1 h
  rw [Dictionary.contains, PlatformRequest.describe, Dictionary.get?_ofList]
  simp only [archKeys, List.mem_cons, List.not_mem_nil, or_false] at hkey
  rcases hkey with rfl | rfl | rfl | rfl | rfl <;> rfl

/-- So every target has them, since no layer takes a setting away. -/
theorem exists_synthesized (h : options.synthesize project targetName source = .ok settings)
    (hkey : key ∈ archKeys) : ∃ value, settings.get? key = some value := by
  obtain ⟨target, platform, -, hplatform, hfinal⟩ := SynthesisOptions.synthesize_eq_ok_iff.1 h
  obtain ⟨value, hvalue⟩ := Dictionary.contains_iff.1 (contains_platform hplatform hkey)
  have hdefaults : (options.defaults project source platform).contains key = true := by
    rw [Dictionary.contains, SynthesisOptions.get?_defaults, hvalue, Option.isSome_or,
      Option.isSome_or, Option.isSome_some, Bool.or_true, Bool.or_true]
  have hlayered : (options.layered project target source platform).contains key = true :=
    Layers.contains_merged_of_custom hdefaults
  exact Dictionary.contains_iff.1 (contains_of_layered hfinal hlayered)

/-- **The architecture and the target triple** are derived from the final settings, whatever is
written down for them. The architecture is that of the machine where it is in the list of those to
build for, and else the first of the list; if the list is empty, then it is that of the machine, if
there is one. Wherever there is an architecture and a system, the triple is put together from it and
from the settings for its other parts. -/
theorem synthesize_architecture (h : options.synthesize project targetName source = .ok settings) :
    ∃ archs native vendor os suffix,
      (settings.get? "ARCHS" = some archs ∧ settings.get? "NATIVE_ARCH" = some native ∧
        settings.get? "LLVM_TARGET_TRIPLE_VENDOR" = some vendor ∧
        settings.get? "LLVM_TARGET_TRIPLE_OS_VERSION" = some os ∧
        settings.get? "LLVM_TARGET_TRIPLE_SUFFIX" = some suffix) ∧
      let list := Text.splitList archs
      list ≠ [] ∨ native ≠ "" → ∃ arch, settings.get? "CURRENT_ARCH" = some arch ∧
        (list ≠ [] → arch ∈ list ∧ (native ∈ list → arch = native) ∧
          (native ∉ list → list.head? = some arch)) ∧
        (list = [] → arch = native) ∧
        (os ≠ "" → settings.get? "TARGET_TRIPLE" =
          some (arch ++ "-" ++ vendor ++ "-" ++ os ++ suffix)) := by
  have hkeys : ∀ key ∈ archKeys, ∃ value, settings.get? key = some value :=
    fun key hkey => exists_synthesized h hkey
  simp only [archKeys, List.forall_mem_cons, List.not_mem_nil, false_imp_iff, implies_true,
    and_true] at hkeys
  obtain ⟨⟨archs, harchs⟩, ⟨native, hnative⟩, ⟨vendor, hvendor⟩, ⟨os, hos⟩, ⟨suffix, hsuffix⟩⟩ :=
    hkeys
  refine ⟨archs, native, vendor, os, suffix, ⟨harchs, hnative, hvendor, hos, hsuffix⟩, ?_⟩
  intro list hsome
  have hderived : ArchDerived settings := by
    obtain ⟨target, platform, -, -, rfl⟩ := SynthesisOptions.synthesize_eq_ok_iff.1 h
    exact archDerived_withArch _
  -- both are written into the settings only if there is an architecture
  have hne : (currentArch settings).isEmpty = false :=
    Bool.eq_false_iff.2 fun hempty =>
      currentArch_ne_empty harchs hnative hsome (String.isEmpty_iff.1 hempty)
  obtain ⟨harch, htriple⟩ := hderived hne
  have heq : currentArch settings = if native ∈ list then native else list.head?.getD native :=
    currentArch_eq harchs hnative
  refine ⟨currentArch settings, harch, fun hlist => ?_, fun hlist => ?_, fun hsystem => ?_⟩
  · refine ⟨currentArch_mem harchs hnative hlist, fun hmem => ?_, fun hmem => ?_⟩
    · rw [heq, if_pos hmem]
    · obtain ⟨first, rest, hcons⟩ := List.exists_cons_of_ne_nil hlist
      rw [heq, if_neg hmem, hcons]
      rfl
  · rw [heq, hlist]
    rfl
  · exact htriple _ (targetTriple?_eq hvendor hos hsuffix hsystem _)

/-! ### A dump that says otherwise -/

/-- What a dump has without references comes out, unless it tells the SDK or is derived. No layer
has a say about it. -/
theorem get?_finish_of_loaded {value : String} (hloaded : options.loaded.get? key = some value)
    (hkey : key ∉ "TARGET_TRIPLE" :: "CURRENT_ARCH" :: sdkIdentityKeys)
    (hclosed : hasReference value = false) :
    (finish (expandReferences (options.folded project target source platform))).get? key =
      some value := by
  simp only [List.mem_cons, not_or] at hkey
  obtain ⟨htriple, harch, hidentity⟩ := hkey
  have hroot : key ≠ "SDKROOT" := by
    rintro rfl
    exact hidentity (by simp [sdkIdentityKeys])
  -- the dump is laid over the layers, except for the SDK
  have hfolded : (options.folded project target source platform).get? key = some value := by
    rw [SynthesisOptions.folded, get?_overlayLoaded, if_neg hidentity, hloaded, Option.some_or]
  rw [get?_finish_of_ne hroot htriple harch]
  exact get?_expandReferences_of_closed hfolded hclosed

/-- A dump with an architecture in quotes, and with an architecture and a triple of its own. -/
def quotedDump : Settings :=
  .ofList [("ARCHS", " \"armv7 k\" arm64"), ("CURRENT_ARCH", "i386"), ("TARGET_TRIPLE", "unused"),
    ("LLVM_TARGET_TRIPLE_VENDOR", "acme"), ("LLVM_TARGET_TRIPLE_OS_VERSION", "macos13.0")]

theorem synthesize_architecture_quoted :
    ∃ settings,
      (plainOptions.withLoaded quotedDump).synthesize betaProject "App" xcodeSource = .ok settings ∧
      settings.get? "CURRENT_ARCH" = some "armv7 k" ∧
      settings.get? "TARGET_TRIPLE" = some "armv7 k-acme-macos13.0" := by
  obtain ⟨settings, hsettings⟩ : ∃ settings,
      (plainOptions.withLoaded quotedDump).synthesize betaProject "App" xcodeSource = .ok settings :=
    SynthesisOptions.exists_synthesize rfl rfl
  obtain ⟨target, platform, htarget, hplatform, hfinal⟩ :=
    SynthesisOptions.synthesize_eq_ok_iff.1 hsettings
  obtain rfl : betaTarget = target := Option.some.inj htarget
  have hidentity : (plainOptions.withLoaded quotedDump).IdentityClosed betaProject betaTarget
      xcodeSource platform := identityClosed_beta hplatform
  -- three of the parts are those of the dump, two are those of the platform
  have hdump : settings.get? "ARCHS" = some " \"armv7 k\" arm64" ∧
      settings.get? "LLVM_TARGET_TRIPLE_VENDOR" = some "acme" ∧
      settings.get? "LLVM_TARGET_TRIPLE_OS_VERSION" = some "macos13.0" := by
    rw [← hfinal]
    exact ⟨get?_finish_of_loaded rfl (by decide) (by decide),
      get?_finish_of_loaded rfl (by decide) (by decide),
      get?_finish_of_loaded rfl (by decide) (by decide)⟩
  have hplatformPart : ∀ e ∈ betaSdk, e.1 ∈ sdkIdentityKeys → e.1 ≠ "SDKROOT" →
      settings.get? e.1 = some e.2 := by
    intro e hsdk hkey hroot
    rw [← hfinal, get?_finish_of_identity hidentity hkey, get?_withSdkPath_of_ne hroot]
    exact layered_beta hplatform e hsdk
  have hmachine := hplatformPart ("NATIVE_ARCH", "x86_64") (by simp [betaSdk])
    (by simp [sdkIdentityKeys]) (by decide)
  have hdevice := hplatformPart ("LLVM_TARGET_TRIPLE_SUFFIX", "") (by simp [betaSdk])
    (by simp [sdkIdentityKeys]) (by decide)
  obtain ⟨hdumpArchs, hdumpVendor, hdumpOs⟩ := hdump
  obtain ⟨archs, native, vendor, os, suffix, ⟨harchs, hnative, hvendor, hos, hsuffix⟩, harch⟩ :=
    synthesize_architecture hsettings
  -- the values that the theorem speaks of are those of the dump and of the platform
  obtain rfl := Option.some.inj (hdumpArchs.symm.trans harchs)
  obtain rfl := Option.some.inj (hmachine.symm.trans hnative)
  obtain rfl := Option.some.inj (hdumpVendor.symm.trans hvendor)
  obtain rfl := Option.some.inj (hdumpOs.symm.trans hos)
  obtain rfl := Option.some.inj (hdevice.symm.trans hsuffix)
  obtain ⟨arch, hcurrent, hlist, -, htriple⟩ := harch (.inl (by decide))
  obtain ⟨-, -, hfirst⟩ := hlist (by decide)
  obtain rfl : "armv7 k" = arch := Option.some.inj (hfirst (by decide))
  exact ⟨settings, hsettings, hcurrent, htriple (by decide)⟩

end BuildSettings
