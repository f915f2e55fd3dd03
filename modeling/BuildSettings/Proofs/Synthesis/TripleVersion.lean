import BuildSettings.Proofs.Synthesis.Architecture

/-!
# The version in a target triple

A platform gives the system of a target triple as a template over the deployment target of its
family. So the triple has a version if somebody gives the deployment target. Where nobody has
written one, that is left to the built-in defaults, and they have one for iOS and for macOS only.

* `get?_folded_of_tripleKey` — what a triple is made of, if nobody has written any of it.
* `get?_expandReferences_triple` — the template is expanded among all other settings as it is alone.
* `synthesize_tripleVersion` — the triple of each variant of each family.
-/

namespace BuildSettings

open Setting

variable {options : SynthesisOptions} {project : Project} {target : Target}
  {targetName key : String} {source : SdkSource} {platform settings : Settings}
  {family : PlatformFamily}

namespace PlatformFamily

/-- The deployment target that the built-in defaults have for the family. -/
def defaultVersion? (family : PlatformFamily) : Option String :=
  builtinDefault? family.deploymentTargetKey

/-- The system of a triple with its version. -/
def systemTemplate (family : PlatformFamily) : String :=
  family.tripleOs ++ "$(" ++ family.deploymentTargetKey ++ ")"

/-- The settings that decide about the version and those that go into the triple with it. -/
def tripleKeys (family : PlatformFamily) : List String :=
  ["ARCHS", "LLVM_TARGET_TRIPLE_VENDOR", "LLVM_TARGET_TRIPLE_OS_VERSION",
    "LLVM_TARGET_TRIPLE_SUFFIX", family.deploymentTargetKey]

/-- The settings that the system is made of, and no others. -/
def systemParts (family : PlatformFamily) : Settings :=
  .ofList (("LLVM_TARGET_TRIPLE_OS_VERSION", family.systemTemplate) ::
    family.defaultVersion?.toList.map (family.deploymentTargetKey, ·))

/-- The architectures of a variant. -/
def archs (family : PlatformFamily) (simulator : Bool) (policy : ArchPolicy) : String :=
  if simulator then policy.simulatorArchs else family.deviceArchs

/-- The built-in defaults know two families. -/
theorem defaultVersion?_ne_empty_iff : ∀ family ∈ all,
    family.defaultVersion?.getD "" ≠ "" ↔ family.deviceSdk ∈ ["iphoneos", "macosx"] := by
  decide

/-- No system is empty, so a triple is always put together, with a version or without. -/
theorem system_ne_empty : ∀ family ∈ all,
    family.tripleOs ++ family.defaultVersion?.getD "" ≠ "" := by
  decide

/-- Each variant has an architecture. -/
theorem splitList_archs_ne_nil (hfamily : family ∈ all) (simulator : Bool) (policy : ArchPolicy) :
    Text.splitList (family.archs simulator policy) ≠ [] := by
  have hdevice : ∀ family ∈ all, Text.splitList family.deviceArchs ≠ [] := by decide
  have hsimulator : ∀ policy : ArchPolicy, Text.splitList policy.simulatorArchs ≠ [] := by
    intro policy
    cases policy <;> decide
  cases simulator with
  | false => exact hdevice family hfamily
  | true => exact hsimulator policy

/-- The architectures of a variant are told without references. -/
theorem archs_closed (hfamily : family ∈ all) (simulator : Bool) (policy : ArchPolicy) :
    hasReference (family.archs simulator policy) = false := by
  have hdevice : ∀ family ∈ all, '$' ∉ family.deviceArchs.toList := by decide
  have hsimulator : ∀ policy : ArchPolicy, '$' ∉ policy.simulatorArchs.toList := by
    intro policy
    cases policy <;> decide
  refine closed_of_dollar_notMem ?_
  cases simulator with
  | false => exact hdevice family hfamily
  | true => exact hsimulator policy

theorem hasInherited_of_system : ∀ family ∈ all, hasInherited family.systemTemplate = false ∧
    ∀ version ∈ family.defaultVersion?, hasInherited version = false := by
  decide

/-- The system as its template and the deployment target as the built-in default, if there is one.
-/
theorem get?_systemParts : ∀ family ∈ all,
    family.systemParts.get? "LLVM_TARGET_TRIPLE_OS_VERSION" = some family.systemTemplate ∧
      family.systemParts.get? family.deploymentTargetKey = family.defaultVersion? := by
  decide

/-- These parts refer to the deployment target only. So their expansion is a matter of two settings,
which is what lets it be computed for each family. -/
theorem confined_systemParts (hfamily : family ∈ all) : Confined family.systemParts
    (· ∈ ["LLVM_TARGET_TRIPLE_OS_VERSION", family.deploymentTargetKey]) := by
  have hvalues : ∀ family ∈ all, ∀ a ∈ ["LLVM_TARGET_TRIPLE_OS_VERSION",
      family.deploymentTargetKey], ∀ value ∈ family.systemParts.get? a,
      DollarsRefer value.toList ∧
        ∀ b ∈ names value, b ∈ ["LLVM_TARGET_TRIPLE_OS_VERSION", family.deploymentTargetKey] := by
    decide
  exact fun a ha value hget => hvalues family hfamily a ha value hget

/-- Expanded alone, the system gets the default version of its family, or none. -/
theorem expandReferences_systemParts : ∀ family ∈ all,
    (expandReferences family.systemParts).get? "LLVM_TARGET_TRIPLE_OS_VERSION" =
      some (family.tripleOs ++ family.defaultVersion?.getD "") := by
  decide

end PlatformFamily

open PlatformFamily

/-! ### What a triple is made of -/

/-- Neither the environment of a project nor a request says anything about a triple. -/
theorem notMem_of_tripleKey : ∀ family ∈ all, ∀ key ∈ family.tripleKeys,
    key ∉ environmentKeys ∧ key ∉ ["CONFIGURATION", "TARGET_NAME", "PRODUCT_TYPE"] := by
  decide

/-- What nobody has written of a triple is that of the platform or of the built-in defaults; the
environment of the project has no part in it. -/
theorem SynthesisOptions.get?_folded_of_tripleKey {value? : Option String} (hfamily : family ∈ all)
    (hkey : key ∈ family.tripleKeys)
    (hunwritten : ∀ layer ∈ options.written project target, layer.get? key = none)
    (hvalue : (platform.get? key).or (builtinDefault? key) = value?)
    (hplain : ∀ value ∈ value?, hasInherited value = false) :
    (options.folded project target source platform).get? key = value? := by
  obtain ⟨henvironment, hrequest⟩ := notMem_of_tripleKey family hfamily key hkey
  have hdefault : ((environment project options.derivedData source.installation).get? key).or
      ((platform.get? key).or (builtinDefault? key)) = value? := by
    rw [get?_environment_of_notMem henvironment, Option.none_or, hvalue]
  rw [get?_folded_of_defaults (get?_requestLayer_of_notMem hrequest) hunwritten, hdefault]
  rw [hdefault]
  exact hplain

/-- A platform tells all parts of a triple but the version, for which it refers to the deployment
target. -/
theorem get?_describe_of_tripleKey (hfamily : family ∈ all) (request : PlatformRequest)
    (simulator : Bool) (variant : String) (sdk : Sdk) :
    let described := request.describe family simulator variant sdk
    described.get? "ARCHS" = some (family.archs simulator request.archPolicy) ∧
    described.get? "LLVM_TARGET_TRIPLE_VENDOR" = some "apple" ∧
    described.get? "LLVM_TARGET_TRIPLE_OS_VERSION" = some family.systemTemplate ∧
    described.get? "LLVM_TARGET_TRIPLE_SUFFIX" = some (if simulator then "-simulator" else "") ∧
    described.get? family.deploymentTargetKey = none := by
  simp only [PlatformRequest.describe, Dictionary.get?_ofList]
  refine ⟨rfl, rfl, rfl, rfl, ?_⟩
  simp only [all, List.mem_cons, List.not_mem_nil, or_false] at hfamily
  rcases hfamily with rfl | rfl | rfl | rfl | rfl <;> rfl

/-- The parts of a triple are expanded to what the platform has for them, and its system gets the
default version of the family. -/
theorem SynthesisOptions.get?_expandReferences_triple (simulator : Bool) (variant : String)
    (sdk : Sdk) (hfamily : family ∈ all)
    (hunwritten : ∀ key ∈ family.tripleKeys, ∀ layer ∈ options.written project target,
      layer.get? key = none) :
    let platform := (options.platformRequest project target).describe family simulator variant sdk
    let expanded := expandReferences (options.folded project target source platform)
    expanded.get? "ARCHS" = some (family.archs simulator options.archPolicy) ∧
    expanded.get? "LLVM_TARGET_TRIPLE_VENDOR" = some "apple" ∧
    expanded.get? "LLVM_TARGET_TRIPLE_SUFFIX" = some (if simulator then "-simulator" else "") ∧
    expanded.get? "LLVM_TARGET_TRIPLE_OS_VERSION" =
      some (family.tripleOs ++ family.defaultVersion?.getD "") := by
  intro platform expanded
  obtain ⟨harchs, hvendor, hos, hsuffix, hversion⟩ := get?_describe_of_tripleKey hfamily
    (options.platformRequest project target) simulator variant sdk
  obtain ⟨hsystem, hdefault⟩ := hasInherited_of_system family hfamily
  -- three parts are plain
  have hclosed : ∀ key ∈ family.tripleKeys, ∀ value, platform.get? key = some value →
      hasReference value = false → expanded.get? key = some value := by
    intro key hkey value hvalue hplain
    refine get?_expandReferences_of_closed (get?_folded_of_tripleKey hfamily hkey
      (hunwritten key hkey) (by rw [hvalue, Option.some_or]) ?_) hplain
    intro other hother
    obtain rfl := Option.some.inj hother
    exact hasInherited_of_closed hplain
  refine ⟨hclosed _ (by simp [tripleKeys]) _ harchs (archs_closed hfamily _ _),
    hclosed _ (by simp [tripleKeys]) _ hvendor (by decide),
    hclosed _ (by simp [tripleKeys]) _ hsuffix (by cases simulator <;> decide), ?_⟩
  -- the system refers to the deployment target, and that to nothing
  obtain ⟨hpart, hpartVersion⟩ := get?_systemParts family hfamily
  rw [← expandReferences_systemParts family hfamily]
  refine (expandReferences_congr (confined_systemParts hfamily) (fun a ha => ?_) (by simp)).symm
  simp only [List.mem_cons, List.not_mem_nil, or_false] at ha
  rcases ha with rfl | rfl
  · rw [hpart]
    refine (get?_folded_of_tripleKey hfamily (by simp [tripleKeys])
      (hunwritten _ (by simp [tripleKeys])) (by rw [hos, Option.some_or]) ?_).symm
    intro other hother
    obtain rfl := Option.some.inj hother
    exact hsystem
  · rw [hpartVersion]
    exact (get?_folded_of_tripleKey hfamily (by simp [tripleKeys])
      (hunwritten _ (by simp [tripleKeys])) (by rw [hversion, Option.none_or]; rfl) hdefault).symm

/-! ### The triple -/

/-- The triple is put together for one of the architectures of the variant, from what its parts are
expanded to. -/
theorem SynthesisOptions.exists_triple {simulator : Bool} {variant native : String} {sdk : Sdk}
    (hfamily : family ∈ all)
    (hunwritten : ∀ key ∈ family.tripleKeys, ∀ layer ∈ options.written project target,
      layer.get? key = none)
    (h : finish (expandReferences (options.folded project target source
      ((options.platformRequest project target).describe family simulator variant sdk))) = settings)
    (hnative : settings.get? "NATIVE_ARCH" = some native) :
    ∃ arch ∈ Text.splitList (family.archs simulator options.archPolicy),
      settings.get? "CURRENT_ARCH" = some arch ∧
      settings.get? "TARGET_TRIPLE" = some (arch ++ "-apple-" ++
        (family.tripleOs ++ family.defaultVersion?.getD "") ++
        if simulator then "-simulator" else "") := by
  obtain ⟨harchs, hvendor, hsuffix, hos⟩ :=
    get?_expandReferences_triple simulator variant sdk hfamily hunwritten
  -- what is derived last leaves the parts alone
  rw [← get?_finish_of_ne (by decide) (by decide) (by decide), h] at harchs hvendor hsuffix hos
  have hderived : ArchDerived settings := h ▸ archDerived_withArch _
  have hne := splitList_archs_ne_nil hfamily simulator options.archPolicy
  have harch : (currentArch settings).isEmpty = false :=
    Bool.eq_false_iff.2 fun hempty =>
      currentArch_ne_empty harchs hnative (.inl hne) (String.isEmpty_iff.1 hempty)
  obtain ⟨hcurrent, htriple⟩ := hderived harch
  have hvalue := htriple _ (targetTriple?_eq hvendor hos hsuffix (system_ne_empty family hfamily) _)
  have hdash : currentArch settings ++ "-" ++ "apple" ++ "-" =
      currentArch settings ++ "-apple-" := by
    rw [String.append_assoc, String.append_assoc]
    rfl
  rw [hdash] at hvalue
  exact ⟨_, currentArch_mem harchs hnative hne, hcurrent, hvalue⟩

/-- **The version in a target triple** is the built-in default for the deployment target of the
platform family, if nobody has written the deployment target or another part of the triple. There is
one for iOS and for macOS, on devices and in the simulator; in the triples of all other families the
system stands without a version. -/
theorem synthesize_tripleVersion (h : options.synthesize project targetName source = .ok settings) :
    ∃ target family simulator, project.target? targetName = some target ∧
      (options.platformRequest project target).Chooses family simulator ∧
      (family.defaultVersion?.getD "" ≠ "" ↔ family.deviceSdk ∈ ["iphoneos", "macosx"]) ∧
      ((∀ key ∈ family.tripleKeys, ∀ layer ∈ options.written project target,
          layer.get? key = none) →
        ∃ arch ∈ Text.splitList (family.archs simulator options.archPolicy),
          settings.get? "CURRENT_ARCH" = some arch ∧
          settings.get? "TARGET_TRIPLE" = some (arch ++ "-apple-" ++
            (family.tripleOs ++ family.defaultVersion?.getD "") ++
            if simulator then "-simulator" else "")) := by
  obtain ⟨native, hnative⟩ : ∃ native, settings.get? "NATIVE_ARCH" = some native :=
    exists_synthesized h (by simp [archKeys])
  obtain ⟨target, platform, htarget, hplatform, hfinal⟩ :=
    SynthesisOptions.synthesize_eq_ok_iff.1 h
  obtain ⟨family, simulator, sdk, hchooses, -, rfl⟩ :=
    PlatformRequest.settings_eq_ok_iff.1 hplatform
  exact ⟨target, family, simulator, htarget, hchooses,
    defaultVersion?_ne_empty_iff family hchooses.mem, fun hunwritten =>
      SynthesisOptions.exists_triple hchooses.mem hunwritten hfinal hnative⟩

theorem exists_of_isOk {ε α : Type} {result : Except ε α} (h : result.isOk = true) :
    ∃ a, result = .ok a := by
  cases result with
  | ok a => exact ⟨a, rfl⟩
  | error e => cases h

/-- A target of which nothing is written but the SDK. -/
def rootTarget (sdk : String) : Target where
  name := "App"
  configurations := [{ name := "Debug", settings := .ofList [("SDKROOT", .text sdk)] }]

/-- A project with this target only. -/
def rootProject (sdk : String) : Project where
  path := "/work/App.xcodeproj"
  name := "App"
  targets := [rootTarget sdk]

/-- A source with this SDK only. -/
def rootSource (sdk : String) : SdkSource :=
  SdkCatalog.source { sdks := [{ name := sdk, path := ⟨"/sdk"⟩, version := "10.2" }] }

/-- Options for the simulator on this machine. -/
def simulatorOptions : SynthesisOptions :=
  { plainOptions with forceSimulator := true, archPolicy := .hostOnly }

/-- The simulator has a version, where the SDK of the devices is named and there is no other. -/
theorem synthesize_tripleVersion_simulator :
    ∃ settings,
      simulatorOptions.synthesize (rootProject "iphoneos") "App" (rootSource "iphoneos") =
        .ok settings ∧
      settings.get? "TARGET_TRIPLE" = some "x86_64-apple-ios16.0-simulator" := by
  obtain ⟨settings, hsettings⟩ : ∃ settings, simulatorOptions.synthesize (rootProject "iphoneos")
      "App" (rootSource "iphoneos") = .ok settings :=
    exists_of_isOk (by decide)
  obtain ⟨target, family, simulator, htarget, hchooses, -, htriple⟩ :=
    synthesize_tripleVersion hsettings
  obtain rfl : rootTarget "iphoneos" = target := Option.some.inj htarget
  obtain ⟨hfind, hsimulator⟩ := PlatformRequest.chooses_iff.1 hchooses
  -- the family and the simulator that are chosen are computed, and no settings
  have hfamily : all[0]? = some family := by
    rw [← hfind]
    decide
  obtain rfl := Option.some.inj hfamily
  obtain rfl : true = simulator := by
    rw [← hsimulator]
    decide
  obtain ⟨arch, harch, -, hvalue⟩ := htriple (by decide)
  have hhost : Text.splitList ArchPolicy.hostOnly.simulatorArchs = ["x86_64"] := by decide
  obtain rfl : arch = "x86_64" := List.mem_singleton.1 (hhost ▸ harch)
  exact ⟨settings, hsettings, hvalue.trans (by decide)⟩

/-- Whether a setting is a list of architectures, a part of a target triple, a target triple or a
deployment target. -/
def IsTripleSetting (key : String) : Prop :=
  key = "ARCHS" ∨ key = "TARGET_TRIPLE" ∨ Text.startsWith key "LLVM_TARGET_TRIPLE_" = true ∨
    Text.endsWith key "_DEPLOYMENT_TARGET" = true

instance (key : String) : Decidable (IsTripleSetting key) :=
  inferInstanceAs (Decidable (_ ∨ _))

/-- What stands before the first `c` can stand before another one with the same text behind it only
if nothing follows. -/
theorem eq_nil_of_append_eq {c : Char} {front front' back rest : List Char} (h : c ∉ front)
    (heq : front ++ c :: back = front' ++ c :: (back ++ rest)) : rest = [] := by
  rcases List.append_eq_append_iff.1 heq with ⟨between, -, hback⟩ | ⟨between, hfront, hback⟩
  · have hlength := congrArg List.length hback
    simp only [List.length_append, List.length_cons] at hlength
    exact List.eq_nil_of_length_eq_zero (by omega)
  · cases between with
    | nil => exact List.append_right_eq_self.1 (List.cons.inj hback).2
    | cons d between =>
      obtain rfl := (List.cons.inj hback).1
      exact absurd (hfront ▸ List.mem_append_right _ List.mem_cons_self) h

/-- There are triples without a version, though nobody has written any part of them: those for
watches are an example. -/
theorem not_versioned_of_watch :
    ¬ ∀ (options : SynthesisOptions) (project : Project) (target : Target) (targetName : String)
      (source : SdkSource) (settings : Settings) (family : PlatformFamily) (simulator : Bool),
      project.target? targetName = some target →
      (options.platformRequest project target).Chooses family simulator →
      (∀ key, IsTripleSetting key → ∀ layer ∈ options.written project target,
        layer.get? key = none) →
      options.synthesize project targetName source = .ok settings →
      ∃ arch version, version ≠ "" ∧ settings.get? "TARGET_TRIPLE" =
        some (arch ++ "-apple-" ++ (family.tripleOs ++ version) ++
          if simulator then "-simulator" else "") := by
  intro hall
  obtain ⟨settings, hsettings⟩ : ∃ settings, plainOptions.synthesize (rootProject "watchos")
      "App" (rootSource "watchos") = .ok settings :=
    exists_of_isOk (by decide)
  -- what is written is the root of the SDK and nothing else
  have hwritten : plainOptions.written (rootProject "watchos") (rootTarget "watchos") =
      [.ofList [("SDKROOT", "watchos")], ∅, ∅] := by
    decide
  have hunwritten : ∀ key, IsTripleSetting key →
      ∀ layer ∈ plainOptions.written (rootProject "watchos") (rootTarget "watchos"),
        layer.get? key = none := by
    intro key hkey
    have hne : key ≠ "SDKROOT" := by
      rintro rfl
      revert hkey
      decide
    simp [hwritten, Dictionary.get?_ofList, hne]
  obtain ⟨target, platform, htarget, hplatform, hfinal⟩ :=
    SynthesisOptions.synthesize_eq_ok_iff.1 hsettings
  obtain rfl : rootTarget "watchos" = target := Option.some.inj htarget
  obtain ⟨family, simulator, sdk, hchooses, -, rfl⟩ :=
    PlatformRequest.settings_eq_ok_iff.1 hplatform
  obtain ⟨hfind, hsimulator⟩ := PlatformRequest.chooses_iff.1 hchooses
  have hfamily : all[2]? = some family := by
    rw [← hfind]
    decide
  obtain rfl := Option.some.inj hfamily
  obtain rfl : false = simulator := by
    rw [← hsimulator]
    decide
  obtain ⟨native, hnative⟩ : ∃ native, settings.get? "NATIVE_ARCH" = some native :=
    exists_synthesized hsettings (by simp [archKeys])
  have hkeys : ∀ family ∈ all, ∀ key ∈ family.tripleKeys, IsTripleSetting key := by decide
  obtain ⟨arch, harch, -, htriple⟩ := SynthesisOptions.exists_triple hchooses.mem
    (fun key hkey => hunwritten key (hkeys _ hchooses.mem key hkey)) hfinal hnative
  obtain ⟨arch', version, hversion, hvalue⟩ :=
    hall _ _ _ _ _ _ _ _ rfl hchooses hunwritten hsettings
  -- an architecture has no dash, so the triple can be cut in one place only
  have hdashes : ∀ arch ∈ Text.splitList "armv7k arm64_32 arm64", '-' ∉ arch.toList := by decide
  have hcut : ∀ front back : List Char, front ++ "-apple-".toList ++ ("watchos".toList ++ back) ++
      "".toList = front ++ '-' :: ("apple-watchos".toList ++ back) := by
    intro front back
    rw [show "".toList = [] from rfl, List.append_nil, List.append_assoc]
    rfl
  have heq := congrArg String.toList (Option.some.inj (htriple.symm.trans hvalue))
  simp only [String.toList_append] at heq
  refine hversion (String.toList_eq_nil_iff.1 ?_)
  exact eq_nil_of_append_eq (hdashes arch harch) ((hcut _ _).symm.trans (heq.trans (hcut _ _)))

end BuildSettings
