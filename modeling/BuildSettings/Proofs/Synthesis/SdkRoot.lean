import BuildSettings.Proofs.Platform.Variant
import BuildSettings.Proofs.Setting.Locality
import BuildSettings.Proofs.Setting.Template
import BuildSettings.Proofs.Synthesis.SdkIdentity

/-!
# How the root of the SDK is written

Without a dump the SDK is chosen by the `SDKROOT` of the layers, as it is written there. So it does
not matter how the name of a variant is spelled. But a reference is taken for a name too, though the
settings of the same layers have the root that it stands for.

`Project.withRoot` writes the root out in all configurations; nothing else changes
(`resolve_withRoot_of_ne`).

* `synthesize_sdkRoot` — a root that is written out leads to the same SDK as another spelling of the
  same variant, and a reference leads to no SDK.
* `resolveAll_sdkRoot` — the settings of the layers alone have the root that a reference stands for.
* `not_sameSdk_of_reference` — so a reference does not do what the name does that it stands for.
-/

namespace BuildSettings

open Setting

variable {options : SynthesisOptions} {project : Project} {target : Target}
  {targetName key : String} {source : SdkSource} {platform defaults : Settings}
  {root name : String} {r : Reference}

/-! ### A root that is written out -/

/-- The configuration with this root of the SDK. -/
def Configuration.withRoot (root : String) (configuration : Configuration) : Configuration :=
  { configuration with settings := configuration.settings.insert "SDKROOT" (.text root) }

/-- The target with this root of the SDK in all its configurations. -/
def Target.withRoot (root : String) (target : Target) : Target :=
  { target with configurations := target.configurations.map (·.withRoot root) }

/-- The project with this root of the SDK in all configurations. -/
def Project.withRoot (root : String) (project : Project) : Project :=
  { project with
    configurations := project.configurations.map (·.withRoot root)
    targets := project.targets.map (·.withRoot root) }

/-- The target is found under its name as before, since writing the root out keeps the names. -/
theorem target?_withRoot (htarget : project.target? targetName = some target) (root : String) :
    (project.withRoot root).target? targetName = some (target.withRoot root) := by
  have hname : ((fun t : Target => t.name == targetName) ∘ Target.withRoot root) =
      fun t : Target => t.name == targetName := rfl
  show (project.targets.map (Target.withRoot root)).find? _ = _
  rw [List.find?_map, hname, Option.map_eq_some_iff]
  exact ⟨target, htarget, rfl⟩

/-- The same configurations are chosen, each with the root written out. -/
theorem named_withRoot (configurations : List Configuration) (root configuration : String) :
    Configuration.named (configurations.map (·.withRoot root)) configuration =
      (Configuration.named configurations configuration).map (·.insert "SDKROOT" root) := by
  have hflat : ∀ c : Configuration, (c.withRoot root).flat = c.flat.insert "SDKROOT" root := by
    intro c
    refine Dictionary.ext_get? fun key => ?_
    rw [Configuration.flat, Configuration.withRoot, Dictionary.get?_map, Dictionary.get?_insert,
      Dictionary.get?_insert, Configuration.flat, Dictionary.get?_map]
    split <;> rfl
  rw [Configuration.named, Configuration.named, List.filter_map, List.map_map, List.map_map]
  exact List.map_congr_left fun c _ => hflat c

/-- A setting that all configurations have alike is chosen from the first, and there is none if
there is no configuration. -/
theorem chosen?_map_insert (configurations : List Settings) (key value : String) :
    chosen? (configurations.map (·.insert key value)) key =
      configurations.head?.map fun _ => value := by
  cases configurations with
  | nil => rfl
  | cons c configurations =>
    cases hchosen : chosen? ((c :: configurations).map (·.insert key value)) key with
    | none =>
      have hhead := (Option.or_eq_none_iff.1 hchosen).2
      simp at hhead
    | some w =>
      obtain ⟨_, hmem, hget⟩ := Layers.exists_mem_of_chosen? hchosen
      obtain ⟨d, -, rfl⟩ := List.mem_map.1 hmem
      rw [Dictionary.get?_insert_self] at hget
      exact hget.symm

/-- Writing another setting into all configurations does not matter for what they choose. -/
theorem chosen?_map_insert_of_ne (configurations : List Settings) {name : String} (h : key ≠ name)
    (value : String) :
    chosen? (configurations.map (·.insert name value)) key = chosen? configurations key := by
  have hget : ((·.get? key) ∘ fun c : Settings => c.insert name value) =
      fun c : Settings => c.get? key :=
    funext fun c => Dictionary.get?_insert_of_ne c value h
  rw [chosen?, chosen?, List.filterMap_map, hget]

namespace SynthesisOptions

/-- The configurations that count for a target. -/
def configured (options : SynthesisOptions) (project : Project) (target : Target) :
    List Settings :=
  Configuration.named target.configurations options.configuration ++
    Configuration.named project.configurations options.configuration

/-- Only the configurations of the target and of the project have changed. -/
theorem layers_withRoot (options : SynthesisOptions) (project : Project) (target : Target)
    (defaults : Settings) (root : String) :
    options.layers (project.withRoot root) (target.withRoot root) defaults =
      let layers := options.layers project target defaults
      { layers with
        target := layers.target.map (·.insert "SDKROOT" root)
        project := layers.project.map (·.insert "SDKROOT" root) } := by
  simp only [layers, Project.withRoot, Target.withRoot, named_withRoot]
  rfl

/-- Only the root changes. -/
theorem resolve_withRoot_of_ne (h : key ≠ "SDKROOT") :
    (options.layers (project.withRoot root) (target.withRoot root) defaults).resolve key =
      (options.layers project target defaults).resolve key := by
  simp only [layers_withRoot, Layers.resolve, Layers.values, chosen?_map_insert_of_ne _ h]

/-- The root is what was written, if there is a configuration to write it in. The request does not
name it, and the defaults stand below. -/
theorem resolve_withRoot (hclosed : hasReference root = false)
    (hconfigured : options.configured project target ≠ []) :
    (options.layers (project.withRoot root) (target.withRoot root) defaults).resolve "SDKROOT" =
      some root := by
  have hrequest : (options.layers project target defaults).request.get? "SDKROOT" = none :=
    get?_requestLayer_of_notMem (by decide)
  have hhighest : (options.layers (project.withRoot root) (target.withRoot root) defaults).highest?
      "SDKROOT" = some root := by
    simp only [layers_withRoot, Layers.highest?_eq, hrequest, chosen?_map_insert, Option.none_or]
    -- a configuration of the target, or else one of the project
    rcases List.ne_nil_iff_exists_cons.1 hconfigured with ⟨c, rest, happend⟩
    rcases List.append_eq_cons_iff.1 happend with ⟨htarget, hproject⟩ | ⟨_, htarget, -⟩
    · simp only [layers, htarget, hproject, List.head?_nil, List.head?_cons, Option.map_none,
        Option.map_some, Option.none_or, Option.some_or]
    · simp only [layers, htarget, List.head?_cons, Option.map_some, Option.some_or]
  rw [Layers.resolve_of_scalar (by decide), hhighest]
  intro value hvalue
  obtain rfl := Option.some.inj (hhighest.symm.trans hvalue)
  exact hasInherited_of_closed hclosed

/-- Without a dump the root of the layers names the SDK. -/
theorem sdkName_of_resolve (hloaded : Settings.filled? options.loaded "SDKROOT" = none)
    (hroot : (options.layers project target options.customDefaults).resolve "SDKROOT" =
      some root) : options.sdkName project target = root := by
  rw [sdkName, hloaded, hroot]
  rfl

/-- The platform is asked for by the root that is written out, if a configuration is there to have
it and no dump names another one; the rest of the request is as it was. -/
theorem platformRequest_withRoot (hloaded : Settings.filled? options.loaded "SDKROOT" = none)
    (hclosed : hasReference root = false) (hconfigured : options.configured project target ≠ []) :
    options.platformRequest (project.withRoot root) (target.withRoot root) =
      { options.platformRequest project target with sdkName := root } := by
  rw [platformRequest, sdkName_of_resolve hloaded (resolve_withRoot hclosed hconfigured)]
  rfl

/-- What is expanded differs in nothing but the root. -/
theorem get?_folded_withRoot (h : key ≠ "SDKROOT") :
    (options.folded (project.withRoot root) (target.withRoot root) source platform).get? key =
      (options.folded project target source platform).get? key := by
  have hresolve : (options.layers (project.withRoot root) (target.withRoot root)
      (options.defaults project source platform)).resolve key =
        (options.layers project target (options.defaults project source platform)).resolve key :=
    resolve_withRoot_of_ne h
  rw [folded, folded, get?_overlayLoaded, get?_overlayLoaded, Layers.get?_merged,
    Layers.get?_merged, ← hresolve]
  rfl

end SynthesisOptions

/-! ### The same SDK -/

/-- The settings that tell which SDK is in use, and what is built for. -/
def sdkKeys : List String :=
  ["PLATFORM_NAME", "SDKROOT_PATH", "SDK_VERSION", "ARCHS"]

/-- Neither run finds an SDK, or both find the same one. -/
def SameSdk (first second : Except SettingsError Settings) : Prop :=
  (∃ e e', first = .error (.invalidSdk e) ∧ second = .error (.invalidSdk e')) ∨
    ∃ settings settings', first = .ok settings ∧ second = .ok settings' ∧
      ∀ key ∈ sdkKeys, settings.get? key = settings'.get? key

/-- No reference leads from the setting to the root of the SDK, and each dollar sign on the way
begins one. -/
def RootFree (m : Settings) (key : String) : Prop :=
  ∀ a, Reaches m key a → a ≠ "SDKROOT" ∧ ∀ value, m.get? a = some value → DollarsRefer value.toList

/-- Such a setting comes out the same with another root, since the expansion is local
(`expandReferences_local`). -/
theorem RootFree.get?_finish (hkey : key ∈ sdkKeys)
    (h : RootFree (options.folded project target source platform) key) (root : String) :
    (finish (expandReferences (options.folded project target source platform))).get? key =
      (finish (expandReferences (options.folded (project.withRoot root) (target.withRoot root)
        source platform))).get? key := by
  have hderived : ∀ k ∈ sdkKeys, k ≠ "SDKROOT" ∧ k ≠ "TARGET_TRIPLE" ∧ k ≠ "CURRENT_ARCH" := by
    decide
  obtain ⟨hroot, htriple, harch⟩ := hderived key hkey
  rw [get?_finish_of_ne hroot htriple harch, get?_finish_of_ne hroot htriple harch]
  have hconfined := confined_reaches fun a value ha hget => (h a ha).2 value hget
  exact expandReferences_congr hconfined
    (fun a ha => (SynthesisOptions.get?_folded_withRoot (h a ha).1).symm) .refl

/-- A reference is not the name of an SDK. It is taken for one as it is written, and its dollar sign
is in no name. -/
theorem synthesize_of_reference (hr : r.Valid)
    (htarget : project.target? targetName = some target)
    (hloaded : Settings.filled? options.loaded "SDKROOT" = none)
    (hroot : (options.layers project target options.customDefaults).resolve "SDKROOT" =
      some (String.ofList r.spelling)) :
    options.synthesize project targetName source = .error (.invalidSdk
      ⟨String.ofList r.spelling, "no platform matches this SDK name"⟩) := by
  have hdollar : '$' ∈ (String.ofList r.spelling).toList := by
    rw [String.toList_ofList]
    exact List.mem_cons_self ..
  -- without a slash the name is not cut, so the dollar sign stays in it
  have hslash : '/' ∉ (String.ofList r.spelling).toList := by
    have htail : '/' ∉ r.tail := Reference.IsBreak.notMem_tail (by decide) hr
    simpa [Reference.spelling] using htail
  have hname : (options.platformRequest project target).sdkName = String.ofList r.spelling :=
    SynthesisOptions.sdkName_of_resolve hloaded hroot
  have hfind := find?_variantName_of_dollar hdollar hslash
  rw [← hname] at hfind
  have hplatform : (options.platformRequest project target).settings source = _ :=
    PlatformRequest.settings_of_none hfind
  rw [hname] at hplatform
  exact SynthesisOptions.synthesize_of_error htarget hplatform

/-- Without a dump, a root that is written out in all configurations leads to the same SDK as the
root of the layers, if that is another spelling of the same variant and the settings about the SDK
do not refer to it. If it is a reference, then it leads to no SDK, whatever it stands for; so the
two agree exactly if the one that is written out leads to none either. -/
theorem synthesize_sdkRoot (htarget : project.target? targetName = some target)
    (hloaded : Settings.filled? options.loaded "SDKROOT" = none)
    (hconfigured : options.configured project target ≠ [])
    (hroot : (options.layers project target options.customDefaults).resolve "SDKROOT" = some root)
    (hclosed : hasReference name = false) :
    (variantName root = variantName name →
      (∀ platform, (options.platformRequest project target).settings source = .ok platform →
        ∀ key ∈ sdkKeys, RootFree (options.folded project target source platform) key) →
      SameSdk (options.synthesize project targetName source)
        (options.synthesize (project.withRoot name) targetName source)) ∧
    ∀ r : Reference, r.Valid → root = String.ofList r.spelling →
      options.synthesize project targetName source =
        .error (.invalidSdk ⟨root, "no platform matches this SDK name"⟩) ∧
      (SameSdk (options.synthesize project targetName source)
          (options.synthesize (project.withRoot name) targetName source) ↔
        ∃ e, options.synthesize (project.withRoot name) targetName source =
          .error (.invalidSdk e)) := by
  have htarget' := target?_withRoot htarget name
  have hrequest := SynthesisOptions.platformRequest_withRoot hloaded hclosed hconfigured
  constructor
  · intro hvariant hfree
    have hname : (options.platformRequest project target).sdkName = root :=
      SynthesisOptions.sdkName_of_resolve hloaded hroot
    rw [← hname] at hvariant
    rcases PlatformRequest.settings_congr source hvariant with
      ⟨e, e', hplatform, hplatform'⟩ | ⟨platform, hplatform, hplatform'⟩
    · -- the request that has the root written out is the other spelling
      rw [← hrequest] at hplatform'
      exact .inl ⟨e, e', SynthesisOptions.synthesize_of_error htarget hplatform,
        SynthesisOptions.synthesize_of_error htarget' hplatform'⟩
    · rw [← hrequest] at hplatform'
      exact .inr ⟨_, _, SynthesisOptions.synthesize_of_ok htarget hplatform,
        SynthesisOptions.synthesize_of_ok htarget' hplatform',
        fun key hkey => (hfree platform hplatform key hkey).get?_finish hkey name⟩
  · rintro r hr rfl
    have herror : options.synthesize project targetName source = _ :=
      synthesize_of_reference hr htarget hloaded hroot
    refine ⟨herror, fun hsame => ?_, fun ⟨e, he⟩ => .inl ⟨_, e, herror, he⟩⟩
    rcases hsame with ⟨e, e', -, herror'⟩ | ⟨settings, settings', hsettings, -⟩
    · exact ⟨e', herror'⟩
    · rw [herror] at hsettings
      cases hsettings

/-- A target whose SDK is the value of another setting. -/
def baseTarget : Target where
  name := "App"
  configurations := [{ name := "Debug", settings := .ofList [
    ("SDKROOT", .text "$(BASE_SDK)"), ("BASE_SDK", .text "macosx")] }]

/-- A project with this target only. -/
def baseProject : Project where
  path := "/work/App.xcodeproj"
  name := "App"
  targets := [baseTarget]

/-- The reference in its root. -/
def baseReference : Reference :=
  ⟨false, "BASE_SDK".toList, none⟩

/-- The layers of this project have the reference as it is written, and what it refers to. -/
theorem resolve_base :
    let layers := plainOptions.layers baseProject baseTarget plainOptions.customDefaults
    layers.resolve "SDKROOT" = some (String.ofList baseReference.spelling) ∧
      layers.resolve "BASE_SDK" = some "macosx" := by
  decide

/-- Nothing that tells the SDK refers to another setting. -/
theorem rootFree_beta {platform : Settings} (hplatform :
      (plainOptions.platformRequest betaProject betaTarget).settings xcodeSource = .ok platform) :
    ∀ key ∈ sdkKeys, RootFree (plainOptions.folded betaProject betaTarget xcodeSource platform)
      key := by
  have hvalues : ∀ key ∈ sdkKeys, key ≠ "SDKROOT" ∧ ∃ e ∈ betaSdk, e.1 = key ∧
      DollarsRefer e.2.toList ∧ names e.2 = [] := by
    decide
  intro key hkey a ha
  obtain ⟨hne, e, he, rfl, hdollars, hnames⟩ := hvalues key hkey
  have hget : (plainOptions.folded betaProject betaTarget xcodeSource platform).get? e.1 =
      some e.2 := by
    rw [SynthesisOptions.get?_folded_of_none rfl, ← Layers.get?_merged]
    exact layered_beta hplatform e he
  -- a value that names nothing leads nowhere
  have hself : a ∈ [e.1] := by
    refine mem_of_reaches (fun b hb value hvalue c hc => ?_) (List.mem_singleton_self e.1) ha
    obtain rfl := List.mem_singleton.1 hb
    obtain rfl := Option.some.inj (hget.symm.trans hvalue)
    rw [hnames] at hc
    cases hc
  obtain rfl := List.mem_singleton.1 hself
  refine ⟨hne, fun value hvalue => ?_⟩
  obtain rfl := Option.some.inj (hget.symm.trans hvalue)
  exact hdollars

theorem synthesize_sdkRoot_beta :
    (∃ settings, plainOptions.synthesize betaProject "App" xcodeSource = .ok settings) ∧
    SameSdk (plainOptions.synthesize betaProject "App" xcodeSource)
      (plainOptions.synthesize (betaProject.withRoot "/Xcode/MacOSX14.2.sdk") "App" xcodeSource) ∧
    plainOptions.synthesize baseProject "App" xcodeSource =
      .error (.invalidSdk ⟨"$(BASE_SDK)", "no platform matches this SDK name"⟩) := by
  have hroot : (plainOptions.layers betaProject betaTarget plainOptions.customDefaults).resolve
      "SDKROOT" = some "macosx" := by
    decide
  refine ⟨SynthesisOptions.exists_synthesize rfl rfl, ?_, ?_⟩
  · have htarget : betaProject.target? "App" = some betaTarget := rfl
    exact (synthesize_sdkRoot htarget rfl (by decide) hroot (by decide)).1
      (by decide) fun _ hplatform => rootFree_beta hplatform
  · have htarget : baseProject.target? "App" = some baseTarget := rfl
    have hclosed : hasReference "macosx" = false := by decide
    exact ((synthesize_sdkRoot htarget rfl (by decide) resolve_base.1 hclosed).2 baseReference
      (by decide) rfl).1

/-- The settings of the layers alone have the root that a reference stands for. -/
theorem resolveAll_sdkRoot {layers : Layers} (hr : r.Valid) (htame : r.IsTame)
    (hne : r.target ≠ "SDKROOT") (hroot : layers.resolve "SDKROOT" =
      some (String.ofList r.spelling)) (hname : layers.resolve r.target = some name)
    (hclosed : hasReference name = false) :
    layers.resolveAll.get? "SDKROOT" = some (Text.trim (r.apply name)) :=
  expandReferences_reference hr htame ((layers.get?_merged _).trans hroot) hne
    ((layers.get?_merged _).trans hname) hclosed

/-- A reference to the name of an SDK does not do what the name does, although the layers have the
name and each of them has the SDK. -/
theorem not_sameSdk_of_reference :
    ¬ ∀ (options : SynthesisOptions) (project : Project) (target : Target) (targetName : String)
      (source : SdkSource) (r : Reference) (name : String),
      options.loaded = ∅ → project.target? targetName = some target →
      let layers := options.layers project target options.customDefaults
      r.Valid → r.modifier = none → r.target ≠ "SDKROOT" →
      layers.resolve "SDKROOT" = some (String.ofList r.spelling) →
      layers.resolve r.target = some name → hasReference name = false →
      (PlatformFamily.find? (variantName name)).isSome = true →
      (∃ layer ∈ options.configured project target, layer.contains r.target = true) →
      SameSdk (options.synthesize project targetName source)
        (options.synthesize (project.withRoot name) targetName source) := by
  intro hall
  have hsame := hall plainOptions baseProject baseTarget "App" macSource baseReference "macosx" rfl
    rfl (by decide) rfl (by decide) resolve_base.1 resolve_base.2 (by decide)
    (by decide) (by decide)
  have htarget : baseProject.target? "App" = some baseTarget := rfl
  have hreference : plainOptions.synthesize baseProject "App" macSource = _ :=
    synthesize_of_reference (by decide) htarget rfl resolve_base.1
  -- written out, the name leads to the SDK
  obtain ⟨settings, hwritten⟩ : ∃ settings,
      plainOptions.synthesize (baseProject.withRoot "macosx") "App" macSource = .ok settings := by
    have hrequest : plainOptions.platformRequest (baseProject.withRoot "macosx")
        (baseTarget.withRoot "macosx") =
          { plainOptions.platformRequest baseProject baseTarget with sdkName := "macosx" } :=
      SynthesisOptions.platformRequest_withRoot rfl (by decide) (by decide)
    obtain ⟨platform, hplatform⟩ : ∃ platform,
        { plainOptions.platformRequest baseProject baseTarget with sdkName := "macosx" }.settings
          macSource = .ok platform :=
      ⟨_, rfl⟩
    rw [← hrequest] at hplatform
    exact SynthesisOptions.exists_synthesize (target?_withRoot htarget "macosx") hplatform
  rcases hsame with ⟨e, e', -, herror⟩ | ⟨settings, settings', hsettings, -⟩
  · rw [hwritten] at herror
    cases herror
  · rw [hreference] at hsettings
    cases hsettings

end BuildSettings
