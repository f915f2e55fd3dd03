import BuildSettings.Proofs.Synthesis.Derived

/-!
# Precedence

Eight sources may give a setting of a target its value. From the highest: the dump, which has no say
about the SDK in use; the request; the configurations of the target and those of the project; the
custom defaults; the environment of the project; the platform; and the built-in defaults. On the way
to the result they are laid over each other in three different ways: the custom defaults, the
environment and the platform as maps, what they make up with the request, the configurations and the
built-in defaults by folding, and the dump over all of that.

What a source has for a setting is said here once more, apart from the functions that lay the
sources over each other: the request has a value for three names (`requested?`), and of the
configurations only those count that have the name of the one that is built, in their order, with
the first value that is not blank before all others (`valuesIn`, `preferred?`). So the theorem at
the end says which configuration decides, and not only that the layers are folded in some order.

* `requested?_eq`, `preferred?_valuesIn` — the layers hold what the sources are said to have.
* `get?_folded_of_scalar` — a single value is folded to that of the first source that has one,
  unless that inherits.
* `synthesize_scalar` — so it comes out in the end, if it has no dollar sign.
-/

namespace BuildSettings

open Setting

variable {options : SynthesisOptions} {project : Project} {target : Target}
  {targetName key : String} {source : SdkSource} {platform settings : Settings}

/-! ### What the sources have -/

/-- The values that configurations have for a setting, in the order of the configurations. -/
def valuesIn (configurations : List Configuration) (key : String) : List String :=
  configurations.filterMap fun c => (c.settings.get? key).map SettingValue.flat

/-- The first value that is not blank, and the first value if all of them are. -/
def preferred? (values : List String) : Option String :=
  match values.find? fun value => !Text.isBlankText value with
  | some value => some value
  | none => values.head?

/-- A layer of configurations has the values of those with the name that is asked for, and chooses
the preferred one among them. -/
theorem preferred?_valuesIn (configurations : List Configuration) (name key : String) :
    preferred? (valuesIn (configurations.filter fun c => c.name = name) key) =
      chosen? (Configuration.named configurations name) key := by
  have hvalues : (Configuration.named configurations name).filterMap (·.get? key) =
      valuesIn (configurations.filter fun c => c.name = name) key := by
    unfold Configuration.named valuesIn
    rw [List.filterMap_map]
    refine congrArg₂ List.filterMap (funext fun c => ?_) rfl
    exact Dictionary.get?_map SettingValue.flat c.settings key
  unfold chosen? preferred?
  dsimp only
  rw [hvalues]
  split
  next value hvalue => rw [hvalue, Option.some_or]
  next hblank => rw [hblank, Option.none_or]

namespace SynthesisOptions

/-- What the request itself says about a target. -/
def requested? (options : SynthesisOptions) (target : Target) (key : String) : Option String :=
  if key = "CONFIGURATION" then some options.configuration
  else if key = "TARGET_NAME" then some target.name
  else if key = "PRODUCT_TYPE" then target.productType.map (·.identifier)
  else none

/-- The layer of the request has the three names and no others. -/
theorem requested?_eq (options : SynthesisOptions) (target : Target) (key : String) :
    options.requested? target key = (requestLayer target options.configuration).get? key := by
  unfold requested?
  by_cases hkey : key ∈ ["CONFIGURATION", "TARGET_NAME", "PRODUCT_TYPE"]
  · rw [requestLayer, Dictionary.get?_ofList]
    simp only [List.mem_cons, List.not_mem_nil, or_false] at hkey
    cases target.productType with
    | none => rcases hkey with rfl | rfl | rfl <;> rfl
    | some t => rcases hkey with rfl | rfl | rfl <;> rfl
  · rw [get?_requestLayer_of_notMem hkey]
    simp only [List.mem_cons, List.not_mem_nil, or_false, not_or] at hkey
    obtain ⟨hconfiguration, hname, htype⟩ := hkey
    rw [if_neg hconfiguration, if_neg hname, if_neg htype]

/-- What each source has for a setting, the highest first. -/
def sources (options : SynthesisOptions) (project : Project) (target : Target)
    (source : SdkSource) (platform : Settings) (key : String) : List (Option String) :=
  [if key ∈ sdkIdentityKeys then none else options.loaded.get? key,
    options.requested? target key,
    preferred? (valuesIn (target.configurations.filter fun c => c.name = options.configuration) key),
    preferred?
      (valuesIn (project.configurations.filter fun c => c.name = options.configuration) key),
    options.customDefaults.get? key,
    (environment project options.derivedData source.installation).get? key,
    platform.get? key,
    builtinDefault? key]

/-- The value of the first source that has one. -/
def decided? (options : SynthesisOptions) (project : Project) (target : Target)
    (source : SdkSource) (platform : Settings) (key : String) : Option String :=
  (options.sources project target source platform key).findSome? id

/-- Below the dump the sources are the layers, three of them in the layer of custom defaults. -/
theorem decided?_eq (options : SynthesisOptions) (project : Project) (target : Target)
    (source : SdkSource) (platform : Settings) (key : String) :
    options.decided? project target source platform key =
      (if key ∈ sdkIdentityKeys then none else options.loaded.get? key).or
        ((options.layers project target (options.defaults project source platform)).highest?
          key) := by
  simp only [decided?, sources, requested?_eq, preferred?_valuesIn, Layers.findSome?_cons_eq_or,
    List.findSome?_nil, Option.or_none, id_eq, Layers.highest?_eq, layers, get?_defaults,
    Option.or_assoc]

/-- What nobody has written is decided by the environment of the project, the platform and the
built-in defaults. -/
theorem decided?_of_unwritten
    (hrequest : (requestLayer target options.configuration).get? key = none)
    (hunwritten : ∀ layer ∈ options.written project target, layer.get? key = none) :
    options.decided? project target source platform key =
      ((environment project options.derivedData source.installation).get? key).or
        ((platform.get? key).or (builtinDefault? key)) := by
  obtain ⟨htarget, hproject, hcustom, hloaded⟩ := forall_mem_written.1 hunwritten
  simp only [decided?, sources, requested?_eq, preferred?_valuesIn, Layers.findSome?_cons_eq_or,
    List.findSome?_nil, Option.or_none, id_eq, hrequest, Layers.chosen?_eq_none htarget,
    Layers.chosen?_eq_none hproject, hcustom, hloaded, ite_self, Option.none_or]

/-- A single value is folded to that of the first source that has one, unless that inherits. The
dump is the first of them, for it is laid over the layers. -/
theorem get?_folded_of_scalar (hkey : isScalarKey key = true)
    (hplain : ∀ value ∈ options.decided? project target source platform key,
      hasInherited value = false) :
    (options.folded project target source platform).get? key =
      options.decided? project target source platform key := by
  rw [decided?_eq] at hplain ⊢
  rw [folded, get?_overlayLoaded, Layers.get?_merged]
  cases hloaded : if key ∈ sdkIdentityKeys then none else options.loaded.get? key with
  | some value => rfl
  | none =>
    rw [hloaded] at hplain
    exact Layers.resolve_of_scalar hkey hplain

end SynthesisOptions

/-- What is derived last is no single value, apart from the root of the SDK. -/
theorem get?_finish_of_scalar (hkey : isScalarKey key = true) (hroot : key ≠ "SDKROOT") :
    (finish settings).get? key = settings.get? key := by
  have hderived : ∀ k ∈ ["TARGET_TRIPLE", "CURRENT_ARCH"], isScalarKey k = false := by
    decide
  have hne : ∀ k ∈ ["TARGET_TRIPLE", "CURRENT_ARCH"], key ≠ k := by
    rintro k hk rfl
    rw [hderived key hk] at hkey
    cases hkey
  exact get?_finish_of_ne hroot (hne _ (by simp)) (hne _ (by simp))

/-- Each single value comes out as the first source has it, if it has no dollar sign there; and a
setting that no source has does not come out. The root of the SDK is derived last. -/
theorem synthesize_scalar (h : options.synthesize project targetName source = .ok settings) :
    ∃ target platform, project.target? targetName = some target ∧
      (options.platformRequest project target).settings source = .ok platform ∧
      ∀ key, isScalarKey key = true → key ≠ "SDKROOT" →
        (∀ value ∈ options.decided? project target source platform key, '$' ∉ value.toList) →
        settings.get? key = options.decided? project target source platform key := by
  obtain ⟨target, platform, htarget, hplatform, rfl⟩ := SynthesisOptions.synthesize_eq_ok_iff.1 h
  refine ⟨target, platform, htarget, hplatform, fun key hkey hroot hdollar => ?_⟩
  have hfolded := SynthesisOptions.get?_folded_of_scalar hkey fun value hvalue =>
    hasInherited_of_closed (closed_of_dollar_notMem (hdollar value hvalue))
  rw [get?_finish_of_scalar hkey hroot]
  cases hdecided : options.decided? project target source platform key with
  | none => exact get?_expandReferences_of_none (hfolded.trans hdecided)
  | some value =>
    have hclosed := closed_of_dollar_notMem (hdollar value hdecided)
    exact get?_expandReferences_of_closed (hfolded.trans hdecided) hclosed

/-- A target with two configurations of one name, behind one of another name. -/
def toolTarget : Target where
  name := "Tool"
  configurations := [
    { name := "Release", settings := .ofList [("PRODUCT_NAME", .text "tool-release"),
      ("MARKETING_VERSION", .text "9.9"), ("SWIFT_VERSION", .text "4.0")] },
    { name := "Debug", settings := .ofList [("PRODUCT_NAME", .text " "),
      ("CONFIGURATION", .text "unused")] },
    { name := "Debug", settings := .ofList [("PRODUCT_NAME", .list ["tool", "debug"])] }]

/-- A project with this target only. Its configuration of another name has values for the same
settings, and one that no other source has. -/
def toolProject : Project where
  path := "/work/Tool.xcodeproj"
  name := "Tool"
  configurations := [
    { name := "Release", settings := .ofList [("SDKROOT", .text "iphoneos"),
      ("INFOPLIST_FILE", .text "Release.plist"), ("DEVELOPMENT_TEAM", .text "unused")] },
    { name := "Debug", settings := .ofList [("SDKROOT", .text "macosx"),
      ("PRODUCT_NAME", .text "unused"), ("INFOPLIST_FILE", .text "Info.plist")] }]
  targets := [toolTarget]

/-- Options with custom defaults and with a dump. -/
def toolOptions : SynthesisOptions :=
  { plainOptions with
    customDefaults := .ofList [("INFOPLIST_FILE", "unused"), ("SWIFT_VERSION", "6.0")]
    loaded := .ofList [("MACH_O_TYPE", "mh_dylib"), ("PLATFORM_NAME", "unused")] }

/-- Single values of this target, one from each source. -/
def toolValues : List (String × String) :=
  [("MACH_O_TYPE", "mh_dylib"), ("CONFIGURATION", "Debug"), ("PRODUCT_NAME", "tool debug"),
    ("INFOPLIST_FILE", "Info.plist"), ("SWIFT_VERSION", "6.0"), ("PROJECT_DIR", "/work"),
    ("PLATFORM_NAME", "macosx"), ("IPHONEOS_DEPLOYMENT_TARGET", "16.0")]

/-- Each of these values comes out, and what the configurations of another name have does not. -/
theorem synthesize_scalar_tool :
    ∃ settings, toolOptions.synthesize toolProject "Tool" macSource = .ok settings ∧
      (∀ e ∈ toolValues, settings.get? e.1 = some e.2) ∧
      settings.get? "MARKETING_VERSION" = none ∧ settings.get? "DEVELOPMENT_TEAM" = none := by
  obtain ⟨settings, hsettings⟩ : ∃ settings,
      toolOptions.synthesize toolProject "Tool" macSource = .ok settings :=
    SynthesisOptions.exists_synthesize rfl rfl
  obtain ⟨target, platform, htarget, hplatform, hall⟩ := synthesize_scalar hsettings
  obtain rfl : toolTarget = target := Option.some.inj htarget
  have hscalar : ∀ e ∈ toolValues, isScalarKey e.1 = true ∧ e.1 ≠ "SDKROOT" ∧
      '$' ∉ e.2.toList := by
    decide
  have hdecided : ∀ platform ∈ ((toolOptions.platformRequest toolProject toolTarget).settings
      macSource).toOption,
      (∀ e ∈ toolValues,
        toolOptions.decided? toolProject toolTarget macSource platform e.1 = some e.2) ∧
      ∀ key ∈ ["MARKETING_VERSION", "DEVELOPMENT_TEAM"],
        toolOptions.decided? toolProject toolTarget macSource platform key = none := by
    decide
  rw [hplatform] at hdecided
  obtain ⟨hvalues, hnone⟩ := hdecided platform rfl
  have hmissing : ∀ key ∈ ["MARKETING_VERSION", "DEVELOPMENT_TEAM"], isScalarKey key = true →
      key ≠ "SDKROOT" → settings.get? key = none := by
    intro key hkey hsingle hroot
    rw [hall key hsingle hroot (by simp [hnone key hkey]), hnone key hkey]
  refine ⟨settings, hsettings, fun e he => ?_, hmissing _ (by simp) (by decide) (by decide),
    hmissing _ (by simp) (by decide) (by decide)⟩
  obtain ⟨hkey, hroot, hdollar⟩ := hscalar e he
  have hvalue := hvalues e he
  rw [hall e.1 hkey hroot, hvalue]
  rintro value hmem
  obtain rfl := Option.some.inj (hvalue.symm.trans hmem)
  exact hdollar

end BuildSettings
