import BuildSettings.Platform

/-!
# The choice of a variant

A platform family is found by the name of either of its variants, and then the simulator is chosen
where there is one and it is asked for or named. So a choice depends on the name of an SDK only
through the variant that the name stands for, and it confirms itself:

* `find?_variantName_of_dollar` — a reference stands for no variant.
* `wantsSimulator_of_variant` — when the simulator is chosen, by the variant that is named.
* `settings_congr` — names for one variant lead to the same settings.
* `settings_of_platformName` — a name for the variant that was chosen leads to the same settings.
-/

namespace BuildSettings

namespace PlatformFamily

variable {family : PlatformFamily} {name : String}

/-- The variant for simulators, where there is one and it is asked for, or that for devices. -/
def variant (family : PlatformFamily) (simulator : Bool) : String :=
  if simulator then family.simulatorSdk.getD family.deviceSdk else family.deviceSdk

/-- No two families share a variant. -/
theorem find?_variant : ∀ family ∈ all, ∀ simulator,
    find? (family.variant simulator) = some family := by
  decide

/-- Simulators are told by their names: among the variants in the table those with this ending are
the simulators. -/
theorem endsWith_variant : ∀ family ∈ all, ∀ simulator,
    Text.endsWith (family.variant simulator) "simulator" =
      (simulator && family.simulatorSdk.isSome) := by
  decide

/-- No variant is a reference, so its name passes the expansion of references as it is. -/
theorem dollar_notMem_variant : ∀ family ∈ all, ∀ simulator,
    '$' ∉ (family.variant simulator).toList := by
  decide

/-- A family is found by a variant of it. -/
theorem exists_variant_of_find? (h : find? name = some family) :
    family ∈ all ∧ ∃ simulator, name = family.variant simulator := by
  refine ⟨List.mem_of_find?_eq_some h, ?_⟩
  have hname := List.find?_some h
  rw [Bool.or_eq_true, beq_iff_eq, isSimulatorSdk, beq_iff_eq] at hname
  rcases hname with hdevice | hsimulator
  · exact ⟨false, hdevice.symm⟩
  · refine ⟨true, ?_⟩
    rw [variant, if_pos rfl, hsimulator, Option.getD_some]

end PlatformFamily

/-- A blank name stands for no variant. -/
theorem variantName_of_blank {name : String} (h : Text.isBlankText name = true) :
    variantName name = "" := by
  unfold variantName
  rw [Text.trimChars_of_all (List.all_eq_true.1 h)]
  rfl

/-- A name that stands for a variant is not blank, so it is not passed over for another source of
the name. -/
theorem filled?_of_find? {settings : Settings} {key name : String} {family : PlatformFamily}
    (hget : settings.get? key = some name)
    (hfind : PlatformFamily.find? (variantName name) = some family) :
    Settings.filled? settings key = some name := by
  rw [Settings.filled?, hget, Option.filter_some]
  cases hblank : Text.isBlankText name with
  | false => rfl
  | true =>
    rw [variantName_of_blank hblank] at hfind
    cases hfind

/-- A dollar sign in the name of an SDK stays, if there is no slash: none of the steps from the name
to the variant drops it. So a reference never names a variant. -/
theorem dollar_mem_variantName {name : String} (hdollar : '$' ∈ name.toList)
    (hslash : '/' ∉ name.toList) : '$' ∈ (variantName name).toList := by
  let trimmed := ((Text.trimChars name.toList).reverse.dropWhile (· == '/')).reverse
  have htrimmed : '$' ∈ trimmed :=
    Text.mem_dropEndWhile (Text.mem_trimChars hdollar (by decide)) (by decide)
  have hwhole : Text.cutLast? '/' trimmed = none := by
    refine Text.cutLast?_of_notMem fun hmem => hslash ?_
    have hdropped := (List.dropWhile_sublist _).mem (List.mem_reverse.1 hmem)
    exact Text.mem_of_mem_trimChars (List.mem_reverse.1 hdropped)
  have hfile : '$' ∈ (Text.beforeEnd? ".sdk".toList trimmed).getD trimmed := by
    cases hend : Text.beforeEnd? ".sdk".toList trimmed with
    | none => exact htrimmed
    | some front => exact Text.mem_beforeEnd? htrimmed (by decide) hend
  -- what is dropped behind, the version, has digits and dots only
  have hbare : '$' ∈ ((Text.beforeEnd? ".sdk".toList trimmed).getD trimmed).map Char.toLower :=
    List.mem_map.2 ⟨'$', hfile, by decide⟩
  have hname := Text.mem_dropEndWhile (p := fun c => c.isDigit || c == '.') hbare (by decide)
  rw [← String.toList_ofList (l := List.reverse _)] at hname
  unfold variantName
  simp only
  rw [hwhole]
  simp only
  -- the names that are replaced have no dollar sign
  split
  next htvos => exact absurd (htvos ▸ hname) (by decide)
  next htvos => exact absurd (htvos ▸ hname) (by decide)
  next => exact hname

/-- No platform family has such a name. -/
theorem find?_variantName_of_dollar {name : String} (hdollar : '$' ∈ name.toList)
    (hslash : '/' ∉ name.toList) : PlatformFamily.find? (variantName name) = none := by
  cases hfind : PlatformFamily.find? (variantName name) with
  | none => rfl
  | some family =>
    obtain ⟨hfamily, simulator, hvariant⟩ := PlatformFamily.exists_variant_of_find? hfind
    have hname := dollar_mem_variantName hdollar hslash
    rw [hvariant] at hname
    exact absurd hname (PlatformFamily.dollar_notMem_variant family hfamily simulator)

namespace PlatformRequest

open PlatformFamily

variable {request : PlatformRequest} {family : PlatformFamily} {name : String} {source : SdkSource}
  {platform : Settings}

/-- The simulator is chosen if the family has one and it is asked for or named. -/
theorem wantsSimulator_of_variant (hfamily : family ∈ PlatformFamily.all) {simulator : Bool}
    (hname : variantName request.sdkName = family.variant simulator) :
    request.wantsSimulator family =
      (family.simulatorSdk.isSome && (request.forceSimulator || simulator)) := by
  rw [wantsSimulator, hname, endsWith_variant family hfamily simulator]
  cases request.forceSimulator <;> cases simulator <;> simp

/-- Without a family there is no SDK. -/
theorem settings_of_none (h : PlatformFamily.find? (variantName request.sdkName) = none) :
    request.settings source = .error ⟨request.sdkName, "no platform matches this SDK name"⟩ := by
  delta settings
  rw [h]

/-- The settings of a request, by the family that is found: those that describe the variant and the
SDK that is found for it or for the devices of the family. -/
theorem settings_of_find? (h : PlatformFamily.find? (variantName request.sdkName) = some family) :
    request.settings source =
      (findSdk source (family.variant (request.wantsSimulator family)) family.deviceSdk).map
        (request.describe family (request.wantsSimulator family)
          (family.variant (request.wantsSimulator family))) := by
  delta settings
  rw [h]
  rfl

theorem get?_describe_platformName (simulator : Bool) (variant : String) (sdk : Sdk) :
    (request.describe family simulator variant sdk).get? "PLATFORM_NAME" = some variant := by
  rw [describe, Dictionary.get?_ofList]
  rfl

/-- Where a platform has settings, the name is of a variant of some family, and the name of the
platform is the variant that was wanted. -/
theorem settings_eq_ok (h : request.settings source = .ok platform) :
    ∃ family, PlatformFamily.find? (variantName request.sdkName) = some family ∧
      platform.get? "PLATFORM_NAME" = some (family.variant (request.wantsSimulator family)) := by
  cases hfind : PlatformFamily.find? (variantName request.sdkName) with
  | none =>
    rw [settings_of_none hfind] at h
    cases h
  | some family =>
    rw [settings_of_find? hfind] at h
    refine ⟨family, rfl, ?_⟩
    cases hsdk : findSdk source (family.variant (request.wantsSimulator family))
        family.deviceSdk with
    | error e =>
      rw [hsdk] at h
      cases h
    | ok sdk =>
      rw [hsdk] at h
      obtain rfl := Except.ok.inj h
      exact get?_describe_platformName _ _ sdk

/-- The name of the SDK counts for the family and for the variant only. -/
theorem settings_of_name (hfind : PlatformFamily.find? (variantName request.sdkName) = some family)
    (hfind' : PlatformFamily.find? (variantName name) = some family)
    (hwants : { request with sdkName := name }.wantsSimulator family =
      request.wantsSimulator family) :
    { request with sdkName := name }.settings source = request.settings source := by
  have hsettings : { request with sdkName := name }.settings source = _ :=
    settings_of_find? hfind'
  rw [hwants] at hsettings
  exact hsettings.trans (settings_of_find? hfind).symm

/-- Names for one variant lead to the same settings, or to none of them. The errors may differ,
since they quote the name as it was written. -/
theorem settings_congr (source : SdkSource) (h : variantName request.sdkName = variantName name) :
    (∃ e e', request.settings source = .error e ∧
      { request with sdkName := name }.settings source = .error e') ∨
    ∃ platform, request.settings source = .ok platform ∧
      { request with sdkName := name }.settings source = .ok platform := by
  cases hfind : PlatformFamily.find? (variantName request.sdkName) with
  | none => exact .inl ⟨_, _, settings_of_none hfind, settings_of_none (h ▸ hfind)⟩
  | some family =>
    have hwants : { request with sdkName := name }.wantsSimulator family =
        request.wantsSimulator family := by
      rw [wantsSimulator, wantsSimulator, h]
    rw [settings_of_name hfind (h ▸ hfind) hwants]
    cases hsettings : request.settings source with
    | error e => exact .inl ⟨e, e, rfl, rfl⟩
    | ok platform => exact .inr ⟨platform, rfl, rfl⟩

/-- A name for the variant that was chosen chooses it again, so it leads to the same settings. The
variant may be the simulator of a name that was for devices. -/
theorem settings_of_platformName (h : request.settings source = .ok platform)
    (hname : platform.get? "PLATFORM_NAME" = some (variantName name)) :
    { request with sdkName := name }.settings source = .ok platform := by
  obtain ⟨family, hfind, hplatform⟩ := settings_eq_ok h
  obtain ⟨hfamily, named, hnamed⟩ := exists_variant_of_find? hfind
  have hvariant : variantName name = family.variant (request.wantsSimulator family) :=
    Option.some.inj (hname.symm.trans hplatform)
  have hfind' : PlatformFamily.find? (variantName name) = some family := by
    rw [hvariant, find?_variant family hfamily]
  have hwants : request.wantsSimulator family =
      (family.simulatorSdk.isSome && (request.forceSimulator || named)) :=
    wantsSimulator_of_variant hfamily hnamed
  have hwants' : { request with sdkName := name }.wantsSimulator family =
      (family.simulatorSdk.isSome &&
        (request.forceSimulator || request.wantsSimulator family)) :=
    wantsSimulator_of_variant hfamily hvariant
  rw [← h]
  refine settings_of_name hfind hfind' ?_
  rw [hwants', hwants]
  -- a simulator that was chosen exists, and was asked for or named
  cases family.simulatorSdk.isSome <;> cases request.forceSimulator <;> cases named <;> rfl

end PlatformRequest

end BuildSettings
