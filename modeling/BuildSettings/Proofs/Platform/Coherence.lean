import BuildSettings.Proofs.Platform.Variant
import Mathlib.Data.List.TFAE

/-!
# Settings of one variant

Whether a request is for a simulator shows in several settings: in the name of the SDK, in the
ending of build directories, in the target triple and in the architectures. All of them follow from
one choice (`Chooses`), whatever name was asked for and whatever SDKs there are. What is told of
the SDK itself is told of one SDK, that of the variant or else that of the devices (`Supplies`).

* `effectivePlatformName_eq` — the list of endings agrees with the table of families.
* `chooses_iff` — the choice, in terms of what is asked for and named.
* `findSdk_eq_ok_iff`, `findSdk_eq_error_iff` — the search for an SDK, with its second try.
* `settings_of_variant` — when there are settings, why there are none, and how they belong together.
-/

namespace BuildSettings

namespace PlatformFamily

variable {family : PlatformFamily} {name : String}

/-- The name is that of a variant of the family. -/
def Names (family : PlatformFamily) (name : String) : Prop :=
  family ∈ all ∧ (family.deviceSdk = name ∨ family.simulatorSdk = some name)

instance (family : PlatformFamily) (name : String) : Decidable (family.Names name) :=
  inferInstanceAs (Decidable (_ ∧ _))

/-- The name is that of a simulator. -/
def IsSimulator (name : String) : Prop :=
  ∃ family ∈ all, family.simulatorSdk = some name

instance (name : String) : Decidable (IsSimulator name) :=
  inferInstanceAs (Decidable (∃ family ∈ all, _))

/-- A variant belongs to one family, so finding a family by a name says no more than that the name
is that of one of its variants. -/
theorem find?_eq_some_iff : find? name = some family ↔ family.Names name := by
  constructor
  · intro h
    have hname := List.find?_some h
    rw [Bool.or_eq_true, beq_iff_eq, isSimulatorSdk, beq_iff_eq] at hname
    exact ⟨List.mem_of_find?_eq_some h, hname⟩
  · rintro ⟨hfamily, hdevice | hsimulator⟩
    · have hfind := find?_variant family hfamily false
      rwa [variant, if_neg Bool.false_ne_true, hdevice] at hfind
    · have hfind := find?_variant family hfamily true
      rwa [variant, if_pos rfl, hsimulator, Option.getD_some] at hfind

/-- A variant is a simulator if it was chosen as one and its family has one; a family without one
has the variant for devices twice. -/
theorem isSimulator_variant : ∀ family ∈ all, ∀ simulator,
    IsSimulator (family.variant simulator) ↔
      (simulator && family.simulatorSdk.isSome) = true := by
  decide

/-- No devices have the architectures of all simulators, which is how the architectures under the
universal policy tell a simulator. -/
theorem deviceArchs_ne_universal : ∀ family ∈ all,
    family.deviceArchs ≠ ArchPolicy.universal.simulatorArchs := by
  decide

/-- The list of endings agrees with the table of families: each simulator has its own name behind a
dash, and no other name has an ending. -/
theorem effectivePlatformName_eq (name : String) :
    effectivePlatformName name = if IsSimulator name then "-" ++ name else "" := by
  have hlisted : IsSimulator name → name = "iphonesimulator" ∨ name = "watchsimulator" ∨
      name = "appletvsimulator" ∨ name = "xrsimulator" := by
    simp [IsSimulator, all, eq_comm]
  unfold effectivePlatformName
  split
  next => decide
  next => decide
  next => decide
  next => decide
  -- a name outside of the list is no simulator
  next hiphone htv hwatch hxr =>
    refine (if_neg fun hsimulator => ?_).symm
    rcases hlisted hsimulator with h | h | h | h
    · exact hiphone h
    · exact hwatch h
    · exact htv h
    · exact hxr h

/-- Build directories of simulators have an ending, and those of devices have none. -/
theorem effectivePlatformName_ne_empty_iff :
    effectivePlatformName name ≠ "" ↔ IsSimulator name := by
  rw [effectivePlatformName_eq]
  split
  next h => exact iff_of_true (by simp) h
  next h => exact iff_of_false (by simp) h

end PlatformFamily

namespace PlatformRequest

open PlatformFamily

variable {request : PlatformRequest} {family : PlatformFamily} {source : SdkSource}
  {simulator : Bool} {platform : Settings}

/-! ### The choice -/

/-- The request names a variant of the family and chooses one of its variants: that for simulators
exactly if it is asked for and there is one, or the name is that of a simulator. -/
def Chooses (request : PlatformRequest) (family : PlatformFamily) (simulator : Bool) : Prop :=
  family.Names (variantName request.sdkName) ∧
    (simulator = true ↔ (request.forceSimulator = true ∧ family.simulatorSdk.isSome = true) ∨
      IsSimulator (variantName request.sdkName))

/-- The choice as it is computed: the family is found by the name, and the variant by the request
and by how the name ends. That a name ends so exactly if it is that of a simulator holds for the
names in the table only, so the family comes first. -/
theorem chooses_iff : request.Chooses family simulator ↔
    find? (variantName request.sdkName) = some family ∧
      request.wantsSimulator family = simulator := by
  rw [find?_eq_some_iff]
  refine and_congr_right fun hnames => ?_
  obtain ⟨hfamily, named, hname⟩ := exists_variant_of_find? (find?_eq_some_iff.2 hnames)
  rw [wantsSimulator_of_variant hfamily hname, hname, isSimulator_variant family hfamily named]
  cases family.simulatorSdk.isSome <;> cases request.forceSimulator <;> cases named <;>
    cases simulator <;> decide

theorem Chooses.mem (h : request.Chooses family simulator) : family ∈ all :=
  h.1.1

/-- A simulator is chosen where there is one: macOS has none, and its devices are chosen even when a
simulator is asked for. -/
theorem Chooses.isSome_simulatorSdk (h : request.Chooses family true) :
    family.simulatorSdk.isSome = true := by
  obtain ⟨hfind, hwants⟩ := chooses_iff.1 h
  obtain ⟨hfamily, named, hname⟩ := exists_variant_of_find? hfind
  rw [wantsSimulator_of_variant hfamily hname, Bool.and_eq_true] at hwants
  exact hwants.1

/-- The variant that is chosen is a simulator if the simulator is chosen, and only then. All
settings that tell a simulator come down to this. -/
theorem Chooses.isSimulator_iff (h : request.Chooses family simulator) :
    IsSimulator (family.variant simulator) ↔ simulator = true := by
  rw [isSimulator_variant family h.mem simulator]
  cases simulator with
  | false => simp
  | true => simp [h.isSome_simulatorSdk]

/-- The policy for architectures does not matter for the choice. -/
theorem Chooses.withPolicy (h : request.Chooses family simulator) (policy : ArchPolicy) :
    { request with archPolicy := policy }.Chooses family simulator :=
  h

/-! ### The SDK -/

/-- The source has the SDK for the variant or, if it has none for it, for the devices. -/
def Supplies (source : SdkSource) (variant device : String) (sdk : Sdk) : Prop :=
  source.find variant = .ok sdk ∨
    (∃ e, source.find variant = .error e) ∧ source.find device = .ok sdk

/-- The search gives an SDK if the source supplies one, with the second try for the devices as the
second way to supply it. -/
theorem findSdk_eq_ok_iff {variant device : String} {sdk : Sdk} :
    findSdk source variant device = .ok sdk ↔ Supplies source variant device sdk := by
  unfold findSdk Supplies
  cases hvariant : source.find variant with
  | ok found => simp
  | error e =>
    -- the variant for devices is not looked for again, but would not be found either
    by_cases hdevice : variant = device
    · simp [← hdevice, hvariant]
    · cases source.find device <;> simp [hdevice]

/-- The search fails if both tries do. The error is about the variant, with the wording of the
failure for the devices. -/
theorem findSdk_eq_error_iff {variant device : String} {error : InvalidSdk} :
    findSdk source variant device = .error error ↔
      (∃ e, source.find variant = .error e) ∧
        ∃ e, source.find device = .error e ∧ error = ⟨variant, e.message⟩ := by
  unfold findSdk
  cases hvariant : source.find variant with
  | ok found => simp
  | error e =>
    by_cases hdevice : variant = device
    · simp [← hdevice, hvariant, eq_comm]
    · cases source.find device <;> simp [hdevice, eq_comm]

/-! ### The settings -/

/-- With the choice made, the settings are those that describe the variant and the SDK that is found
for it. -/
theorem Chooses.settings_eq (h : request.Chooses family simulator) (source : SdkSource) :
    request.settings source = (findSdk source (family.variant simulator) family.deviceSdk).map
      (request.describe family simulator (family.variant simulator)) := by
  obtain ⟨hfind, rfl⟩ := chooses_iff.1 h
  exact settings_of_find? hfind

/-- A request that names a variant chooses one, since what it chooses is computed from the family
and the name. -/
theorem exists_chooses (h : find? (variantName request.sdkName) = some family) :
    ∃ simulator, request.Chooses family simulator :=
  ⟨request.wantsSimulator family, chooses_iff.2 ⟨h, rfl⟩⟩

/-- There are settings exactly if there is an SDK for the variant that is chosen, and then they
describe the choice and the SDK. The later results start from here and do not look at the function
again. -/
theorem settings_eq_ok_iff : request.settings source = .ok platform ↔
    ∃ family simulator sdk, request.Chooses family simulator ∧
      Supplies source (family.variant simulator) family.deviceSdk sdk ∧
      platform = request.describe family simulator (family.variant simulator) sdk := by
  constructor
  · intro h
    cases hfind : find? (variantName request.sdkName) with
    | none =>
      rw [settings_of_none hfind] at h
      cases h
    | some family =>
      obtain ⟨simulator, hchooses⟩ := exists_chooses hfind
      rw [hchooses.settings_eq] at h
      cases hsdk : findSdk source (family.variant simulator) family.deviceSdk with
      | error e =>
        rw [hsdk] at h
        cases h
      | ok sdk =>
        rw [hsdk] at h
        exact ⟨family, simulator, sdk, hchooses, findSdk_eq_ok_iff.1 hsdk,
          (Except.ok.inj h).symm⟩
  · rintro ⟨family, simulator, sdk, hchooses, hsdk, rfl⟩
    rw [hchooses.settings_eq, findSdk_eq_ok_iff.2 hsdk]
    rfl

/-- There are no settings if the name is of no variant, or no SDK is found for the variant and none
for the devices of its family; the second error tells what was found wrong with the devices. -/
theorem settings_eq_error_iff {error : InvalidSdk} : request.settings source = .error error ↔
    (¬ ∃ family : PlatformFamily, family.Names (variantName request.sdkName)) ∧
        error = ⟨request.sdkName, "no platform matches this SDK name"⟩ ∨
      ∃ family simulator, request.Chooses family simulator ∧
        (∃ e, source.find (family.variant simulator) = .error e) ∧
        ∃ e, source.find family.deviceSdk = .error e ∧
          error = ⟨family.variant simulator, e.message⟩ := by
  constructor
  · intro h
    -- either the name is of no variant, or neither the variant nor the devices have an SDK
    cases hfind : find? (variantName request.sdkName) with
    | none =>
      rw [settings_of_none hfind] at h
      refine .inl ⟨?_, (Except.error.inj h).symm⟩
      rintro ⟨family, hnames⟩
      rw [find?_eq_some_iff.2 hnames] at hfind
      cases hfind
    | some family =>
      obtain ⟨simulator, hchooses⟩ := exists_chooses hfind
      rw [hchooses.settings_eq] at h
      cases hsdk : findSdk source (family.variant simulator) family.deviceSdk with
      | error e =>
        rw [hsdk] at h
        obtain rfl := Except.error.inj h
        exact .inr ⟨family, simulator, hchooses, findSdk_eq_error_iff.1 hsdk⟩
      | ok sdk =>
        rw [hsdk] at h
        cases h
  · rintro (⟨hnone, rfl⟩ | ⟨family, simulator, hchooses, hmissing⟩)
    · refine settings_of_none (Option.eq_none_iff_forall_ne_some.2 fun family hfind => ?_)
      exact hnone ⟨family, find?_eq_some_iff.1 hfind⟩
    · rw [hchooses.settings_eq, findSdk_eq_error_iff.2 hmissing]
      rfl

/-- What is said of the variant and of the SDK, read off the list of settings. The names in the list
are all different, so each has the value that stands beside it. -/
theorem get?_describe (request : PlatformRequest) (family : PlatformFamily) (simulator : Bool)
    (variant : String) (sdk : Sdk) :
    let described := request.describe family simulator variant sdk
    (described.get? "SDKROOT" = some variant ∧ described.get? "PLATFORM_NAME" = some variant) ∧
    (described.get? "SDKROOT_PATH" = some sdk.path.text ∧
      described.get? "SDK_VERSION" = some sdk.version ∧
      described.get? "SDK_BUILD_VERSION" = some sdk.buildVersion) ∧
    described.get? "EFFECTIVE_PLATFORM_NAME" = some (effectivePlatformName variant) ∧
    described.get? "LLVM_TARGET_TRIPLE_SUFFIX" = some (if simulator then "-simulator" else "") ∧
    described.get? "ARCHS" =
      some (if simulator then request.archPolicy.simulatorArchs else family.deviceArchs) := by
  simp only [describe, Dictionary.get?_ofList]
  exact ⟨⟨rfl, rfl⟩, ⟨rfl, rfl, rfl⟩, rfl, rfl, rfl⟩

/-- The architectures are those of the policy for simulators, whichever policy it is. -/
def FollowsPolicy (request : PlatformRequest) (source : SdkSource) : Prop :=
  ∀ policy, ∃ platform, { request with archPolicy := policy }.settings source = .ok platform ∧
    platform.get? "ARCHS" = some policy.simulatorArchs

/-- The architectures follow the policy for simulators exactly if the simulator is chosen: those of
devices are fixed, so they miss the universal policy at least. -/
theorem followsPolicy_iff {sdk : Sdk} (h : request.Chooses family simulator)
    (hsdk : Supplies source (family.variant simulator) family.deviceSdk sdk) :
    request.FollowsPolicy source ↔ simulator = true := by
  have hsettings : ∀ policy, { request with archPolicy := policy }.settings source =
      .ok ({ request with archPolicy := policy }.describe family simulator
        (family.variant simulator) sdk) :=
    fun policy => settings_eq_ok_iff.2 ⟨family, simulator, sdk, h.withPolicy policy, hsdk, rfl⟩
  have harchs := fun policy => (get?_describe { request with archPolicy := policy } family
    simulator (family.variant simulator) sdk).2.2.2.2
  constructor
  · intro hfollows
    -- the universal policy tells the two apart: no device has the architectures of it
    obtain ⟨platform, hplatform, hpolicy⟩ := hfollows .universal
    obtain rfl := Except.ok.inj ((hsettings .universal).symm.trans hplatform)
    rw [harchs] at hpolicy
    cases simulator with
    | true => rfl
    | false => exact absurd (Option.some.inj hpolicy) (deviceArchs_ne_universal family h.mem)
  · rintro rfl policy
    exact ⟨_, hsettings policy, harchs policy⟩

/-- The settings are those of one variant of a family and of one SDK. -/
structure Describes (request : PlatformRequest) (source : SdkSource) (platform : Settings)
    (family : PlatformFamily) (simulator : Bool) (sdk : Sdk) : Prop where
  chooses : request.Chooses family simulator
  supplies : Supplies source (family.variant simulator) family.deviceSdk sdk
  root : platform.get? "SDKROOT" = some (family.variant simulator)
  platformName : platform.get? "PLATFORM_NAME" = some (family.variant simulator)
  path : platform.get? "SDKROOT_PATH" = some sdk.path.text
  version : platform.get? "SDK_VERSION" = some sdk.version
  buildVersion : platform.get? "SDK_BUILD_VERSION" = some sdk.buildVersion
  archs : platform.get? "ARCHS" =
    some (if simulator then request.archPolicy.simulatorArchs else family.deviceArchs)
  /-- All that tells a simulator from a device. -/
  together : [simulator = true,
    ∃ ending, ending ≠ "" ∧ platform.get? "EFFECTIVE_PLATFORM_NAME" = some ending,
    platform.get? "LLVM_TARGET_TRIPLE_SUFFIX" = some "-simulator",
    request.FollowsPolicy source,
    ∃ name, IsSimulator name ∧ platform.get? "PLATFORM_NAME" = some name].TFAE

/-- What a request makes of its choice and of an SDK describes the two, with all that tells a
simulator from a device in agreement. -/
theorem describes_describe {sdk : Sdk} (h : request.Chooses family simulator)
    (hsdk : Supplies source (family.variant simulator) family.deviceSdk sdk) :
    request.Describes source (request.describe family simulator (family.variant simulator) sdk)
      family simulator sdk := by
  obtain ⟨⟨hroot, hplatform⟩, ⟨hpath, hversion, hbuild⟩, hending, hsuffix, harchs⟩ :=
    get?_describe request family simulator (family.variant simulator) sdk
  have hends : (∃ ending, ending ≠ "" ∧ (request.describe family simulator
      (family.variant simulator) sdk).get? "EFFECTIVE_PLATFORM_NAME" = some ending) ↔
      simulator = true := by
    rw [hending, ← h.isSimulator_iff, ← effectivePlatformName_ne_empty_iff]
    simp only [Option.some.injEq, exists_eq_right']
  have htriple : (request.describe family simulator (family.variant simulator) sdk).get?
      "LLVM_TARGET_TRIPLE_SUFFIX" = some "-simulator" ↔ simulator = true := by
    rw [hsuffix]
    cases simulator <;> decide
  have hname : (∃ name, IsSimulator name ∧ (request.describe family simulator
      (family.variant simulator) sdk).get? "PLATFORM_NAME" = some name) ↔ simulator = true := by
    rw [hplatform, ← h.isSimulator_iff]
    simp only [Option.some.injEq, exists_eq_right']
  refine ⟨h, hsdk, hroot, hplatform, hpath, hversion, hbuild, harchs, ?_⟩
  -- each of them holds exactly if the simulator is chosen
  refine List.tfae_of_forall (simulator = true) _ (List.forall_mem_cons.2 ⟨Iff.rfl, ?_⟩)
  exact List.forall_mem_cons.2 ⟨hends, List.forall_mem_cons.2 ⟨htriple,
    List.forall_mem_cons.2 ⟨followsPolicy_iff h hsdk, List.forall_mem_singleton.2 hname⟩⟩⟩

/-- **The settings of a platform belong together.** There are some exactly if the name is that of a
variant and an SDK is found for the variant that is chosen or for the devices of its family;
otherwise it is said which of the two failed. The root and the name of the platform are the variant,
what is told of the SDK is told of one SDK, and all that tells a simulator from a device does so
together, as it was chosen. -/
theorem settings_of_variant (request : PlatformRequest) (source : SdkSource) :
    ((∃ platform, request.settings source = .ok platform) ↔
      ∃ family simulator, request.Chooses family simulator ∧
        ((∃ sdk, source.find (family.variant simulator) = .ok sdk) ∨
          ∃ sdk, source.find family.deviceSdk = .ok sdk)) ∧
    (∀ error, request.settings source = .error error ↔
      (¬ ∃ family : PlatformFamily, family.Names (variantName request.sdkName)) ∧
          error = ⟨request.sdkName, "no platform matches this SDK name"⟩ ∨
        ∃ family simulator, request.Chooses family simulator ∧
          (∃ e, source.find (family.variant simulator) = .error e) ∧
          ∃ e, source.find family.deviceSdk = .error e ∧
            error = ⟨family.variant simulator, e.message⟩) ∧
    ∀ platform, request.settings source = .ok platform →
      ∃ family simulator sdk, request.Describes source platform family simulator sdk := by
  refine ⟨?_, fun error => settings_eq_error_iff, fun platform hplatform => ?_⟩
  · have hsupplies : ∀ variant device, (∃ sdk, Supplies source variant device sdk) ↔
        (∃ sdk, source.find variant = .ok sdk) ∨ ∃ sdk, source.find device = .ok sdk := by
      intro variant device
      unfold Supplies
      cases source.find variant <;> simp
    simp only [settings_eq_ok_iff, ← hsupplies]
    constructor
    · rintro ⟨platform, family, simulator, sdk, hchooses, hsdk, -⟩
      exact ⟨family, simulator, hchooses, sdk, hsdk⟩
    · rintro ⟨family, simulator, hchooses, sdk, hsdk⟩
      exact ⟨_, family, simulator, sdk, hchooses, hsdk, rfl⟩
  · obtain ⟨family, simulator, sdk, hchooses, hsdk, rfl⟩ := settings_eq_ok_iff.1 hplatform
    exact ⟨family, simulator, sdk, describes_describe hchooses hsdk⟩

/-- A simulator for watches is named in the spelling of a directory, and there is an SDK for the
watches themselves only. -/
theorem settings_of_variant_watch :
    let request : PlatformRequest :=
      ⟨" /SDKs/WatchSimulator10.2.sdk/", "Debug", false, .universal, "5.0"⟩
    let source := SdkCatalog.source ⟨none, [⟨"watchos", ⟨"/SDKs/WatchOS10.2.sdk"⟩, "10.2", "21S"⟩]⟩
    ∃ platform, request.settings source = .ok platform ∧
      platform.get? "SDKROOT" = some "watchsimulator" ∧
      ∃ family simulator sdk, request.Describes source platform family simulator sdk := by
  intro request source
  obtain ⟨hok, -, hdescribes⟩ := settings_of_variant request source
  obtain ⟨family, hfamily⟩ : ∃ family, all[2]? = some family := ⟨_, rfl⟩
  have hchooses : request.Chooses family true := by
    obtain rfl := Option.some.inj hfamily
    exact ⟨by decide +kernel, by decide +kernel⟩
  have hdevices : ∃ sdk, source.find family.deviceSdk = .ok sdk := by
    obtain rfl := Option.some.inj hfamily
    exact ⟨_, rfl⟩
  obtain ⟨platform, hplatform⟩ := hok.2 ⟨family, true, hchooses, .inr hdevices⟩
  -- the settings are computed only for the one entry that is asked for
  have hroot : (request.settings source).toOption.bind (·.get? "SDKROOT") =
      some "watchsimulator" := by
    decide +kernel
  rw [hplatform] at hroot
  exact ⟨platform, hplatform, hroot, hdescribes platform hplatform⟩

end PlatformRequest

end BuildSettings
