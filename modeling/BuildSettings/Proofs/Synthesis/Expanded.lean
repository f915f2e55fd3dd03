import BuildSettings.Proofs.Setting.Course
import BuildSettings.Proofs.Setting.Locality
import BuildSettings.Proofs.Synthesis.Derived
import BuildSettings.Proofs.Text.TokenList

/-!
# No reference is left

A caller should get no value with a reference in it. The rounds see to that for all settings that
they settle. The last pass drops the references that are left, and does not look at the text again
in which they stood: where a dollar sign stands in front of such a reference or around it, what
remains may be a reference (`expandReferences_nested`). Where each dollar sign begins a reference
there is none left to begin another one.

* `Frees.closed` — a setting that the rounds settle has no reference, and neither has one that
  reaches only values whose dollar signs begin references.
* `hasReference_eq_false_of_handedOut` — so it is for the settings of a map, of several layers and
  of a target.
-/

namespace BuildSettings

open Setting

/-! ### Settings that lose their references -/

namespace Setting

variable {m : Settings} {key value : String}

/-- The rounds settle the setting, or each dollar sign of it and of the settings that it reaches
begins a reference. -/
def Frees (m : Settings) (key : String) : Prop :=
  (Rounds.last m).1.contains key = true ∨
    ∀ a value, Reaches m key a → m.get? a = some value → DollarsRefer value.toList

/-- A setting that the rounds settle has no reference because only such values are settled.
Otherwise what it reaches is confined, and no value of a confined set has a dollar sign after the
expansion. -/
theorem Frees.closed (h : Frees m key) (hget : (expandReferences m).get? key = some value) :
    hasReference value = false := by
  rcases h with hsettled | hdollars
  · obtain ⟨w, hw⟩ := Dictionary.contains_iff.1 hsettled
    obtain rfl := Option.some.inj (hget.symm.trans (last_isPart m key w hw))
    exact (iterate_hasReference m rounds).settled key value hw
  · exact closed_of_dollar_notMem
      (expandReferences_plain (confined_reaches hdollars) key value hget .refl)

end Setting

/-! ### What is derived last -/

/-- No value has a dollar sign. -/
def Plain (settings : Settings) : Prop :=
  ∀ key value, settings.get? key = some value → '$' ∉ value.toList

variable {settings : Settings}

theorem Plain.insert (h : Plain settings) {key value : String} (hvalue : '$' ∉ value.toList) :
    Plain (settings.insert key value) := by
  intro a w hw
  rw [Dictionary.get?_insert] at hw
  split at hw
  next => exact Option.some.inj hw ▸ hvalue
  next => exact h a w hw

theorem Plain.getD (h : Plain settings) (key default : String)
    (hdefault : '$' ∉ default.toList) : '$' ∉ ((settings.get? key).getD default).toList := by
  cases hget : settings.get? key with
  | none => exact hdefault
  | some value => exact h key value hget

/-- The tokens of a list are parts of its text. -/
theorem Plain.list (h : Plain settings) (key : String) :
    ∀ token ∈ Settings.list settings key, '$' ∉ token.toList := by
  intro token htoken hdollar
  unfold Settings.list at htoken
  cases hget : settings.get? key with
  | none =>
    rw [hget] at htoken
    cases htoken
  | some value =>
    rw [hget, Option.map_some, Option.getD_some, Text.splitList] at htoken
    obtain ⟨cs, hcs, rfl⟩ := List.mem_map.1 htoken
    rw [String.toList_ofList] at hdollar
    rcases Text.mem_of_mem_tokensFrom hcs hdollar with hnil | hmem
    · cases hnil
    · exact h key value hget hmem

/-- The architecture is a token of a list, another setting or nothing. -/
theorem Plain.currentArch (h : Plain settings) : '$' ∉ (currentArch settings).toList := by
  unfold BuildSettings.currentArch
  simp only
  split
  next => exact h.getD "NATIVE_ARCH" "" (by decide)
  next =>
    cases harchs : Settings.list settings "ARCHS" with
    | nil => exact h.getD "NATIVE_ARCH" "" (by decide)
    | cons arch archs => exact h.list "ARCHS" arch (harchs ▸ List.mem_cons_self ..)

/-- The triple is put together from settings, with hyphens between them. -/
theorem Plain.targetTriple? (h : Plain settings) {arch triple : String}
    (harch : '$' ∉ arch.toList) (htriple : targetTriple? settings arch = some triple) :
    '$' ∉ triple.toList := by
  obtain ⟨os, hos, rfl⟩ := Option.map_eq_some_iff.1 htriple
  have hosPlain := h _ os (Option.filter_eq_some_iff.1 hos).1
  have hvendor := h.getD "LLVM_TARGET_TRIPLE_VENDOR" "apple" (by decide)
  have hsuffix := h.getD "LLVM_TARGET_TRIPLE_SUFFIX" "" (by decide)
  simp [harch, hosPlain, hvendor, hsuffix]

/-- What is derived from values without dollar signs has none: the root of the SDK, the architecture
and the triple are values, or parts and joins of them. -/
theorem Plain.finish (h : Plain settings) : Plain (finish settings) := by
  have hsdk : Plain (withSdkPath settings) := by
    unfold withSdkPath
    split
    next path hpath => exact h.insert (h _ path (Option.filter_eq_some_iff.1 hpath).1)
    next => exact h
  unfold BuildSettings.finish withArch
  simp only
  split
  next => exact hsdk
  next =>
    -- the triple and the architecture are made of values that have no dollar sign
    refine Plain.insert ?_ hsdk.currentArch
    split
    next triple htriple => exact hsdk.insert (hsdk.targetTriple? hsdk.currentArch htriple)
    next => exact hsdk

/-! ### Settings that callers get -/

/-- The ways in which a caller gets the expanded values of settings `m`: those of a map, of several
layers and of a target. -/
inductive HandedOut : Settings → Settings → Prop where
  | expanded (m : Settings) : HandedOut m (expandReferences m)
  | resolved (layers : Layers) : HandedOut layers.merged layers.resolveAll
  | synthesized {options : SynthesisOptions} {project : Project} {target : Target}
      {targetName : String} {source : SdkSource} {platform settings : Settings}
      (htarget : project.target? targetName = some target)
      (hplatform : (options.platformRequest project target).settings source = .ok platform)
      (hsettings : options.synthesize project targetName source = .ok settings) :
      HandedOut (options.folded project target source platform) settings

/-- What is handed out is the expanded settings, perhaps with what is derived from them. -/
theorem HandedOut.eq_or_finish {m out : Settings} (h : HandedOut m out) :
    out = expandReferences m ∨ out = finish (expandReferences m) := by
  cases h with
  | expanded m => exact .inl rfl
  | resolved layers => exact .inl rfl
  | synthesized htarget hplatform hsettings =>
    obtain ⟨target', platform', htarget', hplatform', rfl⟩ :=
      SynthesisOptions.synthesize_eq_ok_iff.1 hsettings
    obtain rfl := Option.some.inj (htarget.symm.trans htarget')
    obtain rfl := Except.ok.inj (hplatform.symm.trans hplatform')
    exact .inr rfl

/-- What is handed out has the expanded value of each setting that is not derived last. -/
theorem HandedOut.get?_of_ne {m out : Settings} (h : HandedOut m out) (key : String)
    (hroot : key ≠ "SDKROOT") (htriple : key ≠ "TARGET_TRIPLE") (harch : key ≠ "CURRENT_ARCH") :
    out.get? key = (expandReferences m).get? key := by
  rcases h.eq_or_finish with rfl | rfl
  · rfl
  · exact get?_finish_of_ne hroot htriple harch

/-- No caller gets a reference in an expanded value of a setting that is freed of its references. If
each dollar sign of all settings begins a reference, then no value that a caller gets has one, those
derived last included. -/
theorem hasReference_eq_false_of_handedOut {m out : Settings} {key value : String}
    (h : HandedOut m out) (hget : out.get? key = some value)
    (hfrees : out.get? key = (expandReferences m).get? key ∧ Frees m key ∨
      ∀ a raw, m.get? a = some raw → DollarsRefer raw.toList) :
    hasReference value = false := by
  rcases hfrees with ⟨hexpanded, hfrees⟩ | hdollars
  · exact hfrees.closed (hexpanded.symm.trans hget)
  · have hplain : Plain (expandReferences m) := by
      intro a w hw
      -- what a setting reaches is confined, so its value is free of dollar signs in the end
      have hconfined : Confined m (Reaches m a) :=
        confined_reaches fun b raw _ hraw => hdollars b raw hraw
      exact expandReferences_plain hconfined a w hw .refl
    rcases h.eq_or_finish with rfl | rfl
    · exact closed_of_dollar_notMem (hplain key value hget)
    · exact closed_of_dollar_notMem (hplain.finish key value hget)

/-- A reference inside the name of another one, and one to a name that is not there. -/
def nestedSettings : Settings :=
  .ofList [("OTHER_CFLAGS", "$(FLAGS_$(SUFFIX)) $"), ("SUFFIX", "X"), ("FLAGS_X", "-O2"),
    ("LOST", "a$(NOWHERE)b$(LOST)")]

/-- The first of these settings is settled by the rounds, though a dollar sign in it begins no
reference; the second one is not, but reaches only values whose dollar signs do. -/
theorem frees_nested : ∀ key ∈ ["OTHER_CFLAGS", "LOST"], Frees nestedSettings key := by
  have hflags : (Rounds.last nestedSettings).1.contains "OTHER_CFLAGS" = true := by
    decide +kernel
  have hlost : ∀ a ∈ ["LOST", "NOWHERE"], ∀ value ∈ nestedSettings.get? a,
      DollarsRefer value.toList ∧ ∀ b ∈ names value, b ∈ ["LOST", "NOWHERE"] := by
    decide
  intro key hkey
  simp only [List.mem_cons, List.not_mem_nil, or_false] at hkey
  rcases hkey with rfl | rfl
  · exact .inl hflags
  · refine .inr fun a value ha hget => (hlost a ?_ value hget).1
    exact mem_of_reaches (fun a ha value hget => (hlost a ha value hget).2) (by decide) ha

/-- The name of a product is settled by the rounds. -/
theorem contains_last_beta {platform : Settings} (hplatform :
      (plainOptions.platformRequest betaProject betaTarget).settings macSource = .ok platform) :
    (Rounds.last (plainOptions.folded betaProject betaTarget macSource platform)).1.contains
      "PRODUCT_NAME" = true := by
  have hground : Grounded betaParts (rounds + 1) "PRODUCT_NAME" := by decide +kernel
  exact last_contains_of_grounded (hground.of_isPart (betaParts_isPart hplatform))

theorem hasReference_eq_false_of_handedOut_nested :
    (∀ key ∈ ["OTHER_CFLAGS", "LOST"], ∃ value,
      (expandReferences nestedSettings).get? key = some value ∧ hasReference value = false) ∧
    (∃ value, (Layers.resolveAll { target := [nestedSettings] }).get? "OTHER_CFLAGS" = some value ∧
      hasReference value = false) ∧
    ∃ settings value, plainOptions.synthesize betaProject "App" macSource = .ok settings ∧
      settings.get? "PRODUCT_NAME" = some value ∧ hasReference value = false := by
  refine ⟨fun key hkey => ?_, ?_, ?_⟩
  · have hcontains : ∀ key ∈ ["OTHER_CFLAGS", "LOST"], nestedSettings.contains key = true := by
      decide +kernel
    obtain ⟨value, hget⟩ := Dictionary.contains_iff.1
      (contains_expandReferences.2 (hcontains key hkey))
    exact ⟨value, hget, hasReference_eq_false_of_handedOut (.expanded _) hget
      (.inl ⟨rfl, frees_nested key hkey⟩)⟩
  · have hsettled : (Rounds.last (Layers.merged { target := [nestedSettings] })).1.contains
        "OTHER_CFLAGS" = true := by
      decide +kernel
    obtain ⟨value, hget⟩ := Dictionary.contains_iff.1 ((last_isPart _).contains hsettled)
    exact ⟨value, hget, hasReference_eq_false_of_handedOut (.resolved _) hget
      (.inl ⟨rfl, .inl hsettled⟩)⟩
  · obtain ⟨platform, hplatform⟩ : ∃ platform,
        (plainOptions.platformRequest betaProject betaTarget).settings macSource = .ok platform :=
      ⟨_, rfl⟩
    obtain ⟨settings, hsettings⟩ : ∃ settings,
        plainOptions.synthesize betaProject "App" macSource = .ok settings :=
      SynthesisOptions.exists_synthesize rfl hplatform
    have hout := HandedOut.synthesized rfl hplatform hsettings
    have hexpanded := hout.get?_of_ne "PRODUCT_NAME" (by decide) (by decide) (by decide)
    have hsettled := contains_last_beta hplatform
    obtain ⟨value, hvalue⟩ := Dictionary.contains_iff.1 ((last_isPart _).contains hsettled)
    have hget := hexpanded.trans hvalue
    exact ⟨settings, value, hsettings, hget, hasReference_eq_false_of_handedOut hout hget
      (.inl ⟨hexpanded, .inl hsettled⟩)⟩

/-- A reference whose name holds one to an unknown name is not dropped: the last pass takes out what
stands inside, and what is left is a reference. -/
theorem expandReferences_nested :
    ¬ ∀ (m : Settings) (key value : String), (expandReferences m).get? key = some value →
      hasReference value = false := by
  intro hall
  have hclosed := hall (.ofList [("OTHER_CFLAGS", "$(FLAGS_$(SUFFIX))")]) "OTHER_CFLAGS"
    "$(FLAGS_)" (by decide +kernel)
  revert hclosed
  decide +kernel

end BuildSettings
