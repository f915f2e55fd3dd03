import BuildSettings.Proofs.Setting.Locality
import BuildSettings.Proofs.Setting.Template
import BuildSettings.Proofs.Synthesis.Folded

/-!
# Derived settings

Four settings of a project's environment are templates over other settings: the name of the module
and three directories. Unless somebody has written such a setting, it should come out as its
template says, for the final values of the settings that it names.

All four are templates in the sense of `Template` (`Derived.template_of_mem`), and so
`synthesize_derived` follows from `expandReferences_template`. As there, a setting that is still
open after the rounds has its final value only from the last pass on, and so it counts only for
templates with later names. The name of the module is not such a template: it gets lost where the
name of the product meets an unknown one (`synthesize_derived_early`).
-/

namespace BuildSettings

open Setting

/-- A setting that is made of other settings. -/
structure Derived where
  key : String
  template : String
  /-- The value where the other settings have the given ones. -/
  value : (String → String) → String

namespace Derived

/-- The name of the module is that of the product as an identifier. -/
def moduleName : Derived where
  key := "PRODUCT_MODULE_NAME"
  template := "$(PRODUCT_NAME:c99extidentifier)"
  value σ := Text.c99Identifier (σ "PRODUCT_NAME")

/-- The directory for the products of a configuration. -/
def buildDir : Derived where
  key := "CONFIGURATION_BUILD_DIR"
  template := "$(SYMROOT)/$(CONFIGURATION)-$(PLATFORM_NAME)"
  value σ := Text.trim (σ "SYMROOT" ++ "/" ++ σ "CONFIGURATION" ++ "-" ++ σ "PLATFORM_NAME")

/-- The directory for what is made on the way to them. -/
def tempDir : Derived where
  key := "CONFIGURATION_TEMP_DIR"
  template := "$(OBJROOT)/$(PROJECT_NAME).build/$(CONFIGURATION)-$(PLATFORM_NAME)"
  value σ := Text.trim (σ "OBJROOT" ++ "/" ++ σ "PROJECT_NAME" ++ ".build/" ++
    σ "CONFIGURATION" ++ "-" ++ σ "PLATFORM_NAME")

/-- The same for one target. -/
def targetTempDir : Derived where
  key := "TARGET_TEMP_DIR"
  template := "$(CONFIGURATION_TEMP_DIR)/$(TARGET_NAME).build"
  value σ := Text.trim (σ "CONFIGURATION_TEMP_DIR" ++ "/" ++ σ "TARGET_NAME" ++ ".build")

/-- All settings that the environment of a project derives. -/
def all : List Derived :=
  [moduleName, buildDir, tempDir, targetTempDir]

theorem forall_mem_all {P : Derived → Prop} :
    (∀ d ∈ all, P d) ↔ P moduleName ∧ P buildDir ∧ P tempDir ∧ P targetTempDir := by
  simp [all]

/-- A reference without a modifier. -/
def named (a : String) : Piece :=
  .reference ⟨false, a.toList, none⟩

/-- The pieces of each template, written out. They are read back from their spelling
(`pieces_of_spelling`), so nothing is computed but whether they are clean. -/
theorem pieces_moduleName : pieces moduleName.template =
    [.reference ⟨false, "PRODUCT_NAME".toList, some "c99extidentifier".toList⟩] :=
  pieces_of_spelling (by decide) (by decide)

theorem pieces_buildDir : pieces buildDir.template =
    [named "SYMROOT", .char '/', named "CONFIGURATION", .char '-', named "PLATFORM_NAME"] :=
  pieces_of_spelling (by decide) (by decide)

theorem pieces_tempDir : pieces tempDir.template =
    [named "OBJROOT", .char '/', named "PROJECT_NAME"] ++ ".build/".toList.map .char ++
      [named "CONFIGURATION", .char '-', named "PLATFORM_NAME"] :=
  pieces_of_spelling (by decide) (by decide)

theorem pieces_targetTempDir : pieces targetTempDir.template =
    [named "CONFIGURATION_TEMP_DIR", .char '/', named "TARGET_NAME"] ++
      ".build".toList.map .char :=
  pieces_of_spelling (by decide) (by decide)

/-- Each of the four is a template: its references are the only place for dollar signs and are kept
apart by slashes, hyphens and dots. -/
theorem template_of_mem : ∀ d ∈ all, Template d.template := by
  refine forall_mem_all.2 ⟨?_, ?_, ?_, ?_⟩
  · exact .of_pieces pieces_moduleName (by decide) (by decide) (by decide) (by decide)
  · exact .of_pieces pieces_buildDir (by decide) (by decide) (by decide) (by decide)
  · exact .of_pieces pieces_tempDir (by decide) (by decide) (by decide) (by decide)
  · exact .of_pieces pieces_targetTempDir (by decide) (by decide) (by decide) (by decide)

@[simp] theorem names_moduleName : names moduleName.template = ["PRODUCT_NAME"] := by
  rw [names, pieces_moduleName]
  rfl

@[simp] theorem names_buildDir :
    names buildDir.template = ["SYMROOT", "CONFIGURATION", "PLATFORM_NAME"] := by
  rw [names, pieces_buildDir]
  rfl

@[simp] theorem names_tempDir :
    names tempDir.template = ["OBJROOT", "PROJECT_NAME", "CONFIGURATION", "PLATFORM_NAME"] := by
  rw [names, pieces_tempDir]
  rfl

@[simp] theorem names_targetTempDir :
    names targetTempDir.template = ["CONFIGURATION_TEMP_DIR", "TARGET_NAME"] := by
  rw [names, pieces_targetTempDir]
  rfl

/-- No derived setting is named by its own template or given by the request or a built-in default,
and no template inherits. -/
theorem key_of_mem : ∀ d ∈ all, d.key ∉ names d.template ∧ builtinDefault? d.key = none ∧
    d.key ∉ ["CONFIGURATION", "TARGET_NAME", "PRODUCT_TYPE"] ∧
    hasInherited d.template = false := by
  simp only [forall_mem_all, names_moduleName, names_buildDir, names_tempDir,
    names_targetTempDir]
  decide

/-- Finishing the settings touches no derived one and none that a template names. -/
theorem notMem_finish : ∀ d ∈ all, ∀ a ∈ d.key :: names d.template,
    a ≠ "SDKROOT" ∧ a ≠ "TARGET_TRIPLE" ∧ a ≠ "CURRENT_ARCH" := by
  simp only [forall_mem_all, names_moduleName, names_buildDir, names_tempDir,
    names_targetTempDir]
  decide

/-- The earlier settings that a template names are given by the request or derived themselves. -/
theorem earlier_of_mem : ∀ d ∈ all, ∀ a ∈ names d.template, a < d.key →
    a ∈ ["CONFIGURATION", "TARGET_NAME"] ∨ ∃ e ∈ all, e.key = a := by
  simp only [forall_mem_all, names_moduleName, names_buildDir, names_tempDir,
    names_targetTempDir]
  decide

/-- The environment of a project has each derived setting as its template. -/
theorem get?_environment (project : Project) (derivedData : Path)
    (installation : Option Installation) {d : Derived} (hd : d ∈ all) :
    (environment project derivedData installation).get? d.key = some d.template := by
  rw [environment, Dictionary.get?_ofList]
  simp only [all, List.mem_cons, List.not_mem_nil, or_false] at hd
  cases installation with
  | none => rcases hd with rfl | rfl | rfl | rfl <;> rfl
  | some i => rcases hd with rfl | rfl | rfl | rfl <;> rfl

/-- An identifier has no blanks at its ends. -/
theorem trimChars_c99Identifier (s : String) :
    Text.trimChars (Text.c99Identifier s).toList = (Text.c99Identifier s).toList := by
  have hblank : ∀ c ∈ (Text.c99Identifier s).toList, Text.isBlank c = false := by
    intro c hc
    rw [Bool.eq_false_iff]
    intro hblank
    have hword := Text.isWordChar_of_mem_c99Identifier c hc
    rw [(Reference.isBreak_of_isBlank hblank).noWord] at hword
    cases hword
  rw [Text.trimChars_of_forall hblank]

/-- What is derived after the expansion is no derived setting and none that a template names. -/
theorem get?_finish {d : Derived} (hd : d ∈ all) (settings : Settings) :
    ∀ a ∈ d.key :: names d.template, (finish settings).get? a = settings.get? a := by
  intro a ha
  obtain ⟨hroot, htriple, harch⟩ := notMem_finish d hd a ha
  exact get?_finish_of_ne hroot htriple harch

/-- The earlier settings that a template names are always there. -/
theorem contains_of_earlier {options : SynthesisOptions} {project : Project} {target : Target}
    {source : SdkSource} {platform : Settings} {d : Derived} (hd : d ∈ all) {a : String}
    (ha : a ∈ names d.template) (hlt : a < d.key) :
    (options.folded project target source platform).contains a = true := by
  refine SynthesisOptions.contains_folded ?_
  rcases earlier_of_mem d hd a ha hlt with hgiven | ⟨e, he, rfl⟩
  · exact .inl (contains_requestLayer hgiven)
  · exact .inr (Dictionary.contains_iff.2 ⟨_, get?_environment _ _ _ he⟩)

theorem fill_named (σ : String → String) (a : String) : (named a).fill σ = (σ a).toList := by
  rw [named, Piece.fill, Reference.target, String.ofList_toList]
  rfl

theorem fill_char (σ : String → String) (c : Char) : (Piece.char c).fill σ = [c] :=
  rfl

/-- The templates filled in give the values that are said to be derived, so that those need not be
read off the templates. -/
theorem fill_of_mem (σ : String → String) {d : Derived} (hd : d ∈ all) :
    fill σ d.template = d.value σ := by
  simp only [all, List.mem_cons, List.not_mem_nil, or_false] at hd
  rcases hd with rfl | rfl | rfl | rfl
  · rw [fill, pieces_moduleName]
    simp [Piece.fill, Reference.apply, Reference.target, Setting.modify, moduleName,
      trimChars_c99Identifier]
  · rw [fill, pieces_buildDir]
    simp [fill_named, fill_char, Text.trim, buildDir]
  · rw [fill, pieces_tempDir]
    simp [fill_named, fill_char, Text.trim, tempDir]
  · rw [fill, pieces_targetTempDir]
    simp [fill_named, fill_char, Text.trim, targetTempDir]

end Derived

variable {options : SynthesisOptions} {project : Project} {targetName : String}
  {source : SdkSource} {settings : Settings}

/-- Each derived setting that nobody has written comes out as its template for the final values of
the settings that it names, if each of those has an earlier name, or has chains of at most `rounds`
links that end at settings, or is settled by the rounds for whatever other reason. -/
theorem synthesize_derived (h : options.synthesize project targetName source = .ok settings) :
    ∃ target platform, project.target? targetName = some target ∧
      (options.platformRequest project target).settings source = .ok platform ∧
      let folded := options.folded project target source platform
      ∀ d ∈ Derived.all, (∀ layer ∈ options.written project target, layer.get? d.key = none) →
        (∀ a ∈ names d.template, a < d.key ∨ Grounded folded (rounds + 1) a ∨
          (Rounds.last folded).1.contains a = true) →
        settings.get? d.key = some (d.value (valueOf settings)) := by
  obtain ⟨target, platform, htarget, hplatform, rfl⟩ := SynthesisOptions.synthesize_eq_ok_iff.1 h
  refine ⟨target, platform, htarget, hplatform, ?_⟩
  intro folded d hd hunwritten hnames
  obtain ⟨hself, hbuiltin, hrequest, hplain⟩ := Derived.key_of_mem d hd
  have hfinish := Derived.get?_finish hd (expandReferences folded)
  -- nobody has written the setting, so the template is what is expanded
  have hget : folded.get? d.key = some d.template :=
    SynthesisOptions.get?_folded_of_unwritten hbuiltin (get?_requestLayer_of_notMem hrequest)
      (Derived.get?_environment _ _ _ hd) hplain hunwritten
  -- an earlier name is that of a setting that is always there
  have hready : ∀ a ∈ names d.template,
      (Rounds.last folded).1.contains a = true ∨ folded.contains a = true ∧ a < d.key := by
    intro a ha
    rcases hnames a ha with hlt | hground | hsettled
    · exact .inr ⟨Derived.contains_of_earlier hd ha hlt, hlt⟩
    · exact .inl (last_contains_of_grounded hground)
    · exact .inl hsettled
  have hvalue := expandReferences_template (Derived.template_of_mem d hd) hget hself hready
  -- finishing does not touch the settings that the template names
  have hfill : fill (valueOf (expandReferences folded)) d.template =
      fill (valueOf (finish (expandReferences folded))) d.template := by
    refine fill_congr fun a ha => ?_
    rw [valueOf, valueOf, hfinish a (List.mem_cons_of_mem _ ha)]
  rw [hfinish d.key (List.mem_cons_self ..), hvalue, hfill, Derived.fill_of_mem _ hd]

/-- A target whose product has a name of its own. -/
def betaTarget : Target where
  name := "App"
  configurations := [{ name := "Debug", settings := .ofList [
    ("PRODUCT_NAME", .text "My $(TARGET_NAME)$(CHANNEL)"), ("CHANNEL", .text " beta"),
    ("SYMROOT", .text "$(PROJECT_DIR)/out")] }]

/-- A project with this target only. -/
def betaProject : Project where
  path := "/work/App.xcodeproj"
  name := "App"
  configurations := [{ name := "Debug", settings := .ofList [("SDKROOT", .text "macosx")] }]
  targets := [betaTarget]

/-- A source with one SDK. -/
def macSource : SdkSource :=
  SdkCatalog.source { sdks := [{ name := "macosx", path := ⟨"/sdk"⟩, version := "14.2" }] }

/-- Options without defaults and without a dump. -/
def plainOptions : SynthesisOptions where
  configuration := "Debug"
  derivedData := ⟨"/derived"⟩
  forceSimulator := false
  archPolicy := .universal
  swiftVersion := "5.9"
  customDefaults := ∅
  loaded := ∅

/-- What the derived settings are made of in this project. -/
def betaParts : Settings :=
  .ofList [("CHANNEL", " beta"), ("CONFIGURATION", "Debug"),
    ("CONFIGURATION_TEMP_DIR", Derived.tempDir.template),
    ("OBJROOT", "/derived/Build/Intermediates.noindex"), ("PLATFORM_NAME", "macosx"),
    ("PRODUCT_NAME", "My $(TARGET_NAME)$(CHANNEL)"), ("PROJECT_DIR", "/work"),
    ("PROJECT_NAME", "App"), ("SYMROOT", "$(PROJECT_DIR)/out"), ("TARGET_NAME", "App")]

/-- What the derived settings are made of in this project is part of what is expanded, whatever else
the platform brings in. So the small map decides, and the large one need not be computed. -/
theorem betaParts_isPart {platform : Settings} (hplatform :
      (plainOptions.platformRequest betaProject betaTarget).settings macSource = .ok platform) :
    betaParts.IsPart (plainOptions.folded betaProject betaTarget macSource platform) := by
  have hparts : ∀ platform ∈ ((plainOptions.platformRequest betaProject betaTarget).settings
      macSource).toOption, ∀ entry ∈ betaParts.entries,
      (plainOptions.layers betaProject betaTarget
        (plainOptions.defaults betaProject macSource platform)).resolve entry.1 =
          some entry.2 := by
    simp only [Layers.resolve, SynthesisOptions.values_defaults]
    decide +kernel
  rw [hplatform] at hparts
  refine Dictionary.isPart_iff.2 fun entry hentry => ?_
  rw [SynthesisOptions.get?_folded_of_none rfl]
  exact hparts platform rfl entry hentry

/-- All four settings are derived, over settings that refer to others; what they name is settled by
the rounds, or comes earlier. -/
theorem synthesize_derived_beta :
    ∃ settings, plainOptions.synthesize betaProject "App" macSource = .ok settings ∧
      ∀ d ∈ Derived.all, settings.get? d.key = some (d.value (valueOf settings)) := by
  obtain ⟨settings, hsettings⟩ : ∃ settings,
      plainOptions.synthesize betaProject "App" macSource = .ok settings :=
    SynthesisOptions.exists_synthesize rfl rfl
  obtain ⟨target, platform, htarget, hplatform, hall⟩ := synthesize_derived hsettings
  obtain rfl : betaTarget = target := Option.some.inj htarget
  have hunwritten : ∀ d ∈ Derived.all, ∀ layer ∈ plainOptions.written betaProject betaTarget,
      layer.get? d.key = none := by
    decide +kernel
  have hground : ∀ d ∈ Derived.all, ∀ a ∈ names d.template, Grounded betaParts (rounds + 1) a := by
    simp only [Derived.forall_mem_all, Derived.names_moduleName, Derived.names_buildDir,
      Derived.names_tempDir, Derived.names_targetTempDir]
    decide +kernel
  refine ⟨settings, hsettings, fun d hd => hall d hd (hunwritten d hd) fun a ha => ?_⟩
  exact .inr (.inl ((hground d hd a ha).of_isPart (betaParts_isPart hplatform)))

/-- A target whose product is named after a setting that there is not. -/
def channelTarget : Target where
  name := "App"
  configurations := [{ name := "Debug", settings := .ofList [
    ("SDKROOT", .text "macosx"), ("PRODUCT_NAME", .text "$(CHANNEL)App")] }]

/-- A project with this target only. -/
def channelProject : Project where
  path := "/work/App.xcodeproj"
  name := "App"
  targets := [channelTarget]

/-- The settings that decide the name of its module. -/
def channelParts : Settings :=
  .ofList [("PRODUCT_MODULE_NAME", Derived.moduleName.template), ("PRODUCT_NAME", "$(CHANNEL)App")]

/-- Without the condition on the named settings the name of the module gets lost: it comes before
the name of the product, which is still open in the last pass. -/
theorem synthesize_derived_early :
    (∀ layer ∈ plainOptions.written channelProject channelTarget,
      layer.get? "PRODUCT_MODULE_NAME" = none) ∧
    ∃ settings, plainOptions.synthesize channelProject "App" macSource = .ok settings ∧
      settings.get? "PRODUCT_NAME" = some "App" ∧
      settings.get? "PRODUCT_MODULE_NAME" ≠ some (Text.c99Identifier "App") := by
  refine ⟨by decide +kernel, ?_⟩
  obtain ⟨platform, hplatform⟩ : ∃ platform,
      (plainOptions.platformRequest channelProject channelTarget).settings macSource =
        .ok platform :=
    ⟨_, rfl⟩
  let reached := ["PRODUCT_MODULE_NAME", "PRODUCT_NAME", "CHANNEL"]
  have hagree : ∀ platform ∈ ((plainOptions.platformRequest channelProject channelTarget).settings
      macSource).toOption, ∀ a ∈ reached, channelParts.get? a =
      (plainOptions.layers channelProject channelTarget
        (plainOptions.defaults channelProject macSource platform)).resolve a := by
    decide +kernel
  rw [hplatform] at hagree
  -- the two settings and the unknown name reach nothing else, so the rest of what is expanded does
  -- not matter
  have hconfined : Confined channelParts (· ∈ reached) := by
    have hvalues : ∀ a ∈ reached, ∀ value ∈ channelParts.get? a,
        DollarsRefer value.toList ∧ ∀ b ∈ names value, b ∈ reached := by
      decide +kernel
    exact fun a ha value hget => hvalues a ha value hget
  have hexpand : ∀ a ∈ reached, (expandReferences channelParts).get? a = (expandReferences
      (plainOptions.folded channelProject channelTarget macSource platform)).get? a := by
    intro a ha
    refine expandReferences_congr hconfined (fun b hb => ?_) ha
    rw [SynthesisOptions.get?_folded_of_none rfl]
    exact hagree platform rfl b hb
  refine ⟨_, SynthesisOptions.synthesize_eq_ok_iff.2
    ⟨channelTarget, platform, rfl, hplatform, rfl⟩, ?_, ?_⟩
  · rw [get?_finish_of_ne (by decide) (by decide) (by decide),
      ← hexpand "PRODUCT_NAME" (by decide)]
    decide +kernel
  · rw [get?_finish_of_ne (by decide) (by decide) (by decide),
      ← hexpand "PRODUCT_MODULE_NAME" (by decide)]
    decide +kernel

end BuildSettings
