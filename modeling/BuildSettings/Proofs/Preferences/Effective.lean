import BuildSettings.Preferences.Effective
import BuildSettings.Proofs.Json.Record
import BuildSettings.Proofs.Preferences.Merge
import BuildSettings.Proofs.Toml.Order

/-!
# Preferences have the value of the highest layer

The layers are merged as JSON values and only then read as preferences. Reading asks for texts,
truth values, lists of texts and dictionaries of texts, so what is found under a setting is no
object, and the merged value there is that of the highest layer which has one. Built-in defaults
have all settings but those for custom defaults.

* `isOrdered_of_mem_layers` — all layers are in order, also those of files.
* `holds_fields`, `holds_graphFields`, `holds_logFields` — which field a preference comes from.
* `stated` — the settings of preferences by their paths.
* `at?_of_ofJson`, `at?_customDefaults_of_ofJson` — preferences say what the value they are read
  from has.
* `highest?_stated`, `highest?_customDefaults`, `settings_of_highest_layer` — and that is what the
  highest layer has.
-/

namespace BuildSettings

open Json Json.Decoder

/-! ### Layers -/

namespace EffectivePreferences

theorem isOrdered_builtin : Preferences.builtin.IsOrdered := by
  have htext : ∀ s, (Json.text s).IsOrdered := .text
  refine .object (by decide) ?_
  simp only [List.forall_mem_cons]
  refine ⟨htext _, .object .nil nofun, .bool _, .object (by decide) ?_, .object (by decide) ?_,
    htext _, htext _, nofun⟩
  · simp only [List.forall_mem_cons]
    exact ⟨Preferences.isOrdered_ofTexts _, htext _, nofun⟩
  · simp only [List.forall_mem_cons]
    exact ⟨htext _, nofun⟩

/-- A file that can be read is an ordered value, since it was read from TOML. -/
theorem isOrdered_readFile {files : FileTree} {path : Path} {value : Json} {digest : String}
    (h : readFile files path = .ok (value, digest)) : value.IsOrdered := by
  unfold readFile at h
  split at h
  · cases h
  · split at h
    next read hread =>
      cases h
      obtain ⟨text, -, hparse⟩ := Option.bind_eq_some_iff.1 hread
      exact Toml.isOrdered_parse? hparse
    · cases h

/-- A file that is not there is no layer, and any other one is a layer in order. -/
theorem isOrdered_fileLayer {files : FileTree} {origin : PreferenceOrigin} {path : Path}
    {layers : List (Json × PreferenceSource)} (h : fileLayer files origin path = .ok layers) :
    ∀ layer ∈ layers, layer.1.IsOrdered := by
  unfold fileLayer at h
  split at h
  · obtain ⟨⟨value, digest⟩, hread, rfl⟩ := map_eq_ok_iff.1 h
    intro layer hlayer
    rw [List.mem_singleton.1 hlayer]
    exact isOrdered_readFile hread
  · cases h
    exact nofun

/-- A file that holds a document is a layer. -/
theorem fileLayer_of_text {files : FileTree} {origin : PreferenceOrigin} {path : Path}
    {text : String} {value : Json} (hthere : files.contains path = true)
    (hbytes : files.readBytes path = .ok text.toUTF8) (hparse : Toml.parse? text = some value) :
    fileLayer files origin path = .ok [(value, ⟨origin, some path.text,
      some (Digest.hex (Digest.Sha256.digest text.toUTF8.toList))⟩)] := by
  have htext : String.fromUTF8? text.toUTF8 = some text := dif_pos text.isValidUTF8
  unfold fileLayer readFile
  rw [if_pos hthere, hbytes]
  dsimp only
  rw [htext, Option.bind_some, hparse]
  rfl

/-- The layers from the lowest up, with the two files named and read. -/
theorem layers_of_files {files : FileTree} {host repository : Path} {overrides : Option Json}
    {first second : List (Json × PreferenceSource)}
    (hfirst : fileLayer files .host host = .ok first)
    (hsecond : fileLayer files .repository repository = .ok second) :
    layers files (some host) (some repository) overrides =
      .ok ((Preferences.builtin, ⟨.builtin, none, none⟩) :: first ++ second ++
        overrides.toList.map fun value => (value, ⟨.commandLine, none, none⟩)) := by
  unfold layers
  rw [Option.elim_some, Option.elim_some, hfirst, hsecond]
  rfl

/-- The layers from the lowest: built-in defaults, the files that are there and the overrides. -/
theorem layers_eq {files : FileTree} {host repository : Option Path} {overrides : Option Json}
    {result : List (Json × PreferenceSource)}
    (h : layers files host repository overrides = .ok result) :
    ∃ hostLayer repositoryLayer,
      host.elim (.ok []) (fileLayer files .host) = .ok hostLayer ∧
      repository.elim (.ok []) (fileLayer files .repository) = .ok repositoryLayer ∧
      result = (Preferences.builtin, ⟨.builtin, none, none⟩) :: hostLayer ++ repositoryLayer ++
        overrides.toList.map fun value => (value, ⟨.commandLine, none, none⟩) := by
  obtain ⟨hostLayer, hhost, h⟩ := bind_eq_ok_iff.1 h
  obtain ⟨repositoryLayer, hrepository, h⟩ := bind_eq_ok_iff.1 h
  exact ⟨hostLayer, repositoryLayer, hhost, hrepository, (Except.ok.inj h).symm⟩

/-- All layers are ordered if the overrides are, which is the one layer that may come from
elsewhere. -/
theorem isOrdered_of_mem_layers {files : FileTree} {host repository : Option Path}
    {overrides : Option Json} (hoverrides : ∀ value ∈ overrides, value.IsOrdered)
    {result : List (Json × PreferenceSource)}
    (h : layers files host repository overrides = .ok result) :
    ∀ layer ∈ result, layer.1.IsOrdered := by
  -- a file that there is not gives no layer
  have hfile : ∀ (path : Option Path) origin layers,
      path.elim (.ok []) (fileLayer files origin) = .ok layers →
      ∀ layer ∈ layers, layer.1.IsOrdered := by
    intro path origin layers hlayers
    cases path with
    | none =>
      cases hlayers
      exact nofun
    | some path => exact isOrdered_fileLayer hlayers
  obtain ⟨hostLayer, repositoryLayer, hhost, hrepository, rfl⟩ := layers_eq h
  intro layer hlayer
  rcases List.mem_append.1 hlayer with hlayer | hlayer
  · rcases List.mem_append.1 hlayer with hlayer | hlayer
    · rcases List.mem_cons.1 hlayer with rfl | hlayer
      · exact isOrdered_builtin
      · exact hfile host .host hostLayer hhost layer hlayer
    · exact hfile repository .repository repositoryLayer hrepository layer hlayer
  · obtain ⟨value, hvalue, rfl⟩ := List.mem_map.1 hlayer
    exact hoverrides value (Option.mem_toList.1 hvalue)

/-- What is built is the merge of the layers, and it is valid. -/
theorem of_build {files : FileTree} {host repository : Option Path} {overrides : Option Json}
    {result : List (Json × PreferenceSource)}
    (hlayers : layers files host repository overrides = .ok result) {e : EffectivePreferences}
    (h : build files host repository overrides = .ok e) :
    e.merged = Preferences.mergeLayers (result.map (·.1)) ∧ validate e.merged = .ok () := by
  obtain ⟨read, hread, h⟩ := bind_eq_ok_iff.1 h
  obtain rfl := Except.ok.inj (hread.symm.trans hlayers)
  dsimp only at h
  split at h
  · cases h
  next hvalid =>
    cases h
    exact ⟨rfl, hvalid⟩

/-- With layers that can be read and a merged value that is valid, the preferences are the merged
value with the sources on record. -/
theorem build_eq {files : FileTree} {host repository : Option Path} {overrides : Option Json}
    {result : List (Json × PreferenceSource)}
    (hlayers : layers files host repository overrides = .ok result)
    (hvalid : validate (Preferences.mergeLayers (result.map (·.1))) = .ok ()) :
    build files host repository overrides =
      .ok ⟨Preferences.mergeLayers (result.map (·.1)), result.map (·.2)⟩ := by
  unfold build
  rw [hlayers]
  dsimp only [bind, Except.bind]
  rw [hvalid]

/-! ### Validity -/

/-- A setting that is checked against a list of names is a text. -/
theorem text_of_checkOneOf {merged : Json} {path allowed : List String}
    (h : checkOneOf merged path allowed = .ok ()) {value : Json}
    (hvalue : merged.at? path = some value) : ∃ s, value = .text s := by
  unfold checkOneOf at h
  rw [hvalue] at h
  cases value with
  | text s => exact ⟨s, rfl⟩
  | _ => cases h

/-- In valid preferences the named values are given by their names. -/
theorem text_of_validate {merged : Json} (h : validate merged = .ok ()) {path : List String}
    (hpath : path = ["simulator_arch_policy"] ∨ path = ["graph", "mode"]) {value : Json}
    (hvalue : merged.at? path = some value) : ∃ s, value = .text s := by
  -- the configuration is checked first, then the policy, then the mode
  obtain ⟨_, -, h⟩ := bind_eq_ok_iff.1 h
  obtain ⟨_, hpolicy, h⟩ := bind_eq_ok_iff.1 h
  obtain ⟨_, hmode, -⟩ := bind_eq_ok_iff.1 h
  rcases hpath with rfl | rfl
  · exact text_of_checkOneOf hpolicy hvalue
  · exact text_of_checkOneOf hmode hvalue

end EffectivePreferences

namespace Preferences

/-! ### Settings -/

/-- Where tables belong, the value has objects, if it has anything there. -/
def HasTables (value : Json) : Prop :=
  ∀ name ∈ ["graph", "log", "custom_defaults"], ∀ below ∈ value.field? name, below.isObject = true

instance (value : Json) : Decidable (HasTables value) :=
  inferInstanceAs (Decidable (∀ name ∈ ["graph", "log", "custom_defaults"],
    ∀ below ∈ value.field? name, below.isObject = true))

/-- What preferences say of the settings that a layer may have, by the paths to them. -/
def stated (p : Preferences) : List (List String × Json) :=
  [(["configuration"], .text p.configuration),
    (["swift_version"], .text p.swiftVersion),
    (["force_simulator"], .bool p.forceSimulator),
    (["simulator_arch_policy"], .text p.archPolicy.name),
    (["graph", "mode"], .text p.graph.mode.name),
    (["graph", "aggregate_prefixes"], .ofTexts p.graph.aggregatePrefixes),
    (["log", "filter"], .text p.logFilter)]

/-- Each field of the preferences holds what is read for it. The fields have names of their own, so
none disturbs another. -/
theorem holds_fields :
    Holds fields "configuration" text (·.configuration) ∧
    Holds fields "force_simulator" flag (·.forceSimulator) ∧
    Holds fields "simulator_arch_policy" (choice ArchPolicy.names) (·.archPolicy) ∧
    Holds fields "swift_version" text (·.swiftVersion) ∧
    Holds fields "graph" (record {} graphFields) (·.graph) ∧
    Holds fields "custom_defaults" (dictionary text) (·.customDefaults) ∧
    Holds fields "log" (record "warn" logFields) (·.logFilter) := by
  -- a field fills its own place, and the seven others leave that place as it was
  refine ⟨?_, ?_, ?_, ?_, ?_, ?_, ?_⟩ <;> refine ⟨⟨_, rfl, fun _ _ => rfl⟩, ?_⟩
  all_goals
    simp only [fields, List.forall_mem_cons]
    refine ⟨?_, ?_, ?_, ?_, ?_, ?_, ?_, ?_, nofun⟩
    all_goals first
      | exact .inl rfl
      | exact .inr (RecordField.spares_defaulted fun _ _ => rfl)

theorem holds_graphFields :
    Holds graphFields "mode" (choice ResolutionMode.names) (·.mode) ∧
    Holds graphFields "aggregate_prefixes" (list text) (·.aggregatePrefixes) := by
  constructor <;> refine ⟨⟨_, rfl, fun _ _ => rfl⟩, ?_⟩
  all_goals
    simp only [graphFields, List.forall_mem_cons]
    refine ⟨?_, ?_, nofun⟩
    all_goals first
      | exact .inl rfl
      | exact .inr (RecordField.spares_defaulted fun _ _ => rfl)

theorem holds_logFields : Holds logFields "filter" text id := by
  refine ⟨⟨_, rfl, fun _ _ => rfl⟩, ?_⟩
  simp only [logFields, List.forall_mem_cons]
  exact ⟨.inl rfl, nofun⟩

/-- What a value has under a setting is what the preferences in it say: whatever is read into a
field is the only value that is read so, names of choices included. -/
theorem at?_of_ofJson {value : Json} (hvalid : EffectivePreferences.validate value = .ok ())
    {p : Preferences} (h : ofJson value = .ok p) {setting : List String × Json}
    (hsetting : setting ∈ p.stated) {found : Json} (hfound : value.at? setting.1 = some found) :
    found = setting.2 := by
  obtain ⟨hconfiguration, hsimulator, hpolicy, hversion, hgraph, -, hlog⟩ := holds_fields
  obtain ⟨hmode, hprefixes⟩ := holds_graphFields
  -- a setting inside a table is read in two steps
  have hinside : ∀ {table name : String} {found : Json}, value.at? [table, name] = some found →
      ∃ below, value.field? table = some below ∧ below.field? name = some found := by
    intro table name found hat
    rw [at?_cons] at hat
    obtain ⟨below, hbelow, hname⟩ := Option.bind_eq_some_iff.1 hat
    exact ⟨below, hbelow, (at?_singleton below name).symm.trans hname⟩
  simp only [stated, List.mem_cons, List.not_mem_nil, or_false] at hsetting
  rcases hsetting with rfl | rfl | rfl | rfl | rfl | rfl | rfl
  · rw [at?_singleton] at hfound
    exact text_ofJson (get_record hconfiguration h hfound)
  · rw [at?_singleton] at hfound
    exact text_ofJson (get_record hversion h hfound)
  · rw [at?_singleton] at hfound
    exact flag_ofJson (get_record hsimulator h hfound)
  · obtain ⟨s, rfl⟩ := EffectivePreferences.text_of_validate hvalid (.inl rfl) hfound
    rw [at?_singleton] at hfound
    exact congrArg Json.text (name_of_choice (by decide) (get_record hpolicy h hfound))
  · obtain ⟨s, rfl⟩ := EffectivePreferences.text_of_validate hvalid (.inr rfl) hfound
    obtain ⟨below, hbelow, hname⟩ := hinside hfound
    have hread := get_record hmode (get_record hgraph h hbelow) hname
    exact congrArg Json.text (name_of_choice (by decide) hread)
  · obtain ⟨below, hbelow, hname⟩ := hinside hfound
    exact list_text_ofJson (get_record hprefixes (get_record hgraph h hbelow) hname)
  · obtain ⟨below, hbelow, hname⟩ := hinside hfound
    exact text_ofJson (get_record holds_logFields (get_record hlog h hbelow) hname)

/-- The custom defaults of preferences are the members of the table they are read from. -/
theorem at?_customDefaults_of_ofJson {value : Json} (hordered : value.IsOrdered) {p : Preferences}
    (h : ofJson value = .ok p) (hsome : (value.at? ["custom_defaults"]).isSome) (key : String) :
    value.at? ["custom_defaults", key] = (p.customDefaults.get? key).map .text := by
  obtain ⟨-, -, -, -, -, hdefaults, -⟩ := holds_fields
  obtain ⟨below, hbelow⟩ := Option.isSome_iff_exists.1 hsome
  rw [at?_singleton] at hbelow
  rw [at?_cons, hbelow, Option.bind_some, at?_singleton]
  exact dictionary_text_ofJson (hordered.field? hbelow) (get_record hdefaults h hbelow) key

/-! ### The highest layer -/

/-- The paths to settings lead through tables. -/
theorem openTo_pair {value : Json} (hobject : value.isObject = true) (htables : HasTables value)
    {table : String} (htable : table ∈ ["graph", "log", "custom_defaults"]) (name : String) :
    value.OpenTo [table, name] := by
  refine openTo_cons_iff.2 ⟨hobject, fun below hbelow => ?_⟩
  exact openTo_cons_iff.2 ⟨htables table htable below hbelow, fun under _ => openTo_nil under⟩

theorem openTo_singleton {value : Json} (hobject : value.isObject = true) (name : String) :
    value.OpenTo [name] :=
  openTo_cons_iff.2 ⟨hobject, fun below _ => openTo_nil below⟩

/-- With tables where tables belong, all settings that defaults state can be reached: each stands in
the value itself or in one of two tables. -/
theorem openTo_stated {p : Preferences} {setting : List String × Json} (h : setting ∈ p.stated)
    {value : Json} (hobject : value.isObject = true) (htables : HasTables value) :
    value.OpenTo setting.1 := by
  simp only [stated, List.mem_cons, List.not_mem_nil, or_false] at h
  rcases h with rfl | rfl | rfl | rfl | rfl | rfl | rfl
  · exact openTo_singleton hobject _
  · exact openTo_singleton hobject _
  · exact openTo_singleton hobject _
  · exact openTo_singleton hobject _
  · exact openTo_pair hobject htables (by simp) _
  · exact openTo_pair hobject htables (by simp) _
  · exact openTo_pair hobject htables (by simp) _

/-- Every setting that is stated has a built-in default. -/
theorem isSome_builtin {p : Preferences} {setting : List String × Json} (h : setting ∈ p.stated) :
    (builtin.at? setting.1).isSome := by
  simp only [stated, List.mem_cons, List.not_mem_nil, or_false] at h
  rcases h with rfl | rfl | rfl | rfl | rfl | rfl | rfl <;> rfl

/-- What defaults state is a value with a path to it, and no table. -/
theorem stated_isValue {p : Preferences} {setting : List String × Json} (h : setting ∈ p.stated) :
    setting.1 ≠ [] ∧ setting.2.isObject = false := by
  simp only [stated, List.mem_cons, List.not_mem_nil, or_false] at h
  rcases h with rfl | rfl | rfl | rfl | rfl | rfl | rfl <;> exact ⟨by simp, rfl⟩

section Layers

variable {layers : List Json} {p : Preferences}

/-- Each setting of preferences that are read from layers is what the highest layer has. There is a
highest layer, since the built-in defaults have all settings. -/
theorem highest?_stated (hordered : ∀ layer ∈ layers, layer.IsOrdered)
    (hbuiltin : builtin ∈ layers) (htables : ∀ layer ∈ layers, layer.isObject ∧ HasTables layer)
    (hvalid : EffectivePreferences.validate (mergeLayers layers) = .ok ())
    (h : ofJson (mergeLayers layers) = .ok p) {setting : List String × Json}
    (hsetting : setting ∈ p.stated) : highest? layers setting.1 = some setting.2 := by
  obtain ⟨hpath, hvalue⟩ := stated_isValue hsetting
  have hopen : ∀ layer ∈ layers, layer.OpenTo setting.1 := fun layer hlayer =>
    openTo_stated hsetting (htables layer hlayer).1 (htables layer hlayer).2
  have hfound : ∀ value, (mergeLayers layers).at? setting.1 = some value → value = setting.2 :=
    fun value hat => at?_of_ofJson hvalid h hsetting hat
  -- the built-in defaults have the setting, so the layers together have it
  have hsome :=
    isSome_at?_mergeLayers hordered hpath hopen hbuiltin (isSome_builtin hsetting)
  obtain ⟨value, hat⟩ := Option.isSome_iff_exists.1 hsome
  rw [highest?_eq_at? hordered hpath hopen fun v hv => hfound v hv ▸ hvalue, hat, hfound value hat]

/-- Custom defaults are united key by key. -/
theorem highest?_customDefaults (hordered : ∀ layer ∈ layers, layer.IsOrdered)
    (hbuiltin : builtin ∈ layers) (htables : ∀ layer ∈ layers, layer.isObject ∧ HasTables layer)
    (h : ofJson (mergeLayers layers) = .ok p) (key : String) :
    highest? layers ["custom_defaults", key] = (p.customDefaults.get? key).map .text := by
  have hopen : ∀ layer ∈ layers, layer.OpenTo ["custom_defaults", key] := fun layer hlayer =>
    openTo_pair (htables layer hlayer).1 (htables layer hlayer).2 (by simp) key
  have hsome : ((mergeLayers layers).at? ["custom_defaults"]).isSome :=
    isSome_at?_mergeLayers hordered (by simp)
      (fun layer hlayer => openTo_singleton (htables layer hlayer).1 _) hbuiltin rfl
  have hat := at?_customDefaults_of_ofJson (isOrdered_mergeLayers hordered) h hsome key
  -- custom defaults are texts, and a text hides what is below it
  rw [highest?_eq_at? hordered (by simp) hopen fun value hvalue => ?_, hat]
  rw [hat] at hvalue
  obtain ⟨s, -, rfl⟩ := Option.map_eq_some_iff.1 hvalue
  rfl

end Layers

/-- Layers that are open to a path have there together what the highest layer has that has anything
there, if that is no object. So preferences have each setting, and each custom default, from the
highest of the overrides, the file of the repository, the file of the user and the built-in
defaults that has it, if all of them are objects with tables where tables belong. -/
theorem settings_of_highest_layer :
    (∀ (layers : List Json) (path : List String), path ≠ [] →
      (∀ layer ∈ layers, layer.IsOrdered ∧ layer.OpenTo path) →
      (highest? layers path = none → (mergeLayers layers).at? path = none) ∧
      ∀ value, value.isObject = false → highest? layers path = some value →
        (mergeLayers layers).at? path = some value) ∧
    ∀ (files : FileTree) (host repository : Option Path) (overrides : Option Json)
      (layers : List (Json × PreferenceSource)) (e : EffectivePreferences) (p : Preferences),
      (∀ value ∈ overrides, value.IsOrdered) →
      EffectivePreferences.layers files host repository overrides = .ok layers →
      (∀ layer ∈ layers, layer.1.isObject ∧ HasTables layer.1) →
      EffectivePreferences.build files host repository overrides = .ok e →
      e.preferences = .ok p →
      (∀ setting ∈ p.stated, highest? (layers.map (·.1)) setting.1 = some setting.2) ∧
      ∀ key, highest? (layers.map (·.1)) ["custom_defaults", key] =
        (p.customDefaults.get? key).map .text := by
  constructor
  · intro layers path hpath hlayers
    obtain ⟨base, hbase⟩ := at?_mergeLayers (fun layer h => (hlayers layer h).1) hpath
      (fun layer h => (hlayers layer h).2)
    constructor
    · intro hnone
      rw [hbase, hnone]
      rfl
    · intro value hvalue hsome
      rw [hbase, hsome]
      exact congrArg some (merge_of_not_object hvalue base)
  · intro files host repository overrides layers e p hoverrides hlayers htables hbuild hread
    obtain ⟨hmerged, hvalid⟩ := EffectivePreferences.of_build hlayers hbuild
    have hordered : ∀ layer ∈ layers.map (·.1), layer.IsOrdered := by
      intro layer hlayer
      obtain ⟨l, hl, rfl⟩ := List.mem_map.1 hlayer
      exact EffectivePreferences.isOrdered_of_mem_layers hoverrides hlayers l hl
    have htables' : ∀ layer ∈ layers.map (·.1), layer.isObject ∧ HasTables layer := by
      intro layer hlayer
      obtain ⟨l, hl, rfl⟩ := List.mem_map.1 hlayer
      exact htables l hl
    have hbuiltin : builtin ∈ layers.map (·.1) := by
      obtain ⟨hostLayer, repositoryLayer, -, -, rfl⟩ := EffectivePreferences.layers_eq hlayers
      exact List.mem_cons_self
    -- the preferences are read from what was built, which is the merge of these layers
    have hp : ofJson (mergeLayers (layers.map (·.1))) = .ok p := by
      rw [← hmerged]
      unfold EffectivePreferences.preferences at hread
      split at hread
      next read hof =>
        rw [hof, Except.ok.inj hread]
      · cases hread
    rw [hmerged] at hvalid
    exact ⟨fun setting hsetting => highest?_stated hordered hbuiltin htables' hvalid hp hsetting,
      highest?_customDefaults hordered hbuiltin htables' hp⟩

/-- A disk with a file of the user and one of the repository. -/
def twoFiles (host repository : String) : FileTree :=
  ⟨.directory [("host.toml", .file host.toUTF8), ("repo.toml", .file repository.toUTF8)], []⟩

/-- The layers of two files and of overrides. -/
theorem layers_twoFiles {host repository : String} {first second : Json} (overrides : Json)
    (hfirst : Toml.parse? host = some first) (hsecond : Toml.parse? repository = some second) :
    ∃ layers, EffectivePreferences.layers (twoFiles host repository) (some ⟨"host.toml"⟩)
        (some ⟨"repo.toml"⟩) (some overrides) = .ok layers ∧
      layers.map (·.1) = [builtin, first, second, overrides] := by
  exact ⟨_, EffectivePreferences.layers_of_files
    (EffectivePreferences.fileLayer_of_text rfl rfl hfirst)
    (EffectivePreferences.fileLayer_of_text rfl rfl hsecond), rfl⟩

/-- Preferences from all four layers: the file of the repository wins over that of the user, the
overrides over both, and custom defaults come from both files. -/
theorem settings_of_highest_layer_united :
    (mergeLayers [builtin, nest ["graph", "aggregate_prefixes"] (.ofTexts [])]).at?
        ["graph", "aggregate_prefixes"] = some (.ofTexts []) ∧
    ∃ (layers : List Json) (p : Preferences),
      p = { configuration := "Release", customDefaults := .ofList [("A", "1"), ("B", "2")],
            graph := { mode := .full }, logFilter := "x" } ∧
      (∀ setting ∈ p.stated, highest? layers setting.1 = some setting.2) ∧
      ∀ key, highest? layers ["custom_defaults", key] = (p.customDefaults.get? key).map .text := by
  have hhost : Toml.parse? ("configuration = \"Release\"\n" ++
      "[custom_defaults]\nA = \"1\"\nB = \"1\"\n[graph]\nmode = \"full\"") =
      some (.object [("configuration", .text "Release"),
        ("custom_defaults", .object [("A", .text "1"), ("B", .text "1")]),
        ("graph", .object [("mode", .text "full")])]) := by decide +kernel
  have hrepository : Toml.parse? "custom_defaults.B = \"2\"\nlog.filter = \"info\"" =
      some (.object [("custom_defaults", .object [("B", .text "2")]),
        ("log", .object [("filter", .text "info")])]) := by decide +kernel
  obtain ⟨layers, hlayers, hvalues⟩ :=
    layers_twoFiles (nest ["log", "filter"] (.text "x")) hhost hrepository
  have hvalid : EffectivePreferences.validate (mergeLayers (layers.map (·.1))) = .ok () := by
    rw [hvalues]
    rfl
  have hbuild := EffectivePreferences.build_eq hlayers hvalid
  have htables : ∀ layer ∈ layers, layer.1.isObject ∧ HasTables layer.1 := by
    have hall : ∀ layer ∈ layers.map (·.1), layer.isObject ∧ HasTables layer := by
      rw [hvalues]
      decide
    exact fun layer hlayer => hall layer.1 (List.mem_map_of_mem hlayer)
  refine ⟨?_, layers.map (·.1), _, rfl, ?_⟩
  · refine (settings_of_highest_layer.1 _ _ (by simp) ?_).2 _ rfl rfl
    simp only [List.forall_mem_cons]
    refine ⟨⟨EffectivePreferences.isOrdered_builtin, ?_⟩,
      ⟨isOrdered_nest _ (isOrdered_ofTexts []), ?_⟩, nofun⟩
    · exact openTo_pair rfl (by decide) (by simp) _
    · exact openTo_pair rfl (by decide) (by simp) _
  · refine settings_of_highest_layer.2 _ _ _ _ layers _ _ ?_ hlayers htables hbuild ?_
    · intro value hvalue
      exact Option.some.inj hvalue ▸ isOrdered_nest _ (.text "x")
    · unfold EffectivePreferences.preferences
      dsimp only
      rw [hvalues]
      rfl

/-- A file whose first key spells a timestamp reads as a text. As a layer it hides all layers below
it, and an override above it brings the built-in defaults back. -/
theorem configuration_below_timestamp :
    ¬ ∀ (files : FileTree) (host repository : Option Path) (overrides : Option Json)
      (layers : List (Json × PreferenceSource)) (e : EffectivePreferences) (p : Preferences),
      (∀ value ∈ overrides, value.IsOrdered ∧ value.isObject = true) →
      EffectivePreferences.layers files host repository overrides = .ok layers →
      (∀ layer ∈ layers, HasTables layer.1) →
      EffectivePreferences.build files host repository overrides = .ok e →
      e.preferences = .ok p →
      ∀ setting ∈ p.stated, highest? (layers.map (·.1)) setting.1 = some setting.2 := by
  intro hclaim
  have hhost : Toml.parse? "configuration = \"Release\"" =
      some (.object [("configuration", .text "Release")]) := by decide +kernel
  have hrepository : Toml.parse? "\"$__toml_private_datetime\" = \"1979-05-27\"" =
      some (.text "1979-05-27") := by decide +kernel
  obtain ⟨layers, hlayers, hvalues⟩ :=
    layers_twoFiles (nest ["log", "filter"] (.text "x")) hhost hrepository
  have hmerged : mergeLayers (layers.map (·.1)) = nest ["log", "filter"] (.text "x") := by
    rw [hvalues]
    rfl
  have hbuild := EffectivePreferences.build_eq hlayers (by rw [hmerged]; rfl)
  have htables : ∀ layer ∈ layers, HasTables layer.1 := by
    have hall : ∀ layer ∈ layers.map (·.1), HasTables layer := by
      rw [hvalues]
      decide
    exact fun layer hlayer => hall layer.1 (List.mem_map_of_mem hlayer)
  have hread : EffectivePreferences.preferences
      ⟨mergeLayers (layers.map (·.1)), layers.map (·.2)⟩ = .ok { logFilter := "x" } := by
    unfold EffectivePreferences.preferences
    dsimp only
    rw [hmerged]
    rfl
  have hconfiguration := hclaim _ _ _ _ layers _ _ (by
    intro value hvalue
    exact Option.some.inj hvalue ▸ ⟨isOrdered_nest _ (.text "x"), rfl⟩)
    hlayers htables hbuild hread (["configuration"], .text "Debug") List.mem_cons_self
  rw [hvalues] at hconfiguration
  exact absurd hconfiguration (by decide)

end Preferences

end BuildSettings
