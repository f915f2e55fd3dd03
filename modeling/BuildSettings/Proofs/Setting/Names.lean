import BuildSettings.Proofs.Setting.Course
import BuildSettings.Proofs.Setting.Layers

/-!
# Names from layers to settings

The settings of a target start as layers, are folded to one value each, and are then expanded. On
this way no name is lost and none is brought in: the names are those that some layer mentions, and
they are there with a value before and after the expansion.

Of the values, those without references pass the expansion as they are, with the blanks at their
ends. Those with references are rewritten at least once and lose these blanks, in the rounds or in
the last pass. That is the invariant `Trims`, which a round keeps (`keeps_trims`).

* `isSome_resolve_iff`, `mem_keys_iff` — the names that have a value, and those that are listed.
* `keys_merged`, `keys_expandReferences` — the same names before and after the expansion.
* `isTrimmed_expandReferences` — values with references.
* `resolveAll_of_merged` — names and values, from the layers to the result.
-/

namespace BuildSettings

/-! ### Keys of dictionaries -/

/-- Keys ascend, so dictionaries with the same keys list them in the same order. That is what makes
a statement about names one about lists of names. -/
theorem Dictionary.keys_eq_iff {α β : Type} {d : Dictionary α} {e : Dictionary β} :
    d.keys = e.keys ↔ ∀ k, d.contains k = true ↔ e.contains k = true := by
  constructor
  · intro h k
    rw [contains, contains, ← mem_keys_iff, ← mem_keys_iff, h]
  · intro h
    -- what the keys stand for is forgotten
    have hbare : d.map (fun _ => ()) = e.map fun _ => () := by
      refine ext_get? fun k => ?_
      have hk : (d.get? k).isSome = (e.get? k).isSome := Bool.eq_iff_iff.2 (h k)
      rw [get?_map, get?_map]
      revert hk
      cases d.get? k <;> cases e.get? k <;> simp
    have hkeys : ∀ {γ : Type} (f : Dictionary γ), (f.map fun _ => ()).keys = f.keys := by
      intro γ f
      exact List.map_map
    rw [← hkeys d, hbare, hkeys e]

/-! ### Trimmed values -/

namespace Text

/-- The text has no blank at either end. -/
def IsTrimmed (s : String) : Prop :=
  (∀ c ∈ s.toList.head?, isBlank c = false) ∧ ∀ c ∈ s.toList.getLast?, isBlank c = false

instance (s : String) : Decidable (IsTrimmed s) :=
  inferInstanceAs (Decidable ((∀ c ∈ s.toList.head?, _) ∧ ∀ c ∈ s.toList.getLast?, _))

theorem head?_dropWhile_isBlank {cs : List Char} {c : Char}
    (h : (cs.dropWhile isBlank).head? = some c) : isBlank c = false := by
  have hnot := List.head?_dropWhile_not isBlank cs
  rw [h] at hnot
  exact hnot

/-- Trimming leaves no blank at either end. -/
theorem isTrimmed_trimChars (cs : List Char) : IsTrimmed (String.ofList (trimChars cs)) := by
  unfold IsTrimmed
  rw [String.toList_ofList]
  constructor
  · intro c hc
    -- what is taken off at the end leaves the front as it is
    have hprefix : trimChars cs <+: cs.dropWhile isBlank := by
      rw [← List.reverse_suffix, trimChars, trimEnd, List.reverse_reverse]
      exact List.dropWhile_suffix _
    obtain ⟨rest, hrest⟩ := hprefix
    obtain ⟨tail, htail⟩ := List.head?_eq_some_iff.1 hc
    rw [htail] at hrest
    exact head?_dropWhile_isBlank (by rw [← hrest]; rfl)
  · intro c hc
    rw [trimChars, trimEnd, List.getLast?_reverse] at hc
    exact head?_dropWhile_isBlank hc

end Text

namespace Setting

variable {m : Settings} {layers : Layers} {key value : String}

/-! ### Names of layers -/

namespace Layers

/-- A list of configurations chooses a value if one of them has one. The value may be blank, if all
of them are. -/
theorem isSome_chosen?_iff {configurations : List Settings} :
    (chosen? configurations key).isSome = true ↔
      ∃ configuration ∈ configurations, configuration.contains key = true := by
  constructor
  · intro h
    obtain ⟨value, hvalue⟩ := Option.isSome_iff_exists.1 h
    obtain ⟨configuration, hmem, hget⟩ := exists_mem_of_chosen? hvalue
    exact ⟨configuration, hmem, Dictionary.contains_iff.2 ⟨value, hget⟩⟩
  · rintro ⟨configuration, hmem, hcontains⟩
    cases hchosen : chosen? configurations key with
    | some value => rfl
    | none =>
      -- the first value is chosen at the latest, so there is none at all
      have hnil := List.head?_eq_none_iff.1 (Option.or_eq_none_iff.1 hchosen).2
      have hnone := List.filterMap_eq_nil_iff.1 hnil configuration hmem
      rw [Dictionary.contains, hnone] at hcontains
      cases hcontains

/-- Some layer has the name. -/
def Mentions (layers : Layers) (key : String) : Prop :=
  (builtinDefault? key).isSome = true ∨ layers.custom.contains key = true ∨
    (∃ configuration ∈ layers.project, configuration.contains key = true) ∨
    (∃ configuration ∈ layers.target, configuration.contains key = true) ∨
    layers.request.contains key = true

/-- The names with a value are those that some layer has. -/
theorem isSome_resolve_iff : (layers.resolve key).isSome = true ↔ layers.Mentions key := by
  rw [resolve_isSome_iff]
  simp only [values, List.mem_cons, List.not_mem_nil, or_false, exists_eq_or_imp, exists_eq_left,
    isSome_chosen?_iff]
  rfl

/-- So are the names that are listed: a name is listed exactly if a layer mentions it. -/
theorem mem_keys_iff : key ∈ layers.keys ↔ layers.Mentions key := by
  constructor
  · intro h
    have hbuiltin : key ∈ builtinDefaults.map (·.1) → (builtinDefault? key).isSome = true := by
      intro hmem
      obtain ⟨entry, hentry, rfl⟩ := List.mem_map.1 hmem
      exact List.lookup_isSome_iff.2 ⟨entry, hentry, beq_self_eq_true _⟩
    rw [keys, mem_keys_ofList] at h
    simp only [List.mem_append, List.mem_flatMap, Dictionary.mem_keys_iff] at h
    rcases h with (((h | h) | h) | h) | h
    · exact .inl (hbuiltin h)
    · exact .inr (.inl h)
    · exact .inr (.inr (.inl h))
    · exact .inr (.inr (.inr (.inl h)))
    · exact .inr (.inr (.inr (.inr h)))
  · intro h
    obtain ⟨v, hv, hsome⟩ := resolve_isSome_iff.1 (isSome_resolve_iff.2 h)
    exact mem_keys_of_value hv hsome

/-- The settings of all layers are those that some layer mentions. A name that is mentioned has a
value, since no layer takes one away (`resolve_isSome_iff`). -/
theorem contains_merged_iff : layers.merged.contains key = true ↔ layers.Mentions key := by
  rw [Dictionary.contains, get?_merged]
  exact isSome_resolve_iff

theorem keys_merged (layers : Layers) : layers.merged.keys = layers.keys := by
  refine Dictionary.keys_eq_iff.2 fun key => ?_
  rw [contains_merged_iff, ← mem_keys_iff, keys, Dictionary.mem_keys_iff]
  rfl

end Layers

/-! ### Names and values in the expansion -/

/-- Expansion keeps the names in their order. -/
theorem keys_expandReferences (m : Settings) : (expandReferences m).keys = m.keys :=
  Dictionary.keys_eq_iff.2 fun _ => contains_expandReferences

/-- The value of a setting that has references in `m` is trimmed. -/
def Trims (m : Settings) (key value : String) : Prop :=
  ∀ raw, m.get? key = some raw → hasReference raw = true → Text.IsTrimmed value

/-- Whatever is known, a value with references is trimmed when it is expanded. -/
theorem isTrimmed_expandOnce (hopen : hasReference value = true) (key : String) (known : Settings)
    (dropUnknown : Bool) : Text.IsTrimmed (expandOnce key value known dropUnknown) := by
  rw [expandOnce, if_pos hopen]
  exact Text.isTrimmed_trimChars _

/-- An open value is trimmed when it is settled. -/
theorem keeps_trims (m : Settings) : Keeps (Trims m) fun _ value => hasReference value = true :=
  fun known _ key _ hopen =>
    ⟨id, fun _ _ _ _ => isTrimmed_expandOnce hopen key known false⟩

/-- Before the first round a settled setting has its own value, which no expansion has trimmed. -/
theorem start_trims (m : Settings) :
    (Rounds.start m).Holds (Trims m) fun _ value => hasReference value = true := by
  refine ⟨fun key value hsettled raw hraw hopen => ?_, fun key value hpending => ?_⟩
  · -- at the start only values without references are settled
    obtain ⟨hget, hclosed⟩ := start_settled.1 hsettled
    obtain rfl := Option.some.inj (hget.symm.trans hraw)
    rw [hclosed] at hopen
    cases hopen
  · exact (start_pending.1 hpending).2

/-- The rounds and the last pass trim every value that had references. -/
theorem isTrimmed_expandReferences (m : Settings) : Known (Trims m) (expandReferences m) := by
  rw [expandReferences_eq]
  refine flush_known (iterate_step_holds (keeps_trims m) (start_trims m) rounds) ?_
  intro known _ _ key value hopen _ _ _
  exact isTrimmed_expandOnce hopen key known true

/-! ### From the layers to the result -/

/-- **Names are kept**: a name resolves to a value exactly if it is listed, which is the case
exactly if some layer has it. The merged settings and the resolved ones have the listed names and no
others. A merged value without references is resolved to itself, with the blanks at its ends, and
what any other is resolved to has no blank at its ends. -/
theorem Layers.resolveAll_of_merged (layers : Layers) :
    (∀ key, ((layers.resolve key).isSome = true ↔ key ∈ layers.keys) ∧
      (key ∈ layers.keys ↔ layers.Mentions key)) ∧
    layers.merged.keys = layers.keys ∧ layers.resolveAll.keys = layers.keys ∧
    ∀ key raw, layers.merged.get? key = some raw →
      ∃ value, layers.resolveAll.get? key = some value ∧
        (hasReference raw = false → value = raw) ∧
        (hasReference raw = true → Text.IsTrimmed value) := by
  refine ⟨fun key => ⟨isSome_resolve_iff.trans mem_keys_iff.symm, mem_keys_iff⟩,
    keys_merged layers, (keys_expandReferences _).trans (keys_merged layers),
    fun key raw hraw => ?_⟩
  obtain ⟨value, hvalue⟩ := Dictionary.contains_iff.1 (expandReferences_contains hraw)
  refine ⟨value, hvalue, fun hclosed => ?_, fun hopen => ?_⟩
  · exact Option.some.inj (hvalue.symm.trans (get?_expandReferences_of_closed hraw hclosed))
  · exact isTrimmed_expandReferences _ key value hvalue raw hraw hopen

/-- Layers with blanks at the ends of values: a plain one, a cycle and an unknown name. -/
def blankLayers : Layers where
  request := .ofList [("PLAIN", "  -O2 ")]
  target := [.ofList [("LOOP", " $(LOOP)\t")]]
  project := [.ofList [("LOOP", " ")], .ofList [("LOST", " $(NOWHERE) x ")]]
  custom := .ofList [("ARCHS", " x86_64")]

theorem Layers.resolveAll_of_merged_blank :
    blankLayers.resolveAll.keys = blankLayers.keys ∧
      blankLayers.resolveAll.get? "PLAIN" = some "  -O2 " ∧
      ∃ value, blankLayers.resolveAll.get? "LOST" = some value ∧ Text.IsTrimmed value := by
  obtain ⟨-, -, hkeys, hvalues⟩ := Layers.resolveAll_of_merged blankLayers
  obtain ⟨plain, hplain, hsame, -⟩ := hvalues "PLAIN" "  -O2 "
    ((Layers.get?_merged _ _).trans (by decide +kernel))
  obtain ⟨lost, hlost, -, htrimmed⟩ := hvalues "LOST" " $(NOWHERE) x "
    ((Layers.get?_merged _ _).trans (by decide +kernel))
  obtain rfl := hsame (by decide +kernel)
  exact ⟨hkeys, hplain, lost, hlost, htrimmed (by decide +kernel)⟩

end Setting

end BuildSettings
