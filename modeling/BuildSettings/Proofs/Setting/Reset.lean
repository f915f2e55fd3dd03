import BuildSettings.Proofs.Setting.Layers

/-!
# Layers that reset a setting

Layers are folded from the lowest up, and a value can take in what lies below it in two ways: by
the inherit macro, or by being added to a list. A value *resets* the setting when neither can
happen (`Resets`): it has no macro, and either its layer is no explicit one, or it is never part of
a list, or no explicit layer below has a value that it could be added to.

What is folded carries a flag besides the value, and that flag decides whether the next value is
added. So it is not enough that a value replaces the folded one: the flag has to forget the layers
below as well. It is set by explicit layers only (`Folded.explicit_over`), and a value that resets
leaves it as its own layer has it (`Resets.over_eq`).

* `resolve_of_resets` — layers that agree from a resetting one upwards resolve alike, whatever lies
  below; and where the lowest explicit value has no macro, the defaults have no say at all.
-/

namespace BuildSettings.Setting

variable {key value : String} {lower : Folded} {layers : Layers}

/-! ### Folding in parts -/

/-- Folds further layers onto what was folded, the lowest first. -/
def Folded.over (lower : Folded) (key : String) (values : List (Bool × Option String)) : Folded :=
  values.foldl (fun lower v => lower.layer key v.1 v.2) lower

theorem Folded.over_cons (lower : Folded) (key : String) (v : Bool × Option String)
    (values : List (Bool × Option String)) :
    lower.over key (v :: values) = (lower.layer key v.1 v.2).over key values :=
  rfl

/-- Layers may be folded in two parts. This is what lets the layers from one place upwards be
compared without those below. -/
theorem Folded.over_append (lower : Folded) (key : String)
    (below above : List (Bool × Option String)) :
    lower.over key (below ++ above) = (lower.over key below).over key above :=
  List.foldl_append

/-- The step lemma of the flag: it is never set by a layer that is not explicit or has no value. -/
theorem Folded.explicit_layer {explicit : Bool} {v : Option String}
    (h : (lower.layer key explicit v).explicit = true) :
    lower.explicit = true ∨ (explicit = true ∧ v.isSome = true) := by
  cases v with
  | none => exact Or.inl h
  | some value =>
    rcases layer_cases key lower explicit value with
      ⟨-, heq⟩ | ⟨-, _, _, -, hlower, -⟩ | ⟨-, heq, -⟩
    · -- the macro keeps the flag from below
      rw [heq] at h
      rcases Bool.or_eq_true_iff.1 h with hexplicit | hlower
      · exact Or.inr ⟨hexplicit, rfl⟩
      · exact Or.inl hlower
    · exact Or.inl hlower
    · rw [heq] at h
      exact Or.inr ⟨h, rfl⟩

/-- The flag is set by an explicit layer with a value and by nothing else; if it is set in the end,
it was set at the start or there is such a layer. -/
theorem Folded.explicit_over {values : List (Bool × Option String)}
    (h : (lower.over key values).explicit = true) :
    lower.explicit = true ∨ ∃ v ∈ values, v.1 = true ∧ v.2.isSome = true := by
  induction values generalizing lower with
  | nil => exact Or.inl h
  | cons v values ih =>
    rw [over_cons] at h
    rcases ih h with hlayer | ⟨w, hw, hvalue⟩
    · rcases explicit_layer hlayer with hlower | hvalue
      · exact Or.inl hlower
      · exact Or.inr ⟨v, List.mem_cons_self .., hvalue⟩
    · exact Or.inr ⟨w, List.mem_cons_of_mem _ hw, hvalue⟩

/-- As long as no explicit layer has a value, the flag is not set. -/
theorem explicit_start_over {below : List (Bool × Option String)}
    (h : ∀ v ∈ below, v.1 = true → v.2 = none) :
    (Folded.start.over key below).explicit = false := by
  rw [Bool.eq_false_iff]
  intro hset
  rcases Folded.explicit_over hset with hstart | ⟨v, hv, hexplicit, hsome⟩
  · cases hstart
  · rw [h v hv hexplicit] at hsome
    cases hsome

/-! ### Values that reset -/

/-- The value of a layer over the layers below takes in nothing of them. -/
structure Resets (key : String) (below : List (Bool × Option String)) (explicit : Bool)
    (value : String) : Prop where
  plain : hasInherited value = false
  apart : explicit = false ∨ isScalarKey key = true ∨
    (Text.isBlankText value = true ∨ isBooleanLiteral (Text.trim value) = true) ∨
    ∀ v ∈ below, v.1 = true → v.2 = none

instance (key : String) (below : List (Bool × Option String)) (explicit : Bool) (value : String) :
    Decidable (Resets key below explicit value) :=
  decidable_of_iff (_ ∧ _) ⟨fun ⟨plain, apart⟩ => ⟨plain, apart⟩, fun ⟨plain, apart⟩ => ⟨plain, apart⟩⟩

/-- The step lemma: a value that resets is the folded value, with the flag of its own layer,
whatever the layers below have left. -/
theorem Resets.layer_eq {below : List (Bool × Option String)} {explicit : Bool}
    (h : Resets key below explicit value) :
    (Folded.start.over key below).layer key explicit (some value) = ⟨some value, explicit⟩ := by
  refine Folded.layer_replaces h.plain ?_
  rcases h.apart with hexplicit | hkey | hvalue | hbelow
  · exact Or.inl hexplicit
  · exact Or.inr (Or.inr fun _ => joinAdditive_eq_none _ (Or.inl hkey))
  · exact Or.inr (Or.inr fun _ => joinAdditive_eq_none _ (Or.inr hvalue))
  · exact Or.inr (Or.inl (explicit_start_over hbelow))

/-- Folding over a value that resets goes on from that value alone. -/
theorem Resets.over_eq {below : List (Bool × Option String)} {explicit : Bool}
    (h : Resets key below explicit value) (above : List (Bool × Option String)) :
    Folded.start.over key (below ++ (explicit, some value) :: above) =
      Folded.over ⟨some value, explicit⟩ key above := by
  rw [Folded.over_append, Folded.over_cons, h.layer_eq]

namespace Layers

theorem resolve_eq_over (layers : Layers) (key : String) :
    layers.resolve key = (Folded.start.over key (layers.values key)).value :=
  rfl

/-- The layer at a place, counted from the lowest, resets the setting. -/
def ResetsAt (layers : Layers) (key : String) (place : Nat) : Prop :=
  ∃ v, (layers.values key)[place]? = some v ∧
    ∃ value, v.2 = some value ∧ Resets key ((layers.values key).take place) v.1 value

/-- What resets a setting decides it together with the layers above. -/
theorem ResetsAt.resolve_eq {place : Nat} (h : layers.ResetsAt key place) :
    ∃ explicit value above, (layers.values key).drop place = (explicit, some value) :: above ∧
      layers.resolve key = (Folded.over ⟨some value, explicit⟩ key above).value := by
  obtain ⟨⟨explicit, v⟩, hplace, value, rfl, hresets⟩ := h
  obtain ⟨hlt, hget⟩ := List.getElem?_eq_some_iff.1 hplace
  have hdrop : (layers.values key).drop place =
      (explicit, some value) :: (layers.values key).drop (place + 1) := by
    rw [List.drop_eq_getElem_cons hlt, hget]
  refine ⟨explicit, value, _, hdrop, ?_⟩
  rw [resolve_eq_over, ← hresets.over_eq, ← hdrop, List.take_append_drop]

/-! ### Explicit values -/

/-- The values that explicit layers have for a setting, the lowest first. -/
def explicitValues (layers : Layers) (key : String) : List String :=
  [chosen? layers.project key, chosen? layers.target key, layers.request.get? key].filterMap id

/-- Layers without a value do not take part. -/
theorem over_filterMap_id (lower : Folded) (key : String) (vs : List (Option String)) :
    lower.over key (vs.map fun v => (true, v)) =
      lower.over key ((vs.filterMap id).map fun v => (true, some v)) := by
  induction vs generalizing lower with
  | nil => rfl
  | cons v vs ih =>
    cases v with
    | none => exact ih lower
    | some value => exact ih (lower.layer key true (some value))

/-- If the lowest explicit value has no inherit macro, then only explicit values are folded, and the
defaults have no say. -/
theorem resolve_of_explicitValues {lowest : String} {others : List String}
    (h : layers.explicitValues key = lowest :: others) (hplain : hasInherited lowest = false) :
    layers.resolve key =
      (Folded.over ⟨some lowest, true⟩ key (others.map fun v => (true, some v))).value := by
  let defaults := [(false, builtinDefault? key), (false, layers.custom.get? key)]
  let explicit := [chosen? layers.project key, chosen? layers.target key, layers.request.get? key]
  have hvalues : layers.values key = defaults ++ explicit.map fun v => (true, v) := rfl
  -- below the lowest explicit value there are defaults only, so it resets the setting
  have hresets : Resets key defaults true lowest := by
    refine ⟨hplain, Or.inr (Or.inr (Or.inr fun v hv hexplicit => ?_))⟩
    simp only [defaults, List.mem_cons, List.not_mem_nil, or_false] at hv
    rcases hv with rfl | rfl <;> cases hexplicit
  have hexplicit : explicit.filterMap id = lowest :: others := h
  rw [resolve_eq_over, hvalues, Folded.over_append, over_filterMap_id, hexplicit, List.map_cons,
    ← Folded.over_append, hresets.over_eq]

/-! ### What lies below -/

/-- Layers with a truth value that no list can hold, over values that would be lists. -/
def shadowLayers : Layers where
  request := .ofList [("GCC_WARN_SHADOW", "$(inherited) $(inherited)")]
  target := [.ofList [("GCC_WARN_SHADOW", " NO ")]]
  project := [.ofList [("GCC_WARN_SHADOW", "$(inherited) -Wshadow")]]
  custom := .ofList [("GCC_WARN_SHADOW", "YES")]

/-- **Hiding**: if a layer resets the setting in two sets of layers that have the same values from
that layer upwards, then the setting is the same in both, whatever lies below. In particular the
defaults do not matter where the lowest explicit value has no inherit macro. -/
theorem resolve_of_resets (key : String) :
    (∀ (first second : Layers) (place : Nat),
      first.ResetsAt key place → second.ResetsAt key place →
      (first.values key).drop place = (second.values key).drop place →
      first.resolve key = second.resolve key) ∧
    (∀ (layers : Layers) (lowest : String) (others : List String),
      layers.explicitValues key = lowest :: others → hasInherited lowest = false →
      layers.resolve key =
        (Folded.over ⟨some lowest, true⟩ key (others.map fun v => (true, some v))).value) := by
  refine ⟨fun first second place hfirst hsecond hsame => ?_, fun layers lowest others => ?_⟩
  · obtain ⟨explicit, value, above, hdrop, hresolve⟩ := hfirst.resolve_eq
    obtain ⟨explicit', value', above', hdrop', hresolve'⟩ := hsecond.resolve_eq
    rw [hdrop, hdrop'] at hsame
    obtain ⟨hhead, rfl⟩ := List.cons.inj hsame
    obtain ⟨rfl, hvalue⟩ := Prod.mk.inj hhead
    obtain rfl := Option.some.inj hvalue
    rw [hresolve, hresolve']
  · exact resolve_of_explicitValues

/-- The target resets the setting, so nothing is left of the project and the custom defaults; and
without a project that value is the lowest explicit one. -/
theorem resolve_of_resets_shadow :
    let key := "GCC_WARN_SHADOW"
    let bare : Layers := { shadowLayers with project := [], custom := ∅ }
    shadowLayers.resolve key = bare.resolve key ∧ bare.resolve key = some "NO   NO" := by
  intro key bare
  have hreset : ∀ layers ∈ [shadowLayers, bare], layers.ResetsAt key 3 := by
    intro layers hlayers
    refine ⟨(true, some " NO "), ?_, " NO ", rfl, ?_⟩
    · revert layers
      decide
    · revert layers
      decide
  refine ⟨(resolve_of_resets key).1 shadowLayers bare 3 (hreset _ (by simp)) (hreset _ (by simp))
    (by decide), ?_⟩
  rw [(resolve_of_resets key).2 bare " NO " ["$(inherited) $(inherited)"] (by decide) (by decide)]
  decide

end Layers

end BuildSettings.Setting
