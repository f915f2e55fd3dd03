import BuildSettings.Proofs.Setting.Filling
import BuildSettings.Proofs.Setting.Replaced
import BuildSettings.Setting.Layers

/-!
# Values over all layers

`Layers.merged` goes over the names of all layers and keeps those that resolve to a value. So a
look-up in it is `Layers.resolve` (`get?_merged`), and a name has a value there exactly if one of
the layers gives it one (`resolve_isSome_iff`). For a scalar that is the value of the highest layer
that has one (`resolve_of_scalar`).

The inherit macro is looked for as a text, but what is found is one of the references of the value,
in one of two spellings (`hasInherited_eq`).
-/

namespace BuildSettings.Setting

variable {layers : Layers} {key : String} {value : String}

/-! ### The inherit macro -/

/-- The reference that the macro is. -/
def inheritReference (braced : Bool) : Reference := ⟨braced, "inherited".toList, none⟩

/-- The macro is a valid reference in either spelling, so it is read back where it is spelled. -/
theorem valid_inheritReference (braced : Bool) : (inheritReference braced).Valid := by
  cases braced <;> decide

theorem toList_inheritMacro : inheritMacro.toList = (inheritReference false).spelling := by decide

theorem toList_inheritMacroBraced :
    inheritMacroBraced.toList = (inheritReference true).spelling := by decide

/-- Whether a piece is the macro, in either spelling. -/
def Piece.isInherit (p : Piece) : Bool :=
  p = .reference (inheritReference false) || p = .reference (inheritReference true)

theorem Piece.isInherit_iff {p : Piece} :
    p.isInherit = true ↔ ∃ braced, p = .reference (inheritReference braced) := by
  rw [isInherit, Bool.or_eq_true, decide_eq_true_iff, decide_eq_true_iff, Bool.exists_bool]

/-- The macro is one of the references of a value. It is looked for as a text, but no other text is
written like one (`contains_iff_mem_pieces`). -/
theorem hasInherited_eq (value : String) :
    hasInherited value = (pieces value).any Piece.isInherit := by
  rw [Bool.eq_iff_iff, hasInherited, Bool.or_eq_true,
    contains_iff_mem_pieces (valid_inheritReference false) toList_inheritMacro,
    contains_iff_mem_pieces (valid_inheritReference true) toList_inheritMacroBraced,
    List.any_eq_true]
  constructor
  · rintro (hmem | hmem)
    · exact ⟨_, hmem, Piece.isInherit_iff.2 ⟨false, rfl⟩⟩
    · exact ⟨_, hmem, Piece.isInherit_iff.2 ⟨true, rfl⟩⟩
  · rintro ⟨p, hmem, hp⟩
    obtain ⟨braced, rfl⟩ := Piece.isInherit_iff.1 hp
    cases braced with
    | false => exact .inl hmem
    | true => exact .inr hmem

/-- The inherit macro is a reference to the eye. -/
theorem hasInherited_of_closed (h : hasReference value = false) : hasInherited value = false := by
  rw [hasReference, List.any_eq_false] at h
  rw [hasInherited_eq, List.any_eq_false]
  intro p hp hinherit
  obtain ⟨braced, rfl⟩ := Piece.isInherit_iff.1 hinherit
  exact h _ hp rfl

/-! ### Folding -/

theorem Folded.layer_none (key : String) (lower : Folded) (explicit : Bool) :
    lower.layer key explicit none = lower :=
  rfl

/-- All that a value can do: it inherits, or it is joined with a lower explicit value, or it
replaces what was folded. -/
theorem Folded.layer_cases (key : String) (lower : Folded) (explicit : Bool) (value : String) :
    (hasInherited value = true ∧ lower.layer key explicit (some value) =
      ⟨some (substituteInherited value (lower.value.getD "")), explicit || lower.explicit⟩) ∨
    (hasInherited value = false ∧ ∃ parent joined, explicit = true ∧ lower.explicit = true ∧
      lower.value = some parent ∧ joinAdditive key parent value = some joined ∧
      lower.layer key explicit (some value) = ⟨some joined, true⟩) ∨
    (hasInherited value = false ∧ lower.layer key explicit (some value) = ⟨some value, explicit⟩ ∧
      (explicit = true → lower.explicit = true → ∀ parent, lower.value = some parent →
        Text.isBlankText parent = false → joinAdditive key parent value = none)) := by
  unfold Folded.layer
  simp only
  by_cases hinherits : hasInherited value = true
  · rw [if_pos hinherits]
    exact Or.inl ⟨hinherits, rfl⟩
  · rw [if_neg hinherits]
    refine Or.inr ?_
    have hplain := Bool.eq_false_iff.2 hinherits
    by_cases hboth : (explicit && lower.explicit) = true
    · rw [if_pos hboth]
      obtain ⟨hexplicit, hlower⟩ := Bool.and_eq_true_iff.1 hboth
      -- a blank value below counts as none, so nothing is joined
      cases hparent : lower.value.filter fun v => !Text.isBlankText v with
      | none =>
        refine Or.inr ⟨hplain, by rw [hexplicit], fun _ _ parent hvalue hfilled => ?_⟩
        rw [hvalue, Option.filter_some, hfilled] at hparent
        cases hparent
      | some parent =>
        have hvalue := (Option.filter_eq_some_iff.1 hparent).1
        cases hjoin : joinAdditive key parent value with
        | some joined =>
          refine Or.inl ⟨hplain, parent, joined, hexplicit, hlower, hvalue, hjoin, ?_⟩
          simp only [hjoin, Option.getD_some]
        | none =>
          refine Or.inr ⟨hplain, ?_, fun _ _ other hother _ => ?_⟩
          · simp only [hjoin, Option.getD_none, hexplicit]
          · obtain rfl := Option.some.inj (hvalue.symm.trans hother)
            exact hjoin
    · rw [if_neg hboth]
      refine Or.inr ⟨hplain, rfl, fun hexplicit hlower => ?_⟩
      exact absurd (Bool.and_eq_true_iff.2 ⟨hexplicit, hlower⟩) hboth

/-- A layer with a value leaves some value. -/
theorem Folded.value_layer_some (key : String) (lower : Folded) (explicit : Bool)
    (value : String) : (lower.layer key explicit (some value)).value.isSome = true := by
  rcases layer_cases key lower explicit value with ⟨-, heq⟩ | ⟨-, _, _, -, -, -, -, heq⟩ | ⟨-, heq, -⟩
  · rw [heq]
    rfl
  · rw [heq]
    rfl
  · rw [heq]
    rfl

/-- Folding gives a value exactly if there was one before or a layer has one. -/
theorem value_foldl_layer (key : String) (values : List (Bool × Option String)) (lower : Folded) :
    (values.foldl (fun lower v => lower.layer key v.1 v.2) lower).value.isSome = true ↔
      lower.value.isSome = true ∨ ∃ v ∈ values, v.2.isSome = true := by
  induction values generalizing lower with
  | nil => simp
  | cons v values ih =>
    obtain ⟨explicit, value⟩ := v
    rw [List.foldl_cons, ih]
    cases value with
    | none => simp [Folded.layer_none]
    | some value => simp [Folded.value_layer_some]

/-! ### Values that replace what lies below -/

/-- Scalars are never joined, nor is a blank or a truth value added to a list. -/
theorem joinAdditive_eq_none (lower : String) {upper : String}
    (h : isScalarKey key = true ∨ Text.isBlankText upper = true ∨
      isBooleanLiteral (Text.trim upper) = true) : joinAdditive key lower upper = none := by
  unfold joinAdditive
  rcases h with hkey | hblank | hboolean
  · simp [hkey]
  · have hempty : (Text.trim upper).isEmpty = true := by
      rw [Text.trim, Text.trimChars_of_all (List.all_eq_true.1 hblank)]
      rfl
    simp [hempty]
  · simp [hboolean]

/-- A value is taken as it is, unless it inherits or is joined with what lies below. It is enough
that one of the two layers is not explicit. -/
theorem Folded.layer_replaces {lower : Folded} {explicit : Bool}
    (hplain : hasInherited value = false)
    (h : explicit = false ∨ lower.explicit = false ∨ ∀ parent, joinAdditive key parent value = none) :
    lower.layer key explicit (some value) = ⟨some value, explicit⟩ := by
  rcases layer_cases key lower explicit value with
    ⟨hinherits, -⟩ | ⟨-, parent, joined, hexplicit, hlower, -, hjoin, -⟩ | ⟨-, heq, -⟩
  · rw [hplain] at hinherits
    cases hinherits
  · rcases h with hno | hno | hno
    · exact absurd (hno.symm.trans hexplicit) Bool.false_ne_true
    · exact absurd (hno.symm.trans hlower) Bool.false_ne_true
    · rw [hno parent] at hjoin
      cases hjoin
  · exact heq

/-! ### Scalars -/

/-- The last value decides about a scalar, unless it has the inherit macro, whatever the layers
below it hold. -/
theorem value_foldl_scalar (hkey : isScalarKey key = true) (values : List (Bool × Option String))
    (lower : Folded)
    (hplain : ∀ value ∈ values.reverse.findSome? (·.2), hasInherited value = false) :
    (values.foldl (fun lower v => lower.layer key v.1 v.2) lower).value =
      (values.reverse.findSome? (·.2)).or lower.value := by
  induction values generalizing lower with
  | nil => rfl
  | cons v values ih =>
    obtain ⟨explicit, value⟩ := v
    rw [List.reverse_cons, List.findSome?_append] at hplain ⊢
    rw [List.foldl_cons]
    cases hlast : values.reverse.findSome? (·.2) with
    | some last =>
      rw [hlast] at hplain ih
      exact ih _ hplain
    | none =>
      -- no later value, so that of this layer stays
      rw [hlast] at hplain ih
      rw [ih _ fun _ h => by cases h]
      cases value with
      | none => rfl
      | some value =>
        rw [Folded.layer_replaces (hplain value rfl) (.inr (.inr fun _ => ?_))]
        · rfl
        · exact joinAdditive_eq_none _ (.inl hkey)

namespace Layers

/-- The value of the highest layer that has one. -/
def highest? (layers : Layers) (key : String) : Option String :=
  (layers.values key).reverse.findSome? (·.2)

theorem findSome?_cons_eq_or {α β : Type} (f : α → Option β) (a : α) (l : List α) :
    (a :: l).findSome? f = (f a).or (l.findSome? f) := by
  rw [List.findSome?_cons]
  cases f a <;> rfl

/-- The highest layer with a value, as one choice after the other from the request down. -/
theorem highest?_eq (layers : Layers) (key : String) : layers.highest? key =
    (layers.request.get? key).or ((chosen? layers.target key).or ((chosen? layers.project key).or
      ((layers.custom.get? key).or (builtinDefault? key)))) := by
  show List.findSome? _ [_, _, _, _, _] = _
  simp only [findSome?_cons_eq_or, List.findSome?_nil, Option.or_none]

/-- The highest layer decides about a scalar, unless its value has the inherit macro. -/
theorem resolve_of_scalar (hkey : isScalarKey key = true)
    (hplain : ∀ value ∈ layers.highest? key, hasInherited value = false) :
    layers.resolve key = layers.highest? key := by
  rw [resolve, value_foldl_scalar hkey _ _ hplain]
  exact Option.or_none

/-- A setting has a value over all layers where some layer gives one. No layer takes a value away.
-/
theorem resolve_isSome_iff :
    (layers.resolve key).isSome = true ↔ ∃ v ∈ layers.values key, v.2.isSome = true := by
  rw [resolve, value_foldl_layer]
  simp [Folded.start]

/-! ### Look-ups in the merged settings -/

/-- A list of configurations chooses a value of one of them. -/
theorem exists_mem_of_chosen? {configurations : List Settings}
    (h : chosen? configurations key = some value) :
    ∃ configuration ∈ configurations, configuration.get? key = some value := by
  refine List.mem_filterMap.1 ?_
  rcases Option.or_eq_some_iff.1 h with hfind | ⟨-, hhead⟩
  · exact List.mem_of_find?_eq_some hfind
  · exact List.mem_of_head? hhead

theorem mem_keys_ofList {names : List String} {a : String} :
    a ∈ (Dictionary.ofList (names.map fun name => (name, ()))).keys ↔ a ∈ names := by
  rw [Dictionary.mem_keys_iff, Dictionary.get?_ofList, ← List.map_reverse,
    Dictionary.lookup_map_pair]
  by_cases ha : a ∈ names <;> simp [ha]

/-- Every name with a value in some layer is among the names of all layers, so none is forgotten
when the layers are merged. -/
theorem mem_keys_of_value {v : Bool × Option String} (hv : v ∈ layers.values key)
    (hsome : v.2.isSome = true) : key ∈ layers.keys := by
  have hchosen : ∀ configurations : List Settings, (chosen? configurations key).isSome = true →
      key ∈ configurations.flatMap (·.keys) := by
    intro configurations hsome
    obtain ⟨value, hvalue⟩ := Option.isSome_iff_exists.1 hsome
    obtain ⟨configuration, hconfiguration, hget⟩ := exists_mem_of_chosen? hvalue
    refine List.mem_flatMap.2 ⟨configuration, hconfiguration, Dictionary.mem_keys_iff.2 ?_⟩
    exact Option.isSome_iff_exists.2 ⟨value, hget⟩
  have hbuiltin : (builtinDefault? key).isSome = true → key ∈ builtinDefaults.map (·.1) := by
    intro hsome
    obtain ⟨value, hvalue⟩ := Option.isSome_iff_exists.1 hsome
    obtain ⟨l₁, l₂, hsplit, -⟩ := List.lookup_eq_some_iff.1 hvalue
    rw [hsplit]
    simp
  rw [keys, mem_keys_ofList]
  simp only [List.mem_append]
  simp only [values, List.mem_cons, List.not_mem_nil, or_false] at hv
  -- rfl | rfl | rfl | rfl | one case for each layer, the lowest first
  rcases hv with rfl | rfl | rfl | rfl | rfl
  · exact .inl (.inl (.inl (.inl (hbuiltin hsome))))
  · exact .inl (.inl (.inl (.inr (Dictionary.mem_keys_iff.2 hsome))))
  · exact .inl (.inl (.inr (hchosen _ hsome)))
  · exact .inl (.inr (hchosen _ hsome))
  · exact .inr (Dictionary.mem_keys_iff.2 hsome)

/-- The merged settings hold the value of each name, and nothing under names that have none. -/
theorem get?_merged (layers : Layers) (key : String) :
    layers.merged.get? key = layers.resolve key := by
  rw [merged, Dictionary.get?_ofList, ← List.filterMap_reverse, Dictionary.lookup_filterMap_pair]
  split
  next => rfl
  next hkey =>
    cases hresolve : layers.resolve key with
    | none => rfl
    | some value =>
      have hsome := resolve_isSome_iff.1 (Option.isSome_iff_exists.2 ⟨value, hresolve⟩)
      obtain ⟨v, hv, hvalue⟩ := hsome
      exact absurd (List.mem_reverse.2 (mem_keys_of_value hv hvalue)) hkey

theorem contains_merged {v : Bool × Option String} (hv : v ∈ layers.values key)
    (hsome : v.2.isSome = true) : layers.merged.contains key = true := by
  rw [Dictionary.contains, get?_merged, resolve_isSome_iff]
  exact ⟨v, hv, hsome⟩

theorem contains_merged_of_request (h : layers.request.contains key = true) :
    layers.merged.contains key = true :=
  contains_merged (v := (true, layers.request.get? key)) (by simp [values]) h

theorem contains_merged_of_custom (h : layers.custom.contains key = true) :
    layers.merged.contains key = true :=
  contains_merged (v := (false, layers.custom.get? key)) (by simp [values]) h

/-- Configurations choose no value where none of them has one. -/
theorem chosen?_eq_none {configurations : List Settings}
    (h : ∀ c ∈ configurations, c.get? key = none) : chosen? configurations key = none := by
  have hnil : configurations.filterMap (·.get? key) = [] :=
    List.filterMap_eq_nil_iff.2 fun c hc => h c hc
  rw [chosen?, hnil]
  rfl

/-- What no explicit layer gives is that of the custom defaults or else the built-in one, as it is,
unless it has the inherit macro. -/
theorem resolve_of_defaults (hproject : ∀ c ∈ layers.project, c.get? key = none)
    (htarget : ∀ c ∈ layers.target, c.get? key = none) (hrequest : layers.request.get? key = none)
    (hplain : ∀ value ∈ (layers.custom.get? key).or (builtinDefault? key),
      hasInherited value = false) :
    layers.resolve key = (layers.custom.get? key).or (builtinDefault? key) := by
  rw [resolve, values, chosen?_eq_none hproject, chosen?_eq_none htarget, hrequest]
  simp only [List.foldl_cons, List.foldl_nil, Folded.layer_none]
  cases hcustom : layers.custom.get? key with
  | some value =>
    rw [hcustom] at hplain
    rw [Folded.layer_replaces (hplain value rfl) (.inl rfl)]
    rfl
  | none =>
    rw [hcustom] at hplain
    cases hbuiltin : builtinDefault? key with
    | none => rfl
    | some value =>
      rw [hbuiltin] at hplain
      rw [Folded.layer_none, Folded.layer_replaces (hplain value rfl) (.inl rfl)]
      rfl

/-- A value that only the custom defaults give is taken as it is, unless it has the inherit
macro. -/
theorem resolve_of_custom (hbuiltin : builtinDefault? key = none)
    (hcustom : layers.custom.get? key = some value) (hplain : hasInherited value = false)
    (hproject : ∀ c ∈ layers.project, c.get? key = none)
    (htarget : ∀ c ∈ layers.target, c.get? key = none)
    (hrequest : layers.request.get? key = none) : layers.resolve key = some value := by
  have heq : (layers.custom.get? key).or (builtinDefault? key) = some value := by
    rw [hcustom, hbuiltin, Option.or_none]
  rw [resolve_of_defaults hproject htarget hrequest, heq]
  intro other hother
  obtain rfl := Option.some.inj (heq.symm.trans hother)
  exact hplain

end Layers

end BuildSettings.Setting
