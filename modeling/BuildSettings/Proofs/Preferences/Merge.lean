import BuildSettings.Preferences.Merge
import BuildSettings.Proofs.Json.Order
import Mathlib.Data.List.Induction

/-!
# What a stack of layers has at a path

Merging goes down into objects and replaces anything else. So at a path, which leads through
objects in every layer, the layers are merged as if their values there were layers of their own
(`at?_merge`). A value that is no object hides what is below it, and then the highest layer that
has a value at the path decides (`at?_mergeLayers`).

* `overlay` — a layer that may have no value, over one that may have none.
* `lookup_mergeMembers`, `field?_merge`, `at?_merge` — the merge of two layers at a key or a path.
* `highest?` — the value of the highest layer that has one at a path.
* `at?_mergeLayers` — the merge of all layers at a path.
* `isOrdered_mergeLayers` — merging keeps the keys of objects in order.
* `isOrdered_overrides` — the object of overrides is in order.
-/

namespace BuildSettings.Preferences

open Json

/-! ### Two layers -/

/-- Merging starts from nothing, over which the first layer stands alone. -/
theorem merge_null (above : Json) : merge .null above = above := by
  cases above <;> simp [merge]

/-- What is no object replaces what it is laid over. -/
theorem merge_of_not_object {above : Json} (h : above.isObject = false) (base : Json) :
    merge base above = above := by
  cases above with
  | object members => cases h
  | _ => simp [merge]

/-- Whether the result is an object is decided by the value above. -/
theorem isObject_merge (base above : Json) : (merge base above).isObject = above.isObject := by
  cases above with
  | object members =>
    cases base <;> simp [merge, isObject]
  | _ => rw [merge_of_not_object rfl]

/-- Lays a value over another, where either may be missing. -/
def overlay (base : Option Json) : Option Json → Option Json
  | none => base
  | some above => some (merge (base.getD .null) above)

/-- The first member is laid over the one with its key, or over nothing. -/
theorem mergeMembers_cons (members : List (String × Json)) (key : String) (value : Json)
    (rest : List (String × Json)) :
    mergeMembers members ((key, value) :: rest) =
      mergeMembers (Dictionary.insertEntry key (merge ((members.lookup key).getD .null) value)
        members) rest := by
  rw [mergeMembers]
  cases members.lookup key with
  | none => rw [Option.getD_none, merge_null]
  | some below => rfl

/-- After merging, a key has what the two sides have for it, one over the other. The keys above are
all different, so each meets its partner once. -/
theorem lookup_mergeMembers {above : List (String × Json)}
    (hkeys : above.Pairwise fun a b => a.1 < b.1) (members : List (String × Json)) (key : String) :
    (mergeMembers members above).lookup key = overlay (members.lookup key) (above.lookup key) := by
  induction above generalizing members with
  | nil => rw [mergeMembers]; rfl
  | cons m rest ih =>
    obtain ⟨first, value⟩ := m
    obtain ⟨hfirst, hrest⟩ := List.pairwise_cons.1 hkeys
    rw [mergeMembers_cons, ih hrest, Dictionary.lookup_insertEntry, Dictionary.lookup_cons_eq]
    by_cases hkey : key = first
    · -- the keys behind are larger, so none of them is laid over this member again
      have hnone : rest.lookup key = none := by
        rw [List.lookup_eq_none_iff]
        intro e he
        have hne : key ≠ e.1 := fun h => String.lt_irrefl _ ((hkey ▸ h) ▸ hfirst e he)
        simpa using hne
      rw [hnone, if_pos hkey, if_pos hkey, hkey]
      rfl
    · rw [if_neg hkey, if_neg hkey]

/-- So does each field of a merged object: it is looked up in both layers, and the value above is
laid over the one below. -/
theorem field?_merge {above : Json} (hordered : above.IsOrdered) (hobject : above.isObject = true)
    (base : Json) (key : String) :
    (merge base above).field? key = overlay (base.field? key) (above.field? key) := by
  obtain ⟨members, rfl⟩ := isObject_iff.1 hobject
  cases base with
  | object below =>
    rw [merge]
    exact lookup_mergeMembers hordered.keys below key
  | _ =>
    rw [merge]
    · show members.lookup key = overlay none (members.lookup key)
      cases members.lookup key with
      | none => rfl
      | some value => exact congrArg some (merge_null value).symm
    · simp

/-- Two layers at a path, to which the higher one is open. Where the lower one has something else
than an object on the way, that is replaced, and it has nothing at the path either. -/
theorem at?_merge {above : Json} (hordered : above.IsOrdered) {path : List String}
    (hpath : path ≠ []) (hopen : above.OpenTo path) (base : Json) :
    (merge base above).at? path = overlay (base.at? path) (above.at? path) := by
  -- down the path, and with it into the values of both layers
  induction path generalizing above base with
  | nil => exact absurd rfl hpath
  | cons key path ih =>
    obtain ⟨hobject, hbelow⟩ := openTo_cons_iff.1 hopen
    rw [at?_cons, at?_cons, at?_cons, field?_merge hordered hobject]
    -- where the higher layer has nothing under the key, the lower one stays as it is
    cases hfield : above.field? key with
    | none => rfl
    | some value =>
      show (merge ((base.field? key).getD .null) value).at? path = overlay _ (value.at? path)
      cases hrest : path with
      | nil => cases base.field? key <;> rfl
      | cons next rest =>
        rw [← hrest, ih (hordered.field? hfield) (by simp [hrest]) (hbelow value hfield)]
        cases base.field? key with
        | none => rw [hrest, at?_cons]; rfl
        | some below => rfl

/-! ### All layers -/

/-- The highest layer is merged last. Inductions on layers go from the top because of this. -/
theorem mergeLayers_append_singleton (layers : List Json) (top : Json) :
    mergeLayers (layers ++ [top]) = merge (mergeLayers layers) top := by
  unfold mergeLayers
  rw [List.foldl_append]
  rfl

/-- The value at a path in the highest layer that has one there; the highest layer is the last. -/
def highest? (layers : List Json) (path : List String) : Option Json :=
  layers.reverse.findSome? (·.at? path)

/-- The highest layer with a value at a path is the top one, or else one below it. -/
theorem highest?_append_singleton (layers : List Json) (top : Json) (path : List String) :
    highest? (layers ++ [top]) path = (top.at? path).or (highest? layers path) := by
  unfold highest?
  rw [List.reverse_append, List.reverse_singleton, List.singleton_append, List.findSome?_cons]
  cases top.at? path <;> rfl

/-- The run lemma over the layers: at a path stands the value of the highest layer that has one,
laid over what the layers below it have there. -/
theorem at?_mergeLayers {layers : List Json} (hordered : ∀ layer ∈ layers, layer.IsOrdered)
    {path : List String} (hpath : path ≠ []) (hopen : ∀ layer ∈ layers, layer.OpenTo path) :
    ∃ base, (mergeLayers layers).at? path = (highest? layers path).map (merge base) := by
  -- layer by layer from the lowest: the one on top of the others decides first
  induction layers using List.reverseRecOn with
  | nil =>
    refine ⟨.null, ?_⟩
    cases path with
    | nil => exact absurd rfl hpath
    | cons key path => rw [at?_cons]; rfl
  | append_singleton layers top ih =>
    have htop : top ∈ layers ++ [top] := by simp
    obtain ⟨base, hbase⟩ := ih (fun layer h => hordered layer (List.mem_append_left _ h))
      (fun layer h => hopen layer (List.mem_append_left _ h))
    rw [mergeLayers_append_singleton, at?_merge (hordered top htop) hpath (hopen top htop),
      highest?_append_singleton]
    cases top.at? path with
    | none => exact ⟨base, hbase⟩
    | some value => exact ⟨_, rfl⟩

/-- The layers agree with the highest one that has a value, where that is no object. -/
theorem at?_mergeLayers_of_highest? {layers : List Json}
    (hordered : ∀ layer ∈ layers, layer.IsOrdered) {path : List String} (hpath : path ≠ [])
    (hopen : ∀ layer ∈ layers, layer.OpenTo path)
    (hvalue : ∀ value, highest? layers path = some value → value.isObject = false) :
    (mergeLayers layers).at? path = highest? layers path := by
  obtain ⟨base, hbase⟩ := at?_mergeLayers hordered hpath hopen
  rw [hbase]
  cases hhighest : highest? layers path with
  | none => rfl
  | some value => exact congrArg some (merge_of_not_object (hvalue value hhighest) base)

/-- Where the layers together have no object, they have what the highest one has. -/
theorem highest?_eq_at? {layers : List Json} (hordered : ∀ layer ∈ layers, layer.IsOrdered)
    {path : List String} (hpath : path ≠ []) (hopen : ∀ layer ∈ layers, layer.OpenTo path)
    (hmerged : ∀ value, (mergeLayers layers).at? path = some value → value.isObject = false) :
    highest? layers path = (mergeLayers layers).at? path := by
  refine (at?_mergeLayers_of_highest? hordered hpath hopen fun value hvalue => ?_).symm
  obtain ⟨base, hbase⟩ := at?_mergeLayers hordered hpath hopen
  rw [hvalue] at hbase
  rw [← isObject_merge base value]
  exact hmerged _ hbase

/-- The layers have something at a path if one of them has. -/
theorem isSome_at?_mergeLayers {layers : List Json} (hordered : ∀ layer ∈ layers, layer.IsOrdered)
    {path : List String} (hpath : path ≠ []) (hopen : ∀ layer ∈ layers, layer.OpenTo path)
    {layer : Json} (hlayer : layer ∈ layers) (h : (layer.at? path).isSome) :
    ((mergeLayers layers).at? path).isSome := by
  obtain ⟨base, hbase⟩ := at?_mergeLayers hordered hpath hopen
  rw [hbase, Option.isSome_map]
  exact List.findSome?_isSome_iff.2 ⟨layer, List.mem_reverse.2 hlayer, h⟩

/-! ### Order -/

mutual

/-- Merging keeps the keys of objects in order, which the look-up in a merged object rests on. -/
theorem isOrdered_merge {base above : Json} (hbase : base.IsOrdered) (habove : above.IsOrdered) :
    (merge base above).IsOrdered := by
  cases above with
  | object members =>
    cases base with
    | object below =>
      rw [merge]
      exact isOrdered_mergeMembers hbase habove
    | _ =>
      rw [merge]
      · exact habove
      · simp
  | _ =>
    rw [merge_of_not_object rfl]
    exact habove

/-- Members of the layer above go to their places in the order of keys. -/
theorem isOrdered_mergeMembers {members above : List (String × Json)}
    (hmembers : (Json.object members).IsOrdered) (habove : (Json.object above).IsOrdered) :
    (Json.object (mergeMembers members above)).IsOrdered := by
  cases above with
  | nil => rwa [mergeMembers]
  | cons m rest =>
    obtain ⟨key, value⟩ := m
    have hvalue : value.IsOrdered := habove.field? List.lookup_cons_self
    have hrest : (Json.object rest).IsOrdered := habove.tail
    rw [mergeMembers_cons]
    refine isOrdered_mergeMembers ?_ hrest
    refine .of_lookup (Dictionary.insertEntry_ascending _ _ hmembers.keys) fun k v hlookup => ?_
    rw [Dictionary.lookup_insertEntry] at hlookup
    -- the one member that is new is a merged value, and the others were there
    by_cases hk : k = key
    · rw [if_pos hk] at hlookup
      rw [← Option.some.inj hlookup]
      cases hbelow : members.lookup key with
      | none => exact isOrdered_merge .null hvalue
      | some below => exact isOrdered_merge (hmembers.field? hbelow) hvalue
    · rw [if_neg hk] at hlookup
      exact hmembers.field? hlookup

end

/-- Layers in order are merged to a value in order. -/
theorem isOrdered_mergeLayers {layers : List Json} (h : ∀ layer ∈ layers, layer.IsOrdered) :
    (mergeLayers layers).IsOrdered := by
  induction layers using List.reverseRecOn with
  | nil => exact .null
  | append_singleton layers top ih =>
    rw [mergeLayers_append_singleton]
    exact isOrdered_merge (ih fun layer hlayer => h layer (List.mem_append_left _ hlayer))
      (h top (by simp))

/-! ### Overrides -/

theorem isOrdered_ofTexts (texts : List String) : (Json.ofTexts texts).IsOrdered := by
  refine .array fun item hitem => ?_
  obtain ⟨s, -, rfl⟩ := List.mem_map.1 hitem
  exact .text s

theorem isOrdered_overrideValue (cs : List Char) : (overrideValue cs).IsOrdered := by
  unfold overrideValue
  split
  · exact .bool true
  · split
    · exact .bool false
    · split
      · exact isOrdered_ofTexts _
      · exact .text _

theorem isOrdered_nest (keys : List String) {value : Json} (h : value.IsOrdered) :
    (nest keys value).IsOrdered := by
  induction keys with
  | nil => exact h
  | cons key keys ih =>
    refine .object (List.pairwise_singleton _ _) fun m hm => ?_
    rw [List.mem_singleton.1 hm]
    exact ih

/-- What texts override is in order if it was before. -/
theorem isOrdered_overridesOver {base result : Json} {texts : List String} (h : base.IsOrdered)
    (hread : overridesOver base texts = .ok result) : result.IsOrdered := by
  induction texts generalizing base with
  | nil => exact Except.ok.inj hread ▸ h
  | cons text texts ih =>
    rw [overridesOver] at hread
    split at hread
    · cases hread
    next keys value hvalue =>
      -- an override is a value under a path of keys, so an object of one member in another
      have hordered : value.IsOrdered := by
        unfold readOverride at hvalue
        split at hvalue
        · cases hvalue
        · dsimp only at hvalue
          split at hvalue
          · cases hvalue
          · cases hvalue
            exact isOrdered_overrideValue _
      exact ih (isOrdered_merge h (isOrdered_nest keys hordered)) hread

theorem isOrdered_overrides {texts : List String} {result : Json}
    (h : overrides texts = .ok result) : result.IsOrdered :=
  isOrdered_overridesOver (.object .nil nofun) h

end BuildSettings.Preferences
