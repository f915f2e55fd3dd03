import BuildSettings.Proofs.Setting.Reset
import BuildSettings.Proofs.Text.TokenList

/-!
# Tokens of added values

The explicit values of a list-valued setting are added to each other, the lower in front. One case
is exempt: if one of two values occurs in the other, only the other is kept. *Occurs* is meant of
the texts, and a list is more than its text: `-lz` occurs in `-lzma`, which has no token `-lz`. So
adding values can lose a token, and this file says exactly when.

* `Swallows` — a text has another one in it and lacks one of its tokens.
* `mem_splitList_merge_iff` — two values keep a token that one of them has, unless the other
  swallows it. Nothing else is lost, and nothing is made up.
* `splitList_resolve` — over all layers, a token stays exactly if it is swallowed nowhere from its
  layer upwards.

That the value put together so far is again part of a list (`IsListPart.merge`) carries the last
one from two values to any number of them.
-/

namespace BuildSettings.Text

/-- Texts that occur in each other are the same, for neither is longer. -/
theorem eq_of_contains {s t : String} (hst : contains s t = true) (hts : contains t s = true) :
    s = t := by
  obtain ⟨before, after, hs⟩ := exists_append_of_occursIn hst
  obtain ⟨before', after', ht⟩ := exists_append_of_occursIn hts
  have hlength : s.toList.length = before.length + t.toList.length + after.length := by
    rw [hs, List.length_append, List.length_append]
  have hlength' : t.toList.length = before'.length + s.toList.length + after'.length := by
    rw [ht, List.length_append, List.length_append]
  obtain rfl : before = [] := List.length_eq_zero_iff.1 (by omega)
  obtain rfl : after = [] := List.length_eq_zero_iff.1 (by omega)
  rw [List.nil_append, List.append_nil] at hs
  exact String.toList_inj.1 hs

end BuildSettings.Text

namespace BuildSettings.Setting

variable {key lower upper token value : String} {layers : Layers}

/-! ### Parts of lists -/

/-- A value that may be part of a list: it has something in it, is no truth value and leaves no
quote open. -/
structure IsListPart (value : String) : Prop where
  filled : Text.isBlankText value = false
  proper : isBooleanLiteral (Text.trim value) = false
  balanced : Text.Balanced value

instance (value : String) : Decidable (IsListPart value) :=
  decidable_of_iff (_ ∧ _ ∧ _) ⟨fun ⟨filled, proper, balanced⟩ => ⟨filled, proper, balanced⟩,
    fun ⟨filled, proper, balanced⟩ => ⟨filled, proper, balanced⟩⟩

theorem exists_of_isBlankText_eq_false {s : String} (h : Text.isBlankText s = false) :
    ∃ c ∈ s.toList, Text.isBlank c = false := by
  rw [Text.isBlankText, List.all_eq_false] at h
  obtain ⟨c, hc, hblank⟩ := h
  exact ⟨c, hc, Bool.eq_false_iff.2 hblank⟩

theorem isBlankText_eq_false_of_mem {s : String} {c : Char} (hc : c ∈ s.toList)
    (hblank : Text.isBlank c = false) : Text.isBlankText s = false := by
  rw [Text.isBlankText, List.all_eq_false]
  exact ⟨c, hc, Bool.eq_false_iff.1 hblank⟩

/-- Something is left after trimming. -/
theorem IsListPart.exists_mem_trim (h : IsListPart value) :
    ∃ c ∈ (Text.trim value).toList, Text.isBlank c = false := by
  obtain ⟨c, hc, hblank⟩ := exists_of_isBlankText_eq_false h.filled
  refine ⟨c, ?_, hblank⟩
  rw [Text.toList_trim]
  exact Text.mem_trimChars hc hblank

/-- Trimming keeps a part of a list one: it takes blanks only, and these are outside of quotes. -/
theorem IsListPart.trim (h : IsListPart value) : IsListPart (Text.trim value) := by
  obtain ⟨c, hc, hblank⟩ := h.exists_mem_trim
  refine ⟨isBlankText_eq_false_of_mem hc hblank, ?_, Text.balanced_trim_iff.2 h.balanced⟩
  have htwice : Text.trim (Text.trim value) = Text.trim value := by
    rw [Text.trim, Text.toList_trim, Text.trimChars_trimChars]
    rfl
  rw [htwice]
  exact h.proper

/-- Truth values are single words. -/
theorem blank_notMem_of_isBooleanLiteral (h : isBooleanLiteral value = true) :
    ' ' ∉ value.toList := by
  have hall : ∀ literal ∈ ["YES", "NO", "YES_ERROR", "YES_AGGRESSIVE", "YES_NONAGGRESSIVE"],
      ' ' ∉ literal.toList := by
    decide
  exact hall value (List.contains_iff_mem.1 h)

/-- Two parts with a blank between them are a part of a list again: there is a blank in it, so it is
no truth value, and its quotes are those of both. -/
theorem IsListPart.join (hlower : IsListPart lower) (hupper : IsListPart upper) :
    IsListPart (Text.trim lower ++ " " ++ Text.trim upper) := by
  have hfront := hlower.exists_mem_trim
  have hback := hupper.exists_mem_trim
  have htext : (Text.trim lower ++ " " ++ Text.trim upper).toList =
      (Text.trim lower).toList ++ ' ' :: (Text.trim upper).toList := by
    rw [String.append_assoc, String.toList_append, String.toList_append]
    rfl
  refine ⟨?_, ?_, ?_⟩
  · obtain ⟨c, hc, hblank⟩ := hfront
    exact isBlankText_eq_false_of_mem (by rw [htext]; exact List.mem_append_left _ hc) hblank
  · rw [Bool.eq_false_iff]
    intro hliteral
    refine blank_notMem_of_isBooleanLiteral hliteral ?_
    rw [Text.toList_trim, htext]
    exact Text.mem_trimChars_between hfront hback ' '
  · have hl := Text.balanced_trim_iff.2 hlower.balanced
    have hu := Text.balanced_trim_iff.2 hupper.balanced
    unfold Text.Balanced at hl hu ⊢
    rw [htext, List.count_append, List.count_cons_of_ne (by decide)]
    omega

/-! ### Two values -/

/-- What two explicit values make. -/
def merge (key lower upper : String) : String :=
  (joinAdditive key lower upper).getD upper

/-- A value is added to a lower one that may be part of a list. -/
theorem Folded.layer_merge (hplain : hasInherited upper = false) (hlower : IsListPart lower) :
    Folded.layer key ⟨some lower, true⟩ true (some upper) = ⟨some (merge key lower upper), true⟩ := by
  rcases layer_cases key ⟨some lower, true⟩ true upper with
    ⟨hinherits, -⟩ | ⟨-, parent, joined, -, -, hparent, hjoin, heq⟩ | ⟨-, heq, hnone⟩
  · rw [hplain] at hinherits
    cases hinherits
  · obtain rfl : lower = parent := Option.some.inj hparent
    rw [heq, merge, hjoin, Option.getD_some]
  · rw [heq, merge, hnone rfl rfl lower rfl hlower.filled, Option.getD_none]

/-- Of two parts of a list one is kept, if the other occurs in it, or they are put together.
Occurring is a matter of texts, which is where tokens can get lost. -/
theorem merge_cases (hkey : isScalarKey key = false) (hlower : IsListPart lower)
    (hupper : IsListPart upper) :
    (Text.contains (Text.trim upper) (Text.trim lower) = true ∧ merge key lower upper = upper) ∨
    (Text.contains (Text.trim lower) (Text.trim upper) = true ∧
      merge key lower upper = Text.trim lower) ∨
    (Text.contains (Text.trim upper) (Text.trim lower) = false ∧
      Text.contains (Text.trim lower) (Text.trim upper) = false ∧
      merge key lower upper = Text.trim lower ++ " " ++ Text.trim upper) := by
  have hfilled : (Text.trim upper).isEmpty = false := by
    rw [Bool.eq_false_iff]
    intro hempty
    obtain ⟨c, hc, -⟩ := hupper.exists_mem_trim
    rw [String.isEmpty_iff.1 hempty] at hc
    cases hc
  unfold merge joinAdditive
  simp only [hfilled, hkey, hupper.proper, hlower.proper, Bool.or_self, Bool.false_eq_true,
    if_false]
  cases hup : Text.contains (Text.trim upper) (Text.trim lower) with
  | true => exact Or.inl ⟨rfl, rfl⟩
  | false =>
    cases hlow : Text.contains (Text.trim lower) (Text.trim upper) with
    | true => exact Or.inr (Or.inl ⟨rfl, rfl⟩)
    | false => exact Or.inr (Or.inr ⟨rfl, rfl, rfl⟩)

/-- What two parts of a list are merged to is a part of a list again, so that the next layer can be
merged with it. This is the step that the fold over all layers repeats. -/
theorem IsListPart.merge (hkey : isScalarKey key = false) (hlower : IsListPart lower)
    (hupper : IsListPart upper) : IsListPart (merge key lower upper) := by
  rcases merge_cases hkey hlower hupper with ⟨-, heq⟩ | ⟨-, heq⟩ | ⟨-, -, heq⟩
  · rw [heq]
    exact hupper
  · rw [heq]
    exact hlower.trim
  · rw [heq]
    exact hlower.join hupper

/-- One value occurs in the other as a text, but not with this token. -/
def Swallows (whole part token : String) : Prop :=
  Text.contains (Text.trim whole) (Text.trim part) = true ∧
    token ∈ Text.splitList part ∧ token ∉ Text.splitList whole

instance (whole part token : String) : Decidable (Swallows whole part token) :=
  inferInstanceAs (Decidable (_ ∧ _ ∧ _))

/-- Of two values, one swallows a token of the other. -/
def Loses (pair : String × String) (token : String) : Prop :=
  Swallows pair.1 pair.2 token ∨ Swallows pair.2 pair.1 token

instance (pair : String × String) (token : String) : Decidable (Loses pair token) :=
  inferInstanceAs (Decidable (_ ∨ _))

/-- The step lemma: the merged value has the tokens of both values, without those that are
swallowed, and no others. -/
theorem mem_splitList_merge_iff (hkey : isScalarKey key = false) (hlower : IsListPart lower)
    (hupper : IsListPart upper) :
    token ∈ Text.splitList (merge key lower upper) ↔
      (token ∈ Text.splitList lower ∨ token ∈ Text.splitList upper) ∧
        ¬ Loses (lower, upper) token := by
  have htokens : Text.contains (Text.trim upper) (Text.trim lower) = true →
      Text.contains (Text.trim lower) (Text.trim upper) = true →
      Text.splitList lower = Text.splitList upper := by
    intro hup hlow
    rw [← Text.splitList_trim hlower.balanced, ← Text.splitList_trim hupper.balanced,
      Text.eq_of_contains hlow hup]
  rcases merge_cases hkey hlower hupper with ⟨hup, heq⟩ | ⟨hlow, heq⟩ | ⟨hup, hlow, heq⟩
  · rw [heq]
    constructor
    · intro hmem
      refine ⟨Or.inr hmem, ?_⟩
      rintro (⟨hlow, -, hnot⟩ | ⟨-, -, hnot⟩)
      · exact hnot (htokens hup hlow ▸ hmem)
      · exact hnot hmem
    · rintro ⟨hmem | hmem, hkept⟩
      · exact Decidable.byContradiction fun hnot => hkept (Or.inr ⟨hup, hmem, hnot⟩)
      · exact hmem
  · rw [heq, Text.splitList_trim hlower.balanced]
    constructor
    · intro hmem
      refine ⟨Or.inl hmem, ?_⟩
      rintro (⟨-, -, hnot⟩ | ⟨hup, -, hnot⟩)
      · exact hnot hmem
      · exact hnot (htokens hup hlow ▸ hmem)
    · rintro ⟨hmem | hmem, hkept⟩
      · exact hmem
      · exact Decidable.byContradiction fun hnot => hkept (Or.inl ⟨hlow, hmem, hnot⟩)
  · have happart : ¬ Loses (lower, upper) token := by
      rintro (⟨hcontains, -⟩ | ⟨hcontains, -⟩)
      · exact Bool.false_ne_true (hlow.symm.trans hcontains)
      · exact Bool.false_ne_true (hup.symm.trans hcontains)
    -- neither occurs in the other, so nothing is lost, and the blank keeps their tokens apart
    rw [heq, Text.splitList_append_blank (Text.balanced_trim_iff.2 hlower.balanced),
      Text.splitList_trim hlower.balanced, Text.splitList_trim hupper.balanced, List.mem_append]
    exact (and_iff_left happart).symm

/-! ### Any number of values -/

/-- Where values meet: each with what the values below it make. -/
def meetings (key : String) (lower : String) : List String → List (String × String)
  | [] => []
  | upper :: others => (lower, upper) :: meetings key (merge key lower upper) others

/-- Layers whose values are all parts of a list are folded by `merge` alone: none of them replaces
what stands below it, and the result stays explicit. -/
theorem over_eq_foldl_merge (hkey : isScalarKey key = false) (hlower : IsListPart lower)
    {others : List String} (hothers : ∀ v ∈ others, hasInherited v = false ∧ IsListPart v) :
    Folded.over ⟨some lower, true⟩ key (others.map fun v => (true, some v)) =
      ⟨some (others.foldl (merge key) lower), true⟩ := by
  induction others generalizing lower with
  | nil => rfl
  | cons upper others ih =>
    obtain ⟨hplain, hupper⟩ := hothers upper (List.mem_cons_self ..)
    rw [List.map_cons, Folded.over_cons, Folded.layer_merge hplain hlower, List.foldl_cons]
    exact ih (hlower.merge hkey hupper) fun v hv => hothers v (List.mem_cons_of_mem _ hv)

/-- The run lemma: a token of what values make comes from the lowest and is lost nowhere, or it
comes from a further one and is not lost from there on. -/
theorem mem_splitList_foldl_iff (hkey : isScalarKey key = false) (hlower : IsListPart lower)
    {others : List String} (hothers : ∀ v ∈ others, IsListPart v) :
    token ∈ Text.splitList (others.foldl (merge key) lower) ↔
      (token ∈ Text.splitList lower ∧ ∀ m ∈ meetings key lower others, ¬ Loses m token) ∨
      ∃ i v, others[i]? = some v ∧ token ∈ Text.splitList v ∧
        ∀ m ∈ (meetings key lower others).drop i, ¬ Loses m token := by
  induction others generalizing lower with
  | nil => simp [meetings]
  | cons upper others ih =>
    have hupper := hothers upper (List.mem_cons_self ..)
    rw [List.foldl_cons, ih (hlower.merge hkey hupper) fun v hv =>
      hothers v (List.mem_cons_of_mem _ hv), mem_splitList_merge_iff hkey hlower hupper, meetings]
    -- the first value is met at place 0, and the later ones move up by one place
    constructor
    · rintro (⟨⟨hmem | hmem, hfirst⟩, hrest⟩ | ⟨i, v, hv, hmem, hrest⟩)
      · exact Or.inl ⟨hmem, List.forall_mem_cons.2 ⟨hfirst, hrest⟩⟩
      · exact Or.inr ⟨0, upper, rfl, hmem, List.forall_mem_cons.2 ⟨hfirst, hrest⟩⟩
      · exact Or.inr ⟨i + 1, v, hv, hmem, hrest⟩
    · rintro (⟨hmem, hall⟩ | ⟨i, v, hv, hmem, hall⟩)
      · obtain ⟨hfirst, hrest⟩ := List.forall_mem_cons.1 hall
        exact Or.inl ⟨⟨Or.inl hmem, hfirst⟩, hrest⟩
      · cases i with
        | zero =>
          obtain rfl : upper = v := Option.some.inj hv
          obtain ⟨hfirst, hrest⟩ := List.forall_mem_cons.1 hall
          exact Or.inl ⟨⟨Or.inr hmem, hfirst⟩, hrest⟩
        | succ i => exact Or.inr ⟨i, v, hv, hmem, hall⟩

/-! ### All layers -/

namespace Layers

/-- Where the explicit values of a setting meet, the lowest first. -/
def meetings (layers : Layers) (key : String) : List (String × String) :=
  match layers.explicitValues key with
  | [] => []
  | lowest :: others => Setting.meetings key lowest others

/-- Layers whose values have tokens in common. -/
def linkLayers : Layers where
  request := .ofList [("OTHER_LDFLAGS", " -ObjC ")]
  target := [.ofList [("OTHER_LDFLAGS", "-lzma \"-DX=a b\"")]]
  project := [.ofList [("OTHER_LDFLAGS", "-lz -ObjC")]]
  custom := .ofList [("OTHER_LDFLAGS", "-lunused")]

/-- **Tokens of all layers**: where the explicit values of a setting may be parts of a list, each
token of one of them is kept, unless from its layer on a value in which the other occurs as a text
lacks it; and there are no other tokens. -/
theorem splitList_resolve (hkey : isScalarKey key = false)
    (hvalues : ∀ v ∈ layers.explicitValues key, hasInherited v = false ∧ IsListPart v)
    (hsome : layers.explicitValues key ≠ []) :
    ∃ value, layers.resolve key = some value ∧ ∀ token, token ∈ Text.splitList value ↔
      ∃ i v, (layers.explicitValues key)[i]? = some v ∧ token ∈ Text.splitList v ∧
        ∀ m ∈ (layers.meetings key).drop (i - 1), ¬ Loses m token := by
  obtain ⟨lowest, others, hexplicit⟩ := List.exists_cons_of_ne_nil hsome
  rw [hexplicit] at hvalues
  obtain ⟨⟨hplain, hlowest⟩, hothers⟩ := List.forall_mem_cons.1 hvalues
  refine ⟨others.foldl (merge key) lowest, ?_, fun token => ?_⟩
  · rw [resolve_of_explicitValues hexplicit hplain, over_eq_foldl_merge hkey hlowest hothers]
  · have hmeetings : layers.meetings key = Setting.meetings key lowest others := by
      rw [meetings, hexplicit]
    rw [mem_splitList_foldl_iff hkey hlowest fun v hv => (hothers v hv).2, hexplicit, hmeetings]
    constructor
    · rintro (⟨hmem, hall⟩ | ⟨i, v, hv, hmem, hall⟩)
      · exact ⟨0, lowest, rfl, hmem, hall⟩
      · exact ⟨i + 1, v, hv, hmem, hall⟩
    · rintro ⟨i, v, hv, hmem, hall⟩
      cases i with
      | zero =>
        obtain rfl : lowest = v := Option.some.inj hv
        exact Or.inl ⟨hmem, hall⟩
      | succ i => exact Or.inr ⟨i, v, hv, hmem, hall⟩

/-- No token is lost here, although the highest value occurs in what is below it. -/
theorem splitList_resolve_link :
    let key := "OTHER_LDFLAGS"
    ∃ value, linkLayers.resolve key = some value ∧
      ∀ token ∈ ["-lz", "-ObjC", "-lzma", "-DX=a b"], token ∈ Text.splitList value := by
  intro key
  have hparts : ∀ v ∈ linkLayers.explicitValues key, hasInherited v = false ∧ IsListPart v := by
    decide
  obtain ⟨value, hvalue, htokens⟩ := splitList_resolve (by decide) hparts (by decide)
  refine ⟨value, hvalue, fun token htoken => (htokens token).2 ?_⟩
  -- each token is kept from the lowest value or from the second one
  have hplaces : ∀ token ∈ ["-lz", "-ObjC", "-lzma", "-DX=a b"], ∃ i ∈ [0, 1],
      ∃ v ∈ (linkLayers.explicitValues key)[i]?, token ∈ Text.splitList v ∧
        ∀ m ∈ (linkLayers.meetings key).drop (i - 1), ¬ Loses m token := by
    decide
  obtain ⟨i, -, v, hv, hrest⟩ := hplaces token htoken
  exact ⟨i, v, hv, hrest⟩

/-- A token is lost where its value occurs in another one as a text only; and so is one below a
truth value, also if that has blanks around it. -/
theorem splitList_resolve_contained :
    let key := "OTHER_LDFLAGS"
    let contained : Layers :=
      { project := [.ofList [(key, "-lz")]], target := [.ofList [(key, "-lzma")]] }
    let spaced : Layers :=
      { project := [.ofList [(key, "-lz")]], target := [.ofList [(key, " YES ")]] }
    isScalarKey key = false ∧
      ((∀ v ∈ contained.explicitValues key, hasInherited v = false ∧ IsListPart v) ∧
        ∃ v ∈ contained.explicitValues key, ∃ token ∈ Text.splitList v,
          ∀ value ∈ contained.resolve key, token ∉ Text.splitList value) ∧
      (∀ v ∈ spaced.explicitValues key, hasInherited v = false ∧ Text.isBlankText v = false ∧
        isBooleanLiteral v = false ∧ Text.Balanced v) ∧
        ∃ v ∈ spaced.explicitValues key, ∃ token ∈ Text.splitList v,
          ∀ value ∈ spaced.resolve key, token ∉ Text.splitList value := by
  decide

end Layers

end BuildSettings.Setting
