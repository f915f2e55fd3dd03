import BuildSettings.Proofs.Preferences.Merge
import Mathlib.Data.List.Forall2

/-!
# What overrides leave

Each override is a value under a path of keys, and they are laid over each other from left to right.
A later one reaches an earlier one only where its path starts with the path of the other or the
other way round (`at?_merge_nest_of_incomparable`); everything else that it lays down is its value
(`leaf_merge_nest`). No value is an object, so what stands at the end of a path is never merged with
anything.

* `readOverride_eq_ok_iff`, `readOverride_eq_error_iff` — which texts are read, and as what.
* `at?_layOver`, `leaf_layOver` — what a list of overrides keeps, and where its values come from.
* `overrides_of_texts` — so it is for the object that texts make.
-/

namespace BuildSettings.Preferences

open Json

variable {base value leaf : Json} {path other keys : List String}

/-! ### One override -/

/-- The value of an override is a scalar or a list and never an object. -/
theorem isObject_overrideValue (cs : List Char) : (overrideValue cs).isObject = false := by
  unfold overrideValue
  split
  · rfl
  · split
    · rfl
    · split <;> rfl

theorem isObject_nest (h : path ≠ []) (value : Json) : (nest path value).isObject = true := by
  cases path with
  | nil => exact absurd rfl h
  | cons key path => rfl

/-- Below its first key the rest of the override is laid over what is there; the other members
stay. -/
theorem field?_merge_nest (base : Json) (first : String) (keys : List String) (value : Json)
    (key : String) :
    (merge base (nest (first :: keys) value)).field? key =
      if key = first then some (merge ((base.field? first).getD .null) (nest keys value))
      else base.field? key := by
  show (merge base (.object [(first, nest keys value)])).field? key = _
  cases base with
  | object members =>
    rw [merge]
    show (mergeMembers members [(first, nest keys value)]).lookup key = _
    -- the override has a single member, so the look-up is decided by its key
    rw [lookup_mergeMembers (List.pairwise_singleton _ _), Dictionary.lookup_cons_eq]
    by_cases hkey : key = first
    · rw [if_pos hkey, if_pos hkey, hkey]
      rfl
    · rw [if_neg hkey, if_neg hkey]
      rfl
  | _ =>
    rw [merge]
    · show List.lookup key [(first, nest keys value)] = _
      rw [Dictionary.lookup_cons_eq]
      split
      next => exact congrArg some (merge_null _).symm
      next => rfl
    · simp

/-- At its own path an override has its value. -/
theorem at?_merge_nest_self (hvalue : value.isObject = false) (base : Json) (path : List String) :
    (merge base (nest path value)).at? path = some value := by
  induction path generalizing base with
  | nil => exact congrArg some (merge_of_not_object hvalue base)
  | cons key path ih =>
    rw [at?_cons, field?_merge_nest, if_pos rfl]
    exact ih _

/-- The frame of an override: where neither path starts with the other it changes nothing. -/
theorem at?_merge_nest_of_incomparable (h : ¬ path <+: other) (h' : ¬ other <+: path)
    (base value : Json) : (merge base (nest other value)).at? path = base.at? path := by
  induction path generalizing other base with
  | nil => exact absurd List.nil_prefix h
  | cons key path ih =>
    cases other with
    | nil => exact absurd List.nil_prefix h'
    | cons first other =>
      rw [at?_cons, at?_cons, field?_merge_nest]
      by_cases hkey : key = first
      · subst hkey
        rw [List.prefix_cons_inj] at h h'
        rw [if_pos rfl, Option.bind_some, ih h h']
        cases base.field? key with
        | none =>
          -- there is nothing below, and the path goes on
          cases path with
          | nil => exact absurd List.nil_prefix h
          | cons next path => rw [Option.getD_none, at?_cons]; rfl
        | some below => rfl
      · rw [if_neg hkey]

theorem field?_of_not_object (h : value.isObject = false) (key : String) :
    value.field? key = none := by
  cases value with
  | object members => cases h
  | _ => rfl

/-- An override has no other value than its own: whatever is no object in it stands at the end of
its path. -/
theorem leaf_nest (hvalue : value.isObject = false) (hleaf : leaf.isObject = false)
    (h : (nest other value).at? path = some leaf) : path = other ∧ leaf = value := by
  induction path generalizing other with
  | nil =>
    obtain rfl := Option.some.inj h
    cases other with
    | nil => exact ⟨rfl, rfl⟩
    | cons first other => cases hleaf
  | cons key path ih =>
    rw [at?_cons] at h
    cases other with
    | nil =>
      -- the override ends here, and nothing is below a value that is no object
      rw [nest, List.foldr_nil, field?_of_not_object hvalue] at h
      cases h
    | cons first other =>
      have hfield : (nest (first :: other) value).field? key =
          if key = first then some (nest other value) else none :=
        Dictionary.lookup_cons_eq (first, nest other value) [] key
      rw [hfield] at h
      split at h
      next hkey =>
        obtain ⟨rfl, rfl⟩ := ih h
        exact ⟨congrArg (· :: path) hkey, rfl⟩
      next => cases h

/-- The step lemma of the other direction: a value that is no object is that of the override, at its
path, or it was there before. Nothing is invented on the way. -/
theorem leaf_merge_nest (hvalue : value.isObject = false) (hleaf : leaf.isObject = false)
    (h : (merge base (nest other value)).at? path = some leaf) :
    base.at? path = some leaf ∨ path = other ∧ leaf = value := by
  induction path generalizing other base with
  | nil =>
    obtain rfl := Option.some.inj h
    cases other with
    | nil => exact .inr ⟨rfl, merge_of_not_object hvalue base⟩
    | cons first other =>
      rw [isObject_merge] at hleaf
      cases hleaf
  | cons key path ih =>
    cases other with
    | nil =>
      rw [nest, List.foldr_nil, merge_of_not_object hvalue] at h
      exact .inr (leaf_nest hvalue hleaf h)
    | cons first other =>
      rw [at?_cons, field?_merge_nest] at h
      rw [at?_cons]
      split at h
      next hkey =>
        -- the path goes the way of the override by one more key
        subst hkey
        cases hfield : base.field? key with
        | none =>
          rw [hfield, Option.getD_none, merge_null] at h
          obtain ⟨rfl, rfl⟩ := leaf_nest hvalue hleaf h
          exact .inr ⟨rfl, rfl⟩
        | some below =>
          rw [hfield] at h
          rcases ih h with hbelow | ⟨rfl, rfl⟩
          · exact .inl hbelow
          · exact .inr ⟨rfl, rfl⟩
      next => exact .inl h

/-! ### All overrides -/

/-- Lays overrides over a value, from left to right. -/
def layOver (base : Json) (overrides : List (List String × Json)) : Json :=
  overrides.foldl (fun below o => merge below (nest o.1 o.2)) base

variable {pairs before after : List (List String × Json)} {o : List String × Json}

theorem layOver_cons (base : Json) (o : List String × Json) (pairs : List (List String × Json)) :
    layOver base (o :: pairs) = layOver (merge base (nest o.1 o.2)) pairs :=
  rfl

theorem layOver_append (base : Json) (before after : List (List String × Json)) :
    layOver base (before ++ after) = layOver (layOver base before) after :=
  List.foldl_append

/-- Overrides whose paths neither start with a path nor begin it leave alone what is there. -/
theorem at?_layOver_of_incomparable
    (h : ∀ o ∈ pairs, ¬ path <+: o.1 ∧ ¬ o.1 <+: path) (base : Json) :
    (layOver base pairs).at? path = base.at? path := by
  induction pairs generalizing base with
  | nil => rfl
  | cons o pairs ih =>
    obtain ⟨⟨hpath, hother⟩, hrest⟩ := List.forall_mem_cons.1 h
    rw [layOver_cons, ih hrest, at?_merge_nest_of_incomparable hpath hother]

/-- So an override is kept if no later one reaches it. -/
theorem at?_layOver (hvalue : o.2.isObject = false)
    (h : ∀ later ∈ after, ¬ o.1 <+: later.1 ∧ ¬ later.1 <+: o.1) (base : Json) :
    (layOver base (before ++ o :: after)).at? o.1 = some o.2 := by
  rw [layOver_append, layOver_cons, at?_layOver_of_incomparable h, at?_merge_nest_self hvalue]

/-- Overrides bring in no values but their own. -/
theorem leaf_layOver (hvalues : ∀ o ∈ pairs, o.2.isObject = false) (hleaf : leaf.isObject = false)
    (h : (layOver base pairs).at? path = some leaf) :
    base.at? path = some leaf ∨ (path, leaf) ∈ pairs := by
  induction pairs generalizing base with
  | nil => exact .inl h
  | cons o pairs ih =>
    obtain ⟨hvalue, hrest⟩ := List.forall_mem_cons.1 hvalues
    rcases ih hrest h with hmerged | hmem
    · rcases leaf_merge_nest hvalue hleaf hmerged with hbase | ⟨rfl, rfl⟩
      · exact .inl hbase
      · exact .inr (List.mem_cons_self ..)
    · exact .inr (List.mem_cons_of_mem _ hmem)

/-- Overrides with keys keep an object an object. -/
theorem isObject_layOver (hpaths : ∀ o ∈ pairs, o.1 ≠ []) (hbase : base.isObject = true) :
    (layOver base pairs).isObject = true := by
  induction pairs generalizing base with
  | nil => exact hbase
  | cons o pairs ih =>
    obtain ⟨hpath, hrest⟩ := List.forall_mem_cons.1 hpaths
    refine ih hrest ?_
    rw [isObject_merge, isObject_nest hpath]

/-! ### Texts of overrides -/

/-- The text has no equals sign, or what stands in front of the first one is blank or has an empty
part between two dots or at an end. -/
def Malformed (text : String) : Prop :=
  '=' ∉ text.toList ∨ ∃ front back, text.toList = front ++ '=' :: back ∧ '=' ∉ front ∧
    (Text.trimChars front = [] ∨ [] ∈ Text.pieces '.' (Text.trimChars front))

/-- The text gives the override: its keys stand between dots in front of the first equals sign, and
its value behind that, both without blanks at their ends. -/
def Gives (text : String) (o : List String × Json) : Prop :=
  ∃ front back, text.toList = front ++ '=' :: back ∧ '=' ∉ front ∧
    o.1.map String.toList = Text.pieces '.' (Text.trimChars front) ∧
    o.2 = overrideValue (Text.trimChars back)

section Text

variable {text : String} {front back : List Char}

/-- Where the first equals sign is known, a text is malformed exactly if one of the keys in front of
it is empty. -/
theorem malformed_iff (htext : text.toList = front ++ '=' :: back) (hfront : '=' ∉ front) :
    Malformed text ↔ [] ∈ Text.pieces '.' (Text.trimChars front) := by
  constructor
  · rintro (hnone | ⟨front', back', htext', hfront', hempty⟩)
    · exact absurd (htext ▸ List.mem_append_right front (List.mem_cons_self ..)) hnone
    · -- both are cut at the first equals sign
      have hcut := Text.cutFirst?_eq_some_iff.2 ⟨htext, hfront⟩
      rw [Text.cutFirst?_eq_some_iff.2 ⟨htext', hfront'⟩] at hcut
      obtain ⟨rfl, rfl⟩ := Prod.mk.inj (Option.some.inj hcut)
      rcases hempty with hblank | hempty
      · rw [hblank]
        exact List.mem_singleton.2 rfl
      · exact hempty
  · exact fun hempty => .inr ⟨front, back, htext, hfront, .inr hempty⟩

/-- And otherwise it gives the keys in front and the value behind, both without the blanks at their
ends. -/
theorem gives_iff (htext : text.toList = front ++ '=' :: back) (hfront : '=' ∉ front) :
    Gives text o ↔ o = ((Text.pieces '.' (Text.trimChars front)).map String.ofList,
      overrideValue (Text.trimChars back)) := by
  constructor
  · rintro ⟨front', back', htext', hfront', hkeys, hvalue⟩
    have hcut := Text.cutFirst?_eq_some_iff.2 ⟨htext, hfront⟩
    rw [Text.cutFirst?_eq_some_iff.2 ⟨htext', hfront'⟩] at hcut
    obtain ⟨rfl, rfl⟩ := Prod.mk.inj (Option.some.inj hcut)
    rw [← hkeys, ← hvalue, List.map_map]
    simp [Function.comp_def]
  · rintro rfl
    exact ⟨front, back, htext, hfront, by simp [Function.comp_def], rfl⟩

/-- The reader in one equation, by the first equals sign of the text. -/
theorem readOverride_eq (htext : text.toList = front ++ '=' :: back) (hfront : '=' ∉ front) :
    readOverride text =
      if [] ∈ Text.pieces '.' (Text.trimChars front) then .error (.emptyKey text)
      else .ok ((Text.pieces '.' (Text.trimChars front)).map String.ofList,
        overrideValue (Text.trimChars back)) := by
  rw [readOverride, Text.cutFirst?_eq_some_iff.2 ⟨htext, hfront⟩]
  simp only [List.any_eq_true, List.isEmpty_iff, exists_eq_right]

theorem readOverride_of_notMem (h : '=' ∉ text.toList) :
    readOverride text = .error (.noEquals text) := by
  rw [readOverride, Text.cutFirst?_eq_none_iff.2 h]

/-- A text gives one override at most. -/
theorem rightUnique_gives : Relator.RightUnique Gives := by
  rintro text o o' ⟨front, back, htext, hfront, hgives⟩ ho'
  have ho : Gives text o := ⟨front, back, htext, hfront, hgives⟩
  exact ((gives_iff htext hfront).1 ho).trans ((gives_iff htext hfront).1 ho').symm

/-- A text is read as what it gives, unless it is malformed. -/
theorem readOverride_eq_ok_iff : readOverride text = .ok o ↔ ¬ Malformed text ∧ Gives text o := by
  by_cases hmem : '=' ∈ text.toList
  · obtain ⟨front, back, htext, hfront⟩ := List.eq_append_cons_of_mem hmem
    rw [readOverride_eq htext hfront, malformed_iff htext hfront, gives_iff htext hfront]
    split
    next hempty => simp [hempty]
    next hempty => simp [hempty, eq_comm]
  · have hmalformed : Malformed text := .inl hmem
    rw [readOverride_of_notMem hmem]
    simp [hmalformed]

/-- Why a text is not read. -/
theorem readOverride_eq_error_iff {e : OverrideError} : readOverride text = .error e ↔
    Malformed text ∧ e = if '=' ∈ text.toList then .emptyKey text else .noEquals text := by
  by_cases hmem : '=' ∈ text.toList
  · obtain ⟨front, back, htext, hfront⟩ := List.eq_append_cons_of_mem hmem
    rw [readOverride_eq htext hfront, malformed_iff htext hfront, if_pos hmem]
    split
    next hempty => simp [hempty, eq_comm]
    next hempty => simp [hempty]
  · have hmalformed : Malformed text := .inl hmem
    rw [readOverride_of_notMem hmem, if_neg hmem]
    simp [hmalformed, eq_comm]

end Text

/-! ### Lists of texts -/

section Texts

variable {result : Json} {texts : List String}

/-- Where there is a result all texts are read, and what they give is laid over each other. -/
theorem exists_layOver_eq (h : overridesOver base texts = .ok result) :
    ∃ pairs, List.Forall₂ (fun text o => readOverride text = .ok o) texts pairs ∧
      layOver base pairs = result := by
  induction texts generalizing base with
  | nil => exact ⟨[], .nil, Except.ok.inj h⟩
  | cons text texts ih =>
    rw [overridesOver] at h
    split at h
    next => cases h
    next keys value hread =>
      obtain ⟨pairs, hpairs, hresult⟩ := ih h
      exact ⟨(keys, value) :: pairs, .cons hread hpairs, hresult⟩

/-- The first text that is not read decides, and those in front of it do not matter but for being
read. -/
theorem overridesOver_eq_error_iff {e : OverrideError} : overridesOver base texts = .error e ↔
    ∃ front text back, texts = front ++ text :: back ∧
      (∀ t ∈ front, ∃ o, readOverride t = .ok o) ∧ readOverride text = .error e := by
  constructor
  · intro h
    induction texts generalizing base with
    | nil => cases h
    | cons text texts ih =>
      rw [overridesOver] at h
      split at h
      next e' hread =>
        obtain rfl := Except.error.inj h
        exact ⟨[], text, texts, rfl, List.forall_mem_nil _, hread⟩
      next keys value hread =>
        obtain ⟨front, text', back, rfl, hfront, herror⟩ := ih h
        exact ⟨text :: front, text', back, rfl,
          List.forall_mem_cons.2 ⟨⟨_, hread⟩, hfront⟩, herror⟩
  · rintro ⟨front, text, back, rfl, hfront, herror⟩
    induction front generalizing base with
    | nil => rw [List.nil_append, overridesOver, herror]
    | cons t front ih =>
      obtain ⟨⟨o, hread⟩, hrest⟩ := List.forall_mem_cons.1 hfront
      rw [List.cons_append, overridesOver, hread]
      exact ih hrest

theorem exists_mem_of_forall₂ {α β : Type} {R : α → β → Prop} {as : List α} {bs : List β}
    (h : List.Forall₂ R as bs) {a : α} (ha : a ∈ as) : ∃ b ∈ bs, R a b := by
  induction h with
  | nil => cases ha
  | cons hab _ ih =>
    rcases List.mem_cons.1 ha with rfl | hmem
    · exact ⟨_, List.mem_cons_self .., hab⟩
    · obtain ⟨b, hb, hR⟩ := ih hmem
      exact ⟨b, List.mem_cons_of_mem _ hb, hR⟩

/-- What is read has a path, and a value that is no object. -/
theorem path_value_of_readOverride {text : String} (h : readOverride text = .ok o) :
    o.1 ≠ [] ∧ o.2.isObject = false := by
  obtain ⟨-, front, back, -, -, hkeys, hvalue⟩ := readOverride_eq_ok_iff.1 h
  refine ⟨fun hnil => ?_, hvalue ▸ isObject_overrideValue _⟩
  rw [hnil] at hkeys
  exact Text.pieces_ne_nil _ _ hkeys.symm

/-- A list of texts fails if one of them is malformed, wherever it stands and whatever the others
do. -/
theorem exists_overrides_error_iff :
    (∃ e, overrides texts = .error e) ↔ ∃ text ∈ texts, Malformed text := by
  constructor
  · rintro ⟨e, h⟩
    obtain ⟨front, text, back, rfl, -, herror⟩ := overridesOver_eq_error_iff.1 h
    exact ⟨text, by simp, (readOverride_eq_error_iff.1 herror).1⟩
  · rintro ⟨text, htext, hmalformed⟩
    cases hread : overrides texts with
    | error e => exact ⟨e, rfl⟩
    | ok result =>
      obtain ⟨pairs, hpairs, -⟩ := exists_layOver_eq hread
      obtain ⟨o, -, ho⟩ := exists_mem_of_forall₂ hpairs htext
      exact absurd hmalformed (readOverride_eq_ok_iff.1 ho).1

/-- **What overrides make.** They fail exactly if a text is malformed, and the first such text is
the one that is blamed. Otherwise they make an object. In it an override has its value at its path
if no later one is for the same path, for one on the way to it or for one behind it; and each value
that is no object is that of an override, at its path. -/
theorem overrides_of_texts (texts : List String) :
    ((∃ e, overrides texts = .error e) ↔ ∃ text ∈ texts, Malformed text) ∧
    (∀ e, overrides texts = .error e → ∃ front text back, texts = front ++ text :: back ∧
      (∀ t ∈ front, ¬ Malformed t) ∧ Malformed text ∧
      e = if '=' ∈ text.toList then .emptyKey text else .noEquals text) ∧
    ∀ result, overrides texts = .ok result →
      result.isObject = true ∧ result.IsOrdered ∧ ∃ pairs, List.Forall₂ Gives texts pairs ∧
        (∀ before o after, pairs = before ++ o :: after →
          (∀ later ∈ after, ¬ o.1 <+: later.1 ∧ ¬ later.1 <+: o.1) →
          result.at? o.1 = some o.2) ∧
        ∀ path leaf, result.at? path = some leaf → leaf.isObject = false →
          (path, leaf) ∈ pairs := by
  refine ⟨exists_overrides_error_iff, fun e h => ?_, fun result h => ?_⟩
  · obtain ⟨front, text, back, htexts, hfront, herror⟩ := overridesOver_eq_error_iff.1 h
    obtain ⟨hmalformed, he⟩ := readOverride_eq_error_iff.1 herror
    refine ⟨front, text, back, htexts, fun t ht => ?_, hmalformed, he⟩
    obtain ⟨o, ho⟩ := hfront t ht
    exact (readOverride_eq_ok_iff.1 ho).1
  · have hordered := isOrdered_overrides h
    obtain ⟨pairs, hpairs, rfl⟩ := exists_layOver_eq h
    have hread : ∀ o ∈ pairs, o.1 ≠ [] ∧ o.2.isObject = false := by
      intro o ho
      obtain ⟨text, -, htext⟩ := exists_mem_of_forall₂ hpairs.flip ho
      exact path_value_of_readOverride htext
    refine ⟨isObject_layOver (fun o ho => (hread o ho).1) rfl, hordered, pairs,
      hpairs.imp fun _ _ ho => (readOverride_eq_ok_iff.1 ho).2, ?_, ?_⟩
    · rintro before o after rfl hlater
      exact at?_layOver (hread o (by simp)).2 hlater _
    · intro path leaf hat hleaf
      rcases leaf_layOver (fun o ho => (hread o ho).2) hleaf hat with hbase | hmem
      · -- the object that is laid over has no members
        cases path with
        | nil =>
          obtain rfl := Option.some.inj hbase
          cases hleaf
        | cons key path =>
          rw [at?_cons] at hbase
          cases hbase
      · exact hmem

/-- Overrides that meet each other: the second and the fourth lead through one member, the third
stands behind the second, and the last replaces the first. -/
def tangledTexts : List (String × List String × Json) :=
  [("configuration=Release", ["configuration"], .text "Release"),
    ("log=false", ["log"], .bool false),
    ("graph.aggregate_prefixes = [Pods-,, Kit ]", ["graph", "aggregate_prefixes"],
      .ofTexts ["Pods-", "Kit"]),
    (" log.filter =a=b", ["log", "filter"], .text "a=b"),
    ("configuration=", ["configuration"], .text "")]

/-- Overrides that lie above, below and beside each other, one of them with an empty value and one
with a list; and texts one of which has an empty key. -/
theorem overrides_of_texts_tangled :
    (∃ result, overrides (tangledTexts.map (·.1)) = .ok result ∧
      result.at? ["graph", "aggregate_prefixes"] = some (.ofTexts ["Pods-", "Kit"]) ∧
      result.at? ["configuration"] = some (.text "") ∧
      ∀ path leaf, result.at? path = some leaf → leaf.isObject = false →
        (path, leaf) ∈ tangledTexts.map (·.2)) ∧
    ∃ e, overrides ["log=false", "graph. .mode=full", "graph..mode=full"] = .error e := by
  have hread : List.Forall₂ (fun text o => readOverride text = .ok o) (tangledTexts.map (·.1))
      (tangledTexts.map (·.2)) :=
    .cons rfl (.cons rfl (.cons rfl (.cons rfl (.cons rfl .nil))))
  have hgives : List.Forall₂ Gives (tangledTexts.map (·.1)) (tangledTexts.map (·.2)) :=
    hread.imp fun _ _ ho => (readOverride_eq_ok_iff.1 ho).2
  obtain ⟨hfails, -, hmade⟩ := overrides_of_texts (tangledTexts.map (·.1))
  obtain ⟨result, hresult⟩ : ∃ result, overrides (tangledTexts.map (·.1)) = .ok result := ⟨_, rfl⟩
  obtain ⟨-, -, pairs, hpairs, hkept, hleaves⟩ := hmade result hresult
  obtain rfl := List.right_unique_forall₂' rightUnique_gives hpairs hgives
  have hdots : Malformed "graph..mode=full" :=
    (readOverride_eq_error_iff (e := .emptyKey "graph..mode=full").1 rfl).1
  refine ⟨⟨result, hresult, ?_, ?_, hleaves⟩, (overrides_of_texts _).1.2 ⟨_, by simp, hdots⟩⟩
  · -- later texts override other paths
    exact hkept ((tangledTexts.map (·.2)).take 2) _ ((tangledTexts.map (·.2)).drop 3) rfl
      (by decide)
  · exact hkept ((tangledTexts.map (·.2)).take 4) _ [] rfl nofun

end Texts

end BuildSettings.Preferences
