import BuildSettings.Proofs.Setting.Modifier
import BuildSettings.Proofs.Setting.Pieces
import BuildSettings.Setting.Expansion
import Mathlib.Data.List.Basic

/-!
# Filling in references

`fill` puts given values in for all references of a value at once. `expandOnce` puts in only what
is known, trims, and leaves text that is taken apart again in the next round. This file relates
the two, for values whose dollar signs all begin references and known values without any:

* `pieces_expandOnce` — the pieces after a round are the pieces before it with the known
  references replaced by characters, trimmed.
* `fill_expandOnce` — so filling in the rest gives what filling in the whole would have given, and
  where no reference is left the text is that already (`expandOnce_eq_fill`).
-/

namespace BuildSettings.Setting

/-! ### Names in a value -/

/-- The setting that a reference names. -/
def Reference.target (r : Reference) : String :=
  String.ofList r.name

/-- The setting that a piece names. -/
def Piece.target? : Piece → Option String
  | .char _ => none
  | .reference r => some r.target

/-- The settings that a value refers to. -/
def names (value : String) : List String :=
  (pieces value).filterMap Piece.target?

/-- The names of a value are the targets of the references among its pieces. -/
theorem mem_names {value a : String} :
    a ∈ names value ↔ ∃ r, .reference r ∈ pieces value ∧ r.target = a := by
  rw [names, List.mem_filterMap]
  constructor
  · rintro ⟨p, hp, hname⟩
    cases p with
    | char c => cases hname
    | reference r => exact ⟨r, hp, Option.some.inj hname⟩
  · rintro ⟨r, hr, rfl⟩
    exact ⟨.reference r, hr, rfl⟩

theorem hasReference_iff {value : String} :
    hasReference value = true ↔ ∃ r, .reference r ∈ pieces value := by
  rw [hasReference, List.any_eq_true]
  constructor
  · rintro ⟨p, hp, hreference⟩
    cases p with
    | char c => cases hreference
    | reference r => exact ⟨r, hp⟩
  · rintro ⟨r, hr⟩
    exact ⟨.reference r, hr, rfl⟩

/-- A value without references names nothing. -/
theorem hasReference_eq_false_iff {value : String} :
    hasReference value = false ↔ names value = [] := by
  rw [← Bool.not_eq_true, hasReference_iff, List.eq_nil_iff_forall_not_mem]
  constructor
  · intro hnone a ha
    obtain ⟨r, hr, -⟩ := mem_names.1 ha
    exact hnone ⟨r, hr⟩
  · rintro hnil ⟨r, hr⟩
    exact hnil _ (mem_names.2 ⟨r, hr, rfl⟩)

/-- The pieces of a value without references are characters. -/
theorem exists_char_of_closed {value : String} (hclosed : hasReference value = false) {p : Piece}
    (hp : p ∈ pieces value) : ∃ c, p = .char c := by
  cases p with
  | char c => exact ⟨c, rfl⟩
  | reference r =>
    have hopen := hasReference_iff.2 ⟨r, hp⟩
    rw [hclosed] at hopen
    cases hopen

/-! ### Filling in -/

/-- What a piece is written as where the settings have the values `σ`. -/
def Piece.fill (σ : String → String) : Piece → List Char
  | .char c => [c]
  | .reference r => (r.apply (σ r.target)).toList

/-- The value with every reference replaced, without the blanks at its ends. -/
def fill (σ : String → String) (value : String) : String :=
  String.ofList (Text.trimChars ((pieces value).flatMap (Piece.fill σ)))

/-- Only the settings that the value refers to matter. -/
theorem fill_congr {σ τ : String → String} {value : String}
    (h : ∀ a ∈ names value, σ a = τ a) : fill σ value = fill τ value := by
  have hpieces : ∀ p ∈ pieces value, p.fill σ = p.fill τ := by
    intro p hp
    cases p with
    | char c => rfl
    | reference r => rw [Piece.fill, Piece.fill, h _ (mem_names.2 ⟨r, hp, rfl⟩)]
  rw [fill, fill, List.flatMap_congr hpieces]

/-- Values without dollar signs are filled in to one without, since no modifier brings one in
(`dollar_notMem_modify`). -/
theorem dollar_notMem_fill {σ : String → String} {value : String}
    (hvalue : DollarsRefer value.toList) (hσ : ∀ a ∈ names value, '$' ∉ (σ a).toList) :
    '$' ∉ (fill σ value).toList := by
  rw [fill, String.toList_ofList]
  intro hmem
  obtain ⟨p, hp, hdollar⟩ := List.mem_flatMap.1 (Text.mem_of_mem_trimChars hmem)
  cases p with
  | char c =>
    have hclean : c ≠ '$' := dollarsRefer_iff.1 hvalue _ hp
    exact hclean (List.mem_singleton.1 hdollar).symm
  | reference r =>
    exact r.dollar_notMem_apply (hσ _ (mem_names.2 ⟨r, hp, rfl⟩)) hdollar

/-- A value without references is made of its characters. -/
theorem dollar_notMem_of_closed {value : String} (hvalue : DollarsRefer value.toList)
    (hclosed : hasReference value = false) : '$' ∉ value.toList := by
  rw [← spell_pieces value]
  intro hmem
  obtain ⟨p, hp, hdollar⟩ := List.mem_flatMap.1 hmem
  obtain ⟨c, rfl⟩ := exists_char_of_closed hclosed hp
  have hclean : c ≠ '$' := dollarsRefer_iff.1 hvalue _ hp
  exact hclean (List.mem_singleton.1 hdollar).symm

/-- A value without dollar signs has no references; the other direction needs `DollarsRefer`. -/
theorem closed_of_dollar_notMem {value : String} (h : '$' ∉ value.toList) :
    hasReference value = false := by
  rw [Bool.eq_false_iff]
  intro hopen
  obtain ⟨r, hr⟩ := hasReference_iff.1 hopen
  rw [← spell_pieces value] at h
  exact h (List.mem_flatMap.2 ⟨.reference r, hr, List.mem_cons_self ..⟩)

/-! ### One round on one value -/

/-- What a piece of the setting `key` becomes when the settings `known` are settled. -/
def Piece.settle (key : String) (known : Settings) : Piece → List Piece
  | .char c => [.char c]
  | .reference r =>
    match (known.get? r.target).filter fun _ => r.target != key with
    | some found => (r.apply found).toList.map .char
    | none => [.reference r]

theorem Piece.settle_reference (key : String) (known : Settings) (r : Reference) :
    (Piece.reference r).settle key known =
      match (known.get? r.target).filter fun _ => r.target != key with
      | some found => (r.apply found).toList.map .char
      | none => [.reference r] :=
  rfl

theorem Reference.expand_eq (key : String) (known : Settings) (dropUnknown : Bool)
    (r : Reference) : r.expand key known dropUnknown =
      match (known.get? r.target).filter fun _ => r.target != key with
      | some found => (r.apply found).toList
      | none => if dropUnknown then [] else r.spelling :=
  rfl

theorem flatMap_spelling_char (cs : List Char) :
    (cs.map Piece.char).flatMap Piece.spelling = cs := by
  induction cs with
  | nil => rfl
  | cons c cs ih => simpa [Piece.spelling] using ih

/-- Settling a piece and expanding it are the same text, once as pieces and once as characters. -/
theorem spelling_settle (key : String) (known : Settings) (p : Piece) :
    (p.settle key known).flatMap Piece.spelling = p.expand key known false := by
  cases p with
  | char c => rfl
  | reference r =>
    cases hfound : (known.get? r.target).filter fun _ => r.target != key with
    | some found =>
      rw [Piece.settle_reference, Piece.expand, Reference.expand_eq, hfound]
      exact flatMap_spelling_char _
    | none =>
      rw [Piece.settle_reference, Piece.expand, Reference.expand_eq, hfound]
      exact List.append_nil _

/-- The known values that a value refers to have no dollar signs. -/
def KnownPlain (known : Settings) (value : String) : Prop :=
  ∀ a ∈ names value, ∀ w, known.get? a = some w → '$' ∉ w.toList

variable {key value : String} {known : Settings}

/-- What a piece of a value is settled to is clean: a known value has no dollar sign, and a modifier
brings none in, so no reference comes up that was not in the value. -/
theorem clean_settle (hvalue : DollarsRefer value.toList) (hknown : KnownPlain known value)
    {p : Piece} (hp : p ∈ pieces value) : ∀ q ∈ p.settle key known, q.Clean := by
  have hclean := dollarsRefer_iff.1 hvalue p hp
  intro q hq
  cases p with
  | char c => exact List.mem_singleton.1 hq ▸ hclean
  | reference r =>
    rw [Piece.settle] at hq
    split at hq
    next found hfound =>
      obtain ⟨c, hc, rfl⟩ := List.mem_map.1 hq
      have hget := (Option.filter_eq_some_iff.1 hfound).1
      have hplain := r.dollar_notMem_apply (hknown _ (mem_names.2 ⟨r, hp, rfl⟩) found hget)
      exact fun heq => hplain (heq ▸ hc)
    next => exact List.mem_singleton.1 hq ▸ hclean

/-- The pieces of an open value after a round, where they are read back. -/
theorem pieces_expandOnce_of_readBack (hopen : hasReference value = true)
    (hread : ReadBack ((pieces value).flatMap (Piece.settle key known))) :
    pieces (expandOnce key value known false) =
      trimPieces ((pieces value).flatMap (Piece.settle key known)) := by
  have hexpand : (pieces value).flatMap (·.expand key known false) =
      ((pieces value).flatMap (Piece.settle key known)).flatMap Piece.spelling := by
    rw [List.flatMap_assoc]
    exact List.flatMap_congr fun p _ => (spelling_settle key known p).symm
  rw [expandOnce, if_pos hopen, hexpand, ← spelling_trimPieces, pieces, String.toList_ofList]
  exact hread.trim

/-- The same for all pieces of a value. -/
theorem clean_settled (hvalue : DollarsRefer value.toList) (hknown : KnownPlain known value) :
    ∀ q ∈ (pieces value).flatMap (Piece.settle key known), q.Clean := by
  intro q hq
  obtain ⟨p, hp, hqp⟩ := List.mem_flatMap.1 hq
  exact clean_settle hvalue hknown hp q hqp

/-- The pieces after a round. -/
theorem pieces_expandOnce (hopen : hasReference value = true)
    (hvalue : DollarsRefer value.toList) (hknown : KnownPlain known value) :
    pieces (expandOnce key value known false) =
      trimPieces ((pieces value).flatMap (Piece.settle key known)) :=
  pieces_expandOnce_of_readBack hopen (piecesFrom_spelling (clean_settled hvalue hknown))

/-- After a round each dollar sign still begins a reference. -/
theorem dollarsRefer_expandOnce (hopen : hasReference value = true)
    (hvalue : DollarsRefer value.toList) (hknown : KnownPlain known value) :
    DollarsRefer (expandOnce key value known false).toList := by
  rw [dollarsRefer_iff, pieces_expandOnce hopen hvalue hknown]
  exact fun p hp => clean_settled hvalue hknown p (mem_of_mem_trimPieces hp)

/-- A name that is left after a round was there before, and was not known or is the setting's
own. -/
theorem mem_names_expandOnce (hopen : hasReference value = true)
    (hvalue : DollarsRefer value.toList) (hknown : KnownPlain known value) {a : String}
    (h : a ∈ names (expandOnce key value known false)) :
    a ∈ names value ∧ (known.get? a = none ∨ a = key) := by
  obtain ⟨r, hr, rfl⟩ := mem_names.1 h
  rw [pieces_expandOnce hopen hvalue hknown] at hr
  obtain ⟨p, hp, hqp⟩ := List.mem_flatMap.1 (mem_of_mem_trimPieces hr)
  cases p with
  | char c => cases List.mem_singleton.1 hqp
  | reference s =>
    rw [Piece.settle] at hqp
    split at hqp
    next =>
      -- a reference that was settled leaves characters only
      obtain ⟨c, -, hc⟩ := List.mem_map.1 hqp
      cases hc
    next hnone =>
      obtain rfl := Piece.reference.inj (List.mem_singleton.1 hqp)
      refine ⟨mem_names.2 ⟨r, hp, rfl⟩, ?_⟩
      cases hget : known.get? r.target with
      | none => exact Or.inl rfl
      | some w => exact Or.inr (by simpa [hget] using hnone)

/-- Where the known values are the ones to fill in, filling in the rest after a round is filling in
the whole before it. -/
theorem fill_expandOnce (hopen : hasReference value = true)
    (hvalue : DollarsRefer value.toList) (hknown : KnownPlain known value) {σ : String → String}
    (hσ : ∀ a ∈ names value, ∀ w, known.get? a = some w → w = σ a) :
    fill σ (expandOnce key value known false) = fill σ value := by
  -- piece by piece; trimming in between does not matter, since filling trims again
  have hsettle : ∀ p ∈ pieces value,
      (p.settle key known).flatMap (Piece.fill σ) = p.fill σ := by
    intro p hp
    cases p with
    | char c => rfl
    | reference r =>
      rw [Piece.settle]
      split
      next found hfound =>
        have hget := (Option.filter_eq_some_iff.1 hfound).1
        rw [hσ _ (mem_names.2 ⟨r, hp, rfl⟩) found hget, List.flatMap_map]
        simp [Piece.fill]
      next => simp
  rw [fill, fill, pieces_expandOnce hopen hvalue hknown,
    trimChars_flatMap_trimPieces fun _ => rfl, List.flatMap_assoc, List.flatMap_congr hsettle]

/-- Filling in a trimmed text without references changes nothing. -/
theorem fill_of_closed {σ : String → String} (hclosed : hasReference value = false)
    (htrim : Text.trimChars value.toList = value.toList) : fill σ value = value := by
  have hpieces : ∀ p ∈ pieces value, p.fill σ = p.spelling := by
    intro p hp
    obtain ⟨c, rfl⟩ := exists_char_of_closed hclosed hp
    rfl
  rw [fill, List.flatMap_congr hpieces, spell_pieces, htrim, String.ofList_toList]

/-- Where no reference is left after a round, the text is the filled in value. -/
theorem expandOnce_eq_fill (hopen : hasReference value = true)
    (hvalue : DollarsRefer value.toList) (hknown : KnownPlain known value) {σ : String → String}
    (hσ : ∀ a ∈ names value, ∀ w, known.get? a = some w → w = σ a)
    (hclosed : hasReference (expandOnce key value known false) = false) :
    expandOnce key value known false = fill σ value := by
  have htrim : Text.trimChars (expandOnce key value known false).toList =
      (expandOnce key value known false).toList := by
    rw [← spell_pieces, pieces_expandOnce hopen hvalue hknown, trimChars_flatMap_trimPieces,
      spelling_trimPieces]
    exact fun _ => rfl
  rw [← fill_expandOnce hopen hvalue hknown hσ, fill_of_closed hclosed htrim]

/-- Where every reference is known there is nothing to drop, so the last pass does what a round
does. -/
theorem expandOnce_drop (hall : ∀ a ∈ names value, known.contains a = true ∧ a ≠ key) :
    expandOnce key value known true = expandOnce key value known false := by
  have hpieces : ∀ p ∈ pieces value, p.expand key known true = p.expand key known false := by
    intro p hp
    cases p with
    | char c => rfl
    | reference r =>
      obtain ⟨hcontains, hne⟩ := hall r.target (mem_names.2 ⟨r, hp, rfl⟩)
      obtain ⟨found, hfound⟩ := Option.isSome_iff_exists.1 hcontains
      have hfilter : ((known.get? r.target).filter fun _ => r.target != key) = some found := by
        simp [hfound, Option.filter_some, hne]
      rw [Piece.expand, Piece.expand, Reference.expand_eq, Reference.expand_eq, hfilter]
  rw [expandOnce, expandOnce, List.flatMap_congr hpieces]

/-- Where every reference is known, or is unknown and stands for nothing, dropping the unknown
ones fills the value in. -/
theorem expandOnce_drop_eq_fill {σ : String → String} (hopen : hasReference value = true)
    (hnames : ∀ a ∈ names value,
      (known.get? a = some (σ a) ∧ a ≠ key) ∨ (known.get? a = none ∧ σ a = "")) :
    expandOnce key value known true = fill σ value := by
  have hpieces : ∀ p ∈ pieces value, p.expand key known true = p.fill σ := by
    intro p hp
    cases p with
    | char c => rfl
    | reference r =>
      rw [Piece.expand, Reference.expand_eq, Piece.fill]
      rcases hnames r.target (mem_names.2 ⟨r, hp, rfl⟩) with ⟨hfound, hne⟩ | ⟨hnone, hempty⟩
      · have hfilter : ((known.get? r.target).filter fun _ => r.target != key) =
            some (σ r.target) := by
          simp [hfound, Option.filter_some, hne]
        rw [hfilter]
      · rw [hnone, hempty, r.apply_empty]
        rfl
  rw [expandOnce, if_pos hopen, fill, List.flatMap_congr hpieces]

end BuildSettings.Setting
