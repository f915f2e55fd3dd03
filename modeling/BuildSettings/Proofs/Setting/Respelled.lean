import BuildSettings.Proofs.Setting.Inherit
import Mathlib.Data.List.Forall2
import Mathlib.Logic.Relation

/-!
# Spellings of the inherit macro

The inherit macro may be written in parentheses or in braces. Values that differ in that alone have
the same pieces up to the spelling (`Alike`), so they are blank alike, inherit alike and take in a
plain value alike. Since folding keeps values plain, layers resolve alike however they spell the
macro (`resolve_of_allRefer`).
-/

namespace BuildSettings.Setting

variable {value parent key : String}

/-! ### Spellings of the macro -/

/-- One occurrence of the macro is spelled in the other way. -/
inductive Respells : String → String → Prop
  | braced (before after : String) :
    Respells (before ++ inheritMacro ++ after) (before ++ inheritMacroBraced ++ after)
  | round (before after : String) :
    Respells (before ++ inheritMacroBraced ++ after) (before ++ inheritMacro ++ after)

/-- The piece, or the macro in parentheses. -/
def Piece.unspelled (p : Piece) : Piece :=
  if p.isInherit then .reference (inheritReference false) else p

/-- The values differ in spellings of the macro at most. -/
def Alike (first second : String) : Prop :=
  (pieces first).map Piece.unspelled = (pieces second).map Piece.unspelled

/-- Either spelling is the same piece. -/
theorem unspelled_around {text : String} {braced : Bool}
    (h : text.toList = (inheritReference braced).spelling) (before after : String) :
    (pieces (before ++ text ++ after)).map Piece.unspelled =
      (pieces before).map Piece.unspelled ++
        .reference (inheritReference false) :: (pieces after).map Piece.unspelled := by
  rw [pieces, String.toList_append, String.toList_append, h, List.append_assoc,
    piecesFrom_append_reference (valid_inheritReference braced), List.map_append, List.map_cons,
    Piece.unspelled, if_pos (Piece.isInherit_iff.2 ⟨braced, rfl⟩)]
  rfl

/-- One occurrence in the other spelling changes nothing but the spelling of a piece. -/
theorem Respells.alike {first second : String} (h : Respells first second) :
    Alike first second := by
  cases h with
  | braced before after =>
    exact (unspelled_around toList_inheritMacro before after).trans
      (unspelled_around toList_inheritMacroBraced before after).symm
  | round before after =>
    exact (unspelled_around toList_inheritMacroBraced before after).trans
      (unspelled_around toList_inheritMacro before after).symm

/-- So it is with any number of occurrences, by induction on their chain. -/
theorem alike_of_respells {first second : String}
    (h : Relation.ReflTransGen Respells first second) : Alike first second := by
  induction h with
  | refl => rfl
  | tail _ hstep ih => exact ih.trans hstep.alike

/-- Leaving the spelling away keeps which pieces are the macro. -/
theorem isInherit_unspelled (p : Piece) : p.unspelled.isInherit = p.isInherit := by
  unfold Piece.unspelled
  split
  next h => exact h.symm
  next => rfl

/-- And which pieces are clean. -/
theorem clean_unspelled_iff {p : Piece} : p.unspelled.Clean ↔ p.Clean := by
  unfold Piece.unspelled
  split
  next h =>
    obtain ⟨braced, rfl⟩ := Piece.isInherit_iff.1 h
    exact iff_of_true (valid_inheritReference false) (valid_inheritReference braced)
  next => rfl

/-- The spelling does not matter for what is put in. -/
theorem fillInherit_unspelled (parent ps : List Piece) :
    fillInherit parent (ps.map Piece.unspelled) = fillInherit parent ps := by
  rw [fillInherit, List.flatMap_map]
  refine List.flatMap_congr fun p _ => ?_
  rw [isInherit_unspelled]
  split
  next => rfl
  next h => rw [Piece.unspelled, if_neg h]

/-- A value with the macro is not blank. -/
theorem isBlankText_of_hasInherited (h : hasInherited value = true) :
    Text.isBlankText value = false := by
  rw [hasInherited_eq, List.any_eq_true] at h
  obtain ⟨p, hp, hinherit⟩ := h
  obtain ⟨braced, rfl⟩ := Piece.isInherit_iff.1 hinherit
  have hdollar : '$' ∈ value.toList := by
    rw [← spell_pieces]
    exact List.mem_flatMap_of_mem hp List.mem_cons_self
  rw [Bool.eq_false_iff]
  intro hblank
  exact absurd (List.all_eq_true.1 hblank _ hdollar) (by decide)

namespace Alike

variable {first second : String}

/-- Values that are alike have the macro both or not at all. -/
theorem hasInherited_eq (h : Alike first second) : hasInherited first = hasInherited second := by
  have hany : ∀ ps : List Piece, (ps.map Piece.unspelled).any Piece.isInherit =
      ps.any Piece.isInherit := by
    intro ps
    rw [List.any_map]
    exact congrArg (List.any ps) (funext isInherit_unspelled)
  rw [Setting.hasInherited_eq, Setting.hasInherited_eq, ← hany (pieces first), h, hany]

/-- In values that are alike the dollar signs begin references both or not at all. -/
theorem dollarsRefer (h : Alike first second) (hfirst : DollarsRefer first.toList) :
    DollarsRefer second.toList := by
  have hclean : ∀ {value : String}, DollarsRefer value.toList ↔
      ∀ p ∈ (pieces value).map Piece.unspelled, p.Clean := by
    intro value
    rw [dollarsRefer_iff, List.forall_mem_map]
    simp only [clean_unspelled_iff]
  rw [hclean, ← h, ← hclean]
  exact hfirst

/-- Without the macro there is nothing to spell, so alike values are equal. -/
theorem eq_of_plain (h : Alike first second) (hplain : hasInherited first = false) :
    first = second := by
  have hmap : ∀ {value : String}, hasInherited value = false →
      (pieces value).map Piece.unspelled = pieces value := by
    intro value hvalue
    rw [Setting.hasInherited_eq, List.any_eq_false] at hvalue
    refine (List.map_congr_left fun p hp => ?_).trans (List.map_id _)
    exact if_neg (hvalue p hp)
  have hpieces : pieces first = pieces second := by
    rw [← hmap hplain, h, hmap (h.hasInherited_eq ▸ hplain)]
  rw [← String.toList_inj, ← spell_pieces first, hpieces, spell_pieces]

/-- Values that are alike are blank both or not at all; the macro is no blank. -/
theorem isBlankText_eq (h : Alike first second) :
    Text.isBlankText first = Text.isBlankText second := by
  cases hinherits : hasInherited first with
  | false => rw [h.eq_of_plain hinherits]
  | true =>
    rw [isBlankText_of_hasInherited hinherits,
      isBlankText_of_hasInherited (h.hasInherited_eq ▸ hinherits)]

/-- Values that are alike take in a plain value alike. -/
theorem substituteInherited_eq (h : Alike first second) (hfirst : DollarsRefer first.toList)
    (hparent : Plain parent) :
    substituteInherited first parent = substituteInherited second parent := by
  have hpieces : pieces (substituteInherited first parent) =
      pieces (substituteInherited second parent) := by
    rw [pieces_substituteInherited hfirst hparent,
      pieces_substituteInherited (h.dollarsRefer hfirst) hparent, ← fillInherit_unspelled, h,
      fillInherit_unspelled]
  rw [← String.toList_inj, ← spell_pieces, hpieces, spell_pieces]

/-- Over the same value both are folded to the same. -/
theorem layer_eq (h : Alike first second) (hfirst : DollarsRefer first.toList) {lower : Folded}
    (hlower : ∀ value ∈ lower.value, Plain value) (explicit : Bool) :
    lower.layer key explicit (some first) = lower.layer key explicit (some second) := by
  cases hinherits : hasInherited first with
  | false => rw [h.eq_of_plain hinherits]
  | true =>
    rw [Folded.layer, Folded.layer, if_pos hinherits, if_pos (h.hasInherited_eq ▸ hinherits),
      h.substituteInherited_eq hfirst (Folded.plain_getD hlower)]

end Alike

/-- The run lemma: layers with values that are alike are folded alike onto a plain value. After each
layer both folds are at one value, and it is plain, so it goes into the next two values alike. -/
theorem over_eq_of_alike {lower : Folded} {values others : List (Bool × Option String)}
    (halike : List.Forall₂ (fun v w => v.1 = w.1 ∧ Option.Rel Alike v.2 w.2) values others)
    (hlower : ∀ value ∈ lower.value, Plain value)
    (hvalues : ∀ v ∈ values, ∀ value ∈ v.2, DollarsRefer value.toList) :
    lower.over key values = lower.over key others := by
  induction halike generalizing lower with
  | nil => rfl
  | @cons v w values others hvw _ ih =>
    obtain ⟨explicit, value⟩ := v
    obtain ⟨explicit', value'⟩ := w
    obtain ⟨rfl, hvalue⟩ := hvw
    obtain ⟨hrefers, hrest⟩ := List.forall_mem_cons.1 hvalues
    have hlayer : lower.layer key explicit value = lower.layer key explicit value' := by
      cases hvalue with
      | none => rfl
      | some hsame => exact hsame.layer_eq (hrefers _ rfl) hlower explicit
    rw [Folded.over_cons, Folded.over_cons, ← hlayer]
    exact ih (Folded.plain_layer key explicit hlower hrefers) hrest

/-! ### Layers in other spellings -/

theorem rel_refl {α : Type} {R : α → α → Prop} (h : ∀ x, R x x) (a : Option α) :
    Option.Rel R a a := by
  cases a with
  | none => exact .none
  | some x => exact .some (h x)

theorem rel_of_imp {α : Type} {R S : α → α → Prop} {a b : Option α} (h : Option.Rel R a b)
    (himp : ∀ {x y}, R x y → S x y) : Option.Rel S a b := by
  cases h with
  | none => exact .none
  | some hsame => exact .some (himp hsame)

theorem rel_or {α : Type} {R : α → α → Prop} {a b a' b' : Option α} (h : Option.Rel R a b)
    (h' : Option.Rel R a' b') : Option.Rel R (a.or a') (b.or b') := by
  cases h with
  | none => exact h'
  | some hsame => exact .some hsame

/-- Some occurrences of the macro are spelled in the other way. -/
def Respelled (first second : Settings) : Prop :=
  ∀ key, Option.Rel (Relation.ReflTransGen Respells) (first.get? key) (second.get? key)

theorem respelled_refl (settings : Settings) : Respelled settings settings :=
  fun key => rel_refl (fun _ => .refl) (settings.get? key)

theorem Respelled.alike {first second : Settings} (h : Respelled first second) (key : String) :
    Option.Rel Alike (first.get? key) (second.get? key) :=
  rel_of_imp (h key) alike_of_respells

/-- One value is spelled in the other way. -/
theorem respelled_insert {settings : Settings} {first second : String}
    (hget : settings.get? key = some first) (h : Respells first second) :
    Respelled settings (settings.insert key second) := by
  intro other
  rw [Dictionary.get?_insert]
  split
  next hkey =>
    rw [hkey, hget]
    exact .some (.single h)
  next => exact respelled_refl settings other

/-- The first value that is not blank stands at the same place in both lists. -/
theorem alike_find? {values others : List String} (h : List.Forall₂ Alike values others) :
    Option.Rel Alike (values.find? fun v => !Text.isBlankText v)
      (others.find? fun v => !Text.isBlankText v) := by
  induction h with
  | nil => exact .none
  | cons hsame _ ih =>
    rw [List.find?_cons, List.find?_cons, ← hsame.isBlankText_eq]
    split
    next => exact .some hsame
    next => exact ih

theorem alike_head? {values others : List String} (h : List.Forall₂ Alike values others) :
    Option.Rel Alike values.head? others.head? := by
  cases h with
  | nil => exact .none
  | cons hsame _ => exact .some hsame

/-- A list of configurations chooses the same value, but for spellings. -/
theorem alike_chosen? {configurations others : List Settings}
    (h : List.Forall₂ Respelled configurations others) :
    Option.Rel Alike (chosen? configurations key) (chosen? others key) := by
  have hvalues : List.Forall₂ Alike (configurations.filterMap (·.get? key))
      (others.filterMap (·.get? key)) :=
    List.rel_filterMap (fun _ _ hsame => hsame.alike key) h
  exact rel_or (alike_find? hvalues) (alike_head? hvalues)

namespace Layers

variable {layers other : Layers}

/-- Some occurrences of the macro, in whichever layers, are spelled in the other way. -/
structure Respelled (first second : Layers) : Prop where
  request : Setting.Respelled first.request second.request
  target : List.Forall₂ Setting.Respelled first.target second.target
  project : List.Forall₂ Setting.Respelled first.project second.project
  custom : Setting.Respelled first.custom second.custom

/-- Layers that are respelled have values that are alike, from the same layers. -/
theorem Respelled.values (h : layers.Respelled other) (key : String) :
    List.Forall₂ (fun v w => v.1 = w.1 ∧ Option.Rel Alike v.2 w.2)
      (layers.values key) (other.values key) := by
  refine .cons ⟨rfl, ?_⟩ (.cons ⟨rfl, h.custom.alike key⟩ (.cons ⟨rfl, alike_chosen? h.project⟩
    (.cons ⟨rfl, alike_chosen? h.target⟩ (.cons ⟨rfl, h.request.alike key⟩ .nil))))
  exact rel_refl (fun value => (rfl : Alike value value)) (builtinDefault? key)

/-- **The inherit macro**: if each dollar sign in the layers begins a reference, then a value that
they resolve to has the macro in neither spelling, and each dollar sign in it begins a reference.
And it does not matter which of the spellings the layers use where. -/
theorem resolve_of_allRefer (h : layers.AllRefer) (key : String) :
    (∀ value, layers.resolve key = some value →
      Text.contains value inheritMacro = false ∧ Text.contains value inheritMacroBraced = false ∧
        DollarsRefer value.toList) ∧
    ∀ other, layers.Respelled other → other.resolve key = layers.resolve key := by
  refine ⟨fun value hvalue => ?_, fun other hother => ?_⟩
  · obtain ⟨hrefers, hfinal⟩ := plain_of_resolve h hvalue
    obtain ⟨hround, hbraced⟩ := Bool.or_eq_false_iff.1 hfinal
    exact ⟨hround, hbraced, hrefers⟩
  · rw [resolve_eq_over, resolve_eq_over]
    have hstart : ∀ value ∈ Folded.start.value, Plain value := fun _ hnone => by cases hnone
    exact congrArg Folded.value <|
      (over_eq_of_alike (hother.values key) hstart (dollarsRefer_of_mem_values h)).symm

/-- Layers that inherit in both spellings, over a default. -/
def inheritingLayers : Layers where
  request := .ofList [("CFLAGS", "$(inherited)$(X) $\x7binherited\x7d")]
  project := [.ofList [("CFLAGS", " ")], .ofList [("CFLAGS", "$\x7binherited\x7d -a ")]]
  custom := .ofList [("CFLAGS", "-c $(inherited)")]

theorem resolve_of_allRefer_inheriting :
    let spelled := inheritingLayers.request.insert "CFLAGS" "$(inherited)$(X) $(inherited)"
    inheritingLayers.resolve "CFLAGS" = some "-c -a$(X) -c -a" ∧
      hasInherited "-c -a$(X) -c -a" = false ∧
      ({ inheritingLayers with request := spelled } : Layers).resolve "CFLAGS" =
        some "-c -a$(X) -c -a" := by
  intro spelled
  have hresolve : inheritingLayers.resolve "CFLAGS" = some "-c -a$(X) -c -a" := by decide +kernel
  obtain ⟨hvalue, hother⟩ := resolve_of_allRefer (by decide : inheritingLayers.AllRefer) "CFLAGS"
  obtain ⟨hround, hbraced, -⟩ := hvalue _ hresolve
  refine ⟨hresolve, Bool.or_eq_false_iff.2 ⟨hround, hbraced⟩, ?_⟩
  have hspelled : Respells "$(inherited)$(X) $\x7binherited\x7d" "$(inherited)$(X) $(inherited)" :=
    .round "$(inherited)$(X) " ""
  have hrespelled : inheritingLayers.Respelled { inheritingLayers with request := spelled } :=
    { request := respelled_insert rfl hspelled
      target := .nil
      project := List.forall₂_same.2 fun layer _ => respelled_refl layer
      custom := respelled_refl _ }
  rw [hother _ hrespelled, hresolve]

end Layers

end BuildSettings.Setting
