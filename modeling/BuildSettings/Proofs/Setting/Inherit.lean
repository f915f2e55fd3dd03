import BuildSettings.Proofs.Setting.Reset

/-!
# The inherit macro

A value may take in what was folded below it by the inherit macro, which has two spellings. They are
replaced one after the other, so what is put in for the first is looked through for the second.
That does no harm where each dollar sign begins a reference and the value below has no macro left
(`Plain`): the macro is then one of the references of the value, and putting in is done piece by
piece (`pieces_substituteInherited`).

That the value below is plain is no assumption. It is what folding keeps, since values that are put
in, joined or taken as they are have no pieces but those of plain values and blanks.

* `plain_substituteInherited`, `plain_joinAdditive`, `Folded.plain_layer` — the steps.
* `Layers.plain_of_resolve` — so each value that layers resolve to is plain.
-/

namespace BuildSettings.Setting

variable {value parent key : String}

/-! ### Values that take in others -/

/-- A value without the macro in which each dollar sign begins a reference. -/
structure Plain (value : String) : Prop where
  refers : DollarsRefer value.toList
  final : hasInherited value = false

/-- Plain on pieces: each of them is clean and none is the inherit macro. -/
theorem plain_iff : Plain value ↔ ∀ p ∈ pieces value, p.Clean ∧ p.isInherit = false := by
  have hfinal : hasInherited value = false ↔ ∀ p ∈ pieces value, p.isInherit = false := by
    simp [hasInherited_eq]
  constructor
  · rintro ⟨hrefers, hplain⟩ p hp
    exact ⟨dollarsRefer_iff.1 hrefers p hp, hfinal.1 hplain p hp⟩
  · intro h
    exact ⟨dollarsRefer_iff.2 fun p hp => (h p hp).1, hfinal.2 fun p hp => (h p hp).2⟩

theorem plain_empty : Plain "" := plain_iff.2 nofun

/-- The pieces of a parent for the macro. -/
def fillInherit (parent ps : List Piece) : List Piece :=
  ps.flatMap fun p => if p.isInherit then parent else [p]

/-- A piece after the filling comes from the parent, or it was there and is not the macro. -/
theorem mem_fillInherit {parent ps : List Piece} {p : Piece} (h : p ∈ fillInherit parent ps) :
    p ∈ parent ∨ p ∈ ps ∧ p.isInherit = false := by
  obtain ⟨q, hq, hp⟩ := List.mem_flatMap.1 h
  split at hp
  next => exact .inl hp
  next hplain =>
    obtain rfl := List.mem_singleton.1 hp
    exact .inr ⟨hq, Bool.eq_false_iff.2 hplain⟩

/-- One spelling is replaced after the other, but what was put in for the first holds no macro that
could be replaced with the second. -/
theorem putPieces_putPieces {parent : List Piece} (h : ∀ p ∈ parent, p.isInherit = false)
    (ps : List Piece) :
    putPieces (inheritReference true) parent (putPieces (inheritReference false) parent ps) =
      fillInherit parent ps := by
  rw [fillInherit, putPieces, putPieces, List.flatMap_assoc]
  refine List.flatMap_congr fun p _ => ?_
  by_cases hround : p = .reference (inheritReference false)
  · rw [if_pos hround, if_pos (Piece.isInherit_iff.2 ⟨false, hround⟩)]
    refine putPieces_of_notMem fun hmem => ?_
    exact absurd (h _ hmem) (by decide)
  · rw [if_neg hround, List.flatMap_singleton]
    by_cases hbraced : p = .reference (inheritReference true)
    · rw [if_pos hbraced, if_pos (Piece.isInherit_iff.2 ⟨true, hbraced⟩)]
    · have hplain : ¬ p.isInherit = true := by
        simpa [Piece.isInherit] using not_or.2 ⟨hround, hbraced⟩
      rw [if_neg hbraced, if_neg hplain]

/-- Filling the inherit macro in a text is filling it among the pieces, then trimming. The parent
has to be plain; a macro in it would be filled in turn by the second of the two replacements. -/
theorem pieces_substituteInherited (hvalue : DollarsRefer value.toList) (hparent : Plain parent) :
    pieces (substituteInherited value parent) =
      trimPieces (fillInherit (pieces parent) (pieces value)) := by
  have hfirst := pieces_replaceAll (valid_inheritReference false) toList_inheritMacro
    hparent.refers hvalue
  have hdollars : DollarsRefer (Text.replaceAll inheritMacro parent value).toList := by
    rw [dollarsRefer_iff, hfirst]
    exact clean_putPieces (dollarsRefer_iff.1 hparent.refers) (dollarsRefer_iff.1 hvalue)
  rw [substituteInherited, pieces_trim, pieces_replaceAll (valid_inheritReference true)
    toList_inheritMacroBraced hparent.refers hdollars, hfirst,
    putPieces_putPieces fun p hp => (plain_iff.1 hparent p hp).2]

/-- The filled value is plain, since the parent brings no macro in and the value keeps none. -/
theorem plain_substituteInherited (hvalue : DollarsRefer value.toList) (hparent : Plain parent) :
    Plain (substituteInherited value parent) := by
  rw [plain_iff, pieces_substituteInherited hvalue hparent]
  intro p hp
  rcases mem_fillInherit (mem_of_mem_trimPieces hp) with hp | ⟨hp, hplain⟩
  · exact plain_iff.1 hparent p hp
  · exact ⟨dollarsRefer_iff.1 hvalue p hp, hplain⟩

/-! ### Joined values -/

/-- A blank splits the pieces whatever stands around it. -/
theorem pieces_join (lower upper : String) :
    pieces (lower ++ " " ++ upper) = pieces lower ++ .char ' ' :: pieces upper := by
  have htext : (lower ++ " " ++ upper).toList = lower.toList ++ ' ' :: upper.toList := by simp
  rw [pieces, htext, piecesFrom_append_break (by decide) (Nat.zero_le _)]
  rfl

/-- Joining two values brings in no piece but the blank between them. -/
theorem mem_pieces_joinAdditive {lower upper joined : String} {p : Piece}
    (h : joinAdditive key lower upper = some joined) (hp : p ∈ pieces joined) :
    p ∈ pieces lower ∨ p ∈ pieces upper ∨ p = .char ' ' := by
  have htrim : ∀ {value : String}, p ∈ pieces (Text.trim value) → p ∈ pieces value := by
    intro value hmem
    rw [pieces_trim] at hmem
    exact mem_of_mem_trimPieces hmem
  unfold joinAdditive at h
  simp only at h
  split at h
  next => cases h
  next =>
    split at h
    next => cases h
    next =>
      split at h
      next =>
        obtain rfl := Option.some.inj h
        exact .inl (htrim hp)
      next =>
        obtain rfl := Option.some.inj h
        rw [pieces_join] at hp
        rcases List.mem_append.1 hp with hp | hp
        · exact .inl (htrim hp)
        · rcases List.mem_cons.1 hp with rfl | hp
          · exact .inr (.inr rfl)
          · exact .inr (.inl (htrim hp))

/-- Two plain values are joined to a plain one: the blank between them lets no reference come up
that runs from one into the other. -/
theorem plain_joinAdditive {lower upper joined : String} (hlower : Plain lower)
    (hupper : Plain upper) (h : joinAdditive key lower upper = some joined) : Plain joined := by
  refine plain_iff.2 fun p hp => ?_
  rcases mem_pieces_joinAdditive h hp with hp | hp | rfl
  · exact plain_iff.1 hlower p hp
  · exact plain_iff.1 hupper p hp
  · decide

/-! ### Folding -/

/-- Where nothing lies below the macro is dropped. -/
theorem Folded.plain_getD {lower : Folded} (hlower : ∀ value ∈ lower.value, Plain value) :
    Plain (lower.value.getD "") := by
  cases hvalue : lower.value with
  | none => exact plain_empty
  | some parent => exact hlower parent hvalue

/-- The step lemma: one more layer leaves a plain value plain, as long as each dollar sign of its
own value begins a reference. -/
theorem Folded.plain_layer (key : String) {lower : Folded} (explicit : Bool)
    (hlower : ∀ value ∈ lower.value, Plain value) {upper : Option String}
    (hupper : ∀ value ∈ upper, DollarsRefer value.toList) :
    ∀ value ∈ (lower.layer key explicit upper).value, Plain value := by
  cases upper with
  | none => exact hlower
  | some value =>
    have hrefers := hupper value rfl
    rcases layer_cases key lower explicit value with
      ⟨-, heq⟩ | ⟨hplain, parent, joined, -, -, hparent, hjoin, heq⟩ | ⟨hplain, heq, -⟩
    · rw [heq]
      refine fun w hw => Option.mem_some_iff.1 hw ▸ ?_
      exact plain_substituteInherited hrefers (plain_getD hlower)
    · rw [heq]
      refine fun w hw => Option.mem_some_iff.1 hw ▸ ?_
      exact plain_joinAdditive (hlower parent hparent) ⟨hrefers, hplain⟩ hjoin
    · rw [heq]
      refine fun w hw => Option.mem_some_iff.1 hw ▸ ?_
      exact ⟨hrefers, hplain⟩

/-- The run lemma of the fold: with a plain value at the start, or none, and layers whose dollar
signs all begin references, the value is plain whatever the number of layers. -/
theorem Folded.plain_over {lower : Folded} {values : List (Bool × Option String)}
    (hlower : ∀ value ∈ lower.value, Plain value)
    (hvalues : ∀ v ∈ values, ∀ value ∈ v.2, DollarsRefer value.toList) :
    ∀ value ∈ (lower.over key values).value, Plain value := by
  induction values generalizing lower with
  | nil => exact hlower
  | cons v values ih =>
    obtain ⟨hv, hrest⟩ := List.forall_mem_cons.1 hvalues
    rw [over_cons]
    exact ih (plain_layer key v.1 hlower hv) hrest

/-- Each dollar sign of a value begins a reference. -/
def AllRefer (settings : Settings) : Prop :=
  ∀ entry ∈ settings.entries, DollarsRefer entry.2.toList

instance (settings : Settings) : Decidable (AllRefer settings) :=
  inferInstanceAs (Decidable (∀ entry ∈ settings.entries, _))

theorem AllRefer.of_get? {settings : Settings} (h : AllRefer settings)
    (hget : settings.get? key = some value) : DollarsRefer value.toList :=
  h (key, value) (Dictionary.get?_eq_some_iff.1 hget)

theorem dollarsRefer_builtinDefaults : ∀ entry ∈ builtinDefaults, DollarsRefer entry.2.toList := by
  decide

namespace Layers

variable {layers other : Layers}

/-- In each layer each dollar sign begins a reference. -/
def AllRefer (layers : Layers) : Prop :=
  ∀ layer ∈ layers.request :: layers.custom :: (layers.target ++ layers.project),
    Setting.AllRefer layer

instance (layers : Layers) : Decidable layers.AllRefer :=
  inferInstanceAs (Decidable (∀ layer ∈ layers.request :: _, _))

/-- What a layer gives for a setting is one of its values, so its dollar signs begin references. -/
theorem dollarsRefer_of_mem_values (h : layers.AllRefer) :
    ∀ v ∈ layers.values key, ∀ value ∈ v.2, DollarsRefer value.toList := by
  have hchosen : ∀ configurations : List Settings,
      (∀ layer ∈ configurations, Setting.AllRefer layer) →
      ∀ value ∈ chosen? configurations key, DollarsRefer value.toList := by
    intro configurations hrefers value hvalue
    obtain ⟨configuration, hmem, hget⟩ := exists_mem_of_chosen? hvalue
    exact (hrefers configuration hmem).of_get? hget
  simp only [values, List.forall_mem_cons, List.not_mem_nil, false_implies, implies_true, and_true]
  refine ⟨fun value hvalue => ?_, fun value hvalue => ?_, hchosen _ fun layer hlayer => ?_,
    hchosen _ fun layer hlayer => ?_, fun value hvalue => ?_⟩
  · obtain ⟨l₁, l₂, hsplit, -⟩ := List.lookup_eq_some_iff.1 hvalue
    exact dollarsRefer_builtinDefaults (key, value) (by rw [hsplit]; simp)
  · exact (h layers.custom (by simp)).of_get? hvalue
  · exact h layer (by simp [hlayer])
  · exact h layer (by simp [hlayer])
  · exact (h layers.request (by simp)).of_get? hvalue

/-- The value over all layers is plain: no macro is left in it, and each dollar sign begins a
reference. -/
theorem plain_of_resolve (h : layers.AllRefer) (hvalue : layers.resolve key = some value) :
    Plain value :=
  Folded.plain_over (fun _ hnone => by cases hnone) (dollarsRefer_of_mem_values h) value hvalue

end Layers

end BuildSettings.Setting
