import BuildSettings.Proofs.Setting.Replaced
import BuildSettings.Proofs.Setting.Template

/-!
# References in the names of references

The name of a reference may be put together with other references, as in `$(FLAGS_$(KIND))`. Only a
reference whose name is a word is read as one, so what is found in such a value are its innermost
references, and the others come to light round by round.

`Nested` is the form of such texts, and `Nested.value` is what they stand for when references are
replaced from the inside to the outside. One round is `Nested.step`: it replaces the innermost
references, keeps the value (`value_step`) and takes one level of nesting away (`depth_step`).

* `piecesFrom_spelling_append` — the pieces of a nested text are its innermost references and
  characters, whatever is written behind it.
* `Remains` — what is left open of a setting: a nested text of a certain depth with the value that
  the whole had. An expansion lowers the depth by one (`Remains.expandOnce`), so `n` rounds lower it
  by `n` (`remains_iterate`).
* `expandReferences_innermost` — down to `rounds + 1` levels, a setting becomes the value of its
  text.
-/

namespace BuildSettings.Setting

/-- A text with references, in whose names there may be references again. -/
inductive Nested where
  | nil
  | char (c : Char) (rest : Nested)
  | reference (braced : Bool) (name : Nested) (modifier : Option (List Char)) (rest : Nested)
deriving DecidableEq, Repr

variable {m known : Settings} {key : String} {t : Nested}

/-! ### References with words as names -/

/-- Characters that are no dollar signs are read one by one. -/
theorem piecesFrom_chars {xs : List Char} (h : '$' ∉ xs) (cs : List Char) :
    piecesFrom 0 (xs ++ cs) = xs.map .char ++ piecesFrom 0 cs := by
  induction xs with
  | nil => rfl
  | cons x xs ih =>
    obtain ⟨hx, hxs⟩ := not_or.1 (mt List.mem_cons.2 h)
    rw [List.cons_append, piecesFrom, if_neg (Ne.symm hx), ih hxs]
    rfl

namespace Reference

/-- What stands behind the name of a reference. -/
def ending (braced : Bool) : Option (List Char) → List Char
  | none => [closing braced]
  | some modifier => ':' :: modifier ++ [closing braced]

theorem tail_eq (r : Reference) :
    r.tail = opening r.braced :: (r.name ++ ending r.braced r.modifier) := by
  obtain ⟨braced, name, modifier⟩ := r
  cases modifier <;> simp [tail, inside, ending]

/-- There is no dollar sign behind the name of a valid reference. -/
theorem Valid.dollar_notMem_ending {r : Reference} (h : r.Valid) :
    '$' ∉ ending r.braced r.modifier := by
  have htail := h.dollar_notMem_tail
  rw [tail_eq] at htail
  exact fun hmem => htail (List.mem_cons_of_mem _ (List.mem_append_right _ hmem))

/-- What a reference stands for in the settings; nothing if there is no such setting. -/
def valueIn (m : Settings) (r : Reference) : List Char :=
  (r.apply ((m.get? r.target).getD "")).toList

/-- A dollar sign behind the first characters of a name keeps it from being read, so a reference
with another one in its name is none. -/
theorem ofTail?_of_dollar (braced : Bool) {w : List Char} (hw : ∀ c ∈ w, Text.isWordChar c = true)
    (cs : List Char) : ofTail? (opening braced :: (w ++ '$' :: cs)) = none := by
  have hinside : ofInside? braced (w ++ '$' :: cs) = none := by
    obtain ⟨htake, hdrop⟩ := word_of_append hw (by decide : Text.isWordChar '$' = false) cs
    have hclosing : '$' ≠ closing braced := by cases braced <;> decide
    unfold ofInside?
    simp only [htake, hdrop, if_neg hclosing]
    split <;> rfl
  rw [ofTail?]
  cases braced with
  | false => rwa [if_pos rfl]
  | true => rwa [if_neg (by decide), if_pos rfl]

end Reference

namespace Nested

open Reference

/-! ### Nested texts -/

/-- The text as it is written. -/
def spelling : Nested → List Char
  | nil => []
  | char c rest => c :: rest.spelling
  | reference braced name modifier rest =>
    '$' :: opening braced :: (name.spelling ++ (ending braced modifier ++ rest.spelling))

/-- The same as a value. -/
def text (t : Nested) : String :=
  String.ofList t.spelling

/-- The number of references that stand in each other. -/
def depth : Nested → Nat
  | nil => 0
  | char _ rest => rest.depth
  | reference _ name _ rest => max (name.depth + 1) rest.depth

/-- What the text stands for: the references in a name come first, and then the setting that is
named by what became of them. -/
def value (m : Settings) : Nested → List Char
  | nil => []
  | char c rest => c :: rest.value m
  | reference braced name modifier rest =>
    valueIn m ⟨braced, name.value m, modifier⟩ ++ rest.value m

/-- The characters are no dollar signs. Each name is a word once the references in it are replaced,
and it is the name of a setting other than `key` that has no dollar sign. -/
def Resolves (m : Settings) (key : String) : Nested → Prop
  | nil => True
  | char c rest => c ≠ '$' ∧ rest.Resolves m key
  | reference braced name modifier rest =>
    let r : Reference := ⟨braced, name.value m, modifier⟩
    name.Resolves m key ∧ r.Valid ∧ r.target ≠ key ∧ (∃ v ∈ m.get? r.target, '$' ∉ v.toList) ∧
      rest.Resolves m key

instance decidableResolves (m : Settings) (key : String) : ∀ t, Decidable (Resolves m key t)
  | nil => .isTrue trivial
  | char _ rest =>
    have := decidableResolves m key rest
    inferInstanceAs (Decidable (_ ∧ _))
  | reference _ name _ rest =>
    have := decidableResolves m key name
    have := decidableResolves m key rest
    inferInstanceAs (Decidable (_ ∧ _ ∧ _ ∧ _ ∧ _))

/-- A text without references stands for itself. -/
theorem spelling_of_depth (h : t.depth = 0) : t.spelling = t.value m := by
  induction t with
  | nil => rfl
  | char c rest ih => rw [spelling, value, ih h]
  | reference braced name modifier rest => rw [depth] at h; omega

/-! ### Its pieces -/

/-- The innermost references and the characters around them. -/
def pieces : Nested → List Piece
  | nil => []
  | char c rest => .char c :: rest.pieces
  | reference braced name modifier rest =>
    if name.depth = 0 then .reference ⟨braced, name.spelling, modifier⟩ :: rest.pieces
    else .char '$' :: .char (opening braced) ::
      (name.pieces ++ ((ending braced modifier).map .char ++ rest.pieces))

/-- A name with references begins with a part of a word and a dollar sign. -/
theorem exists_word_dollar (hdepth : t.depth ≠ 0)
    (hword : ∀ c ∈ t.value m, Text.isWordChar c = true) :
    ∃ w cs, t.spelling = w ++ '$' :: cs ∧ ∀ c ∈ w, Text.isWordChar c = true := by
  induction t with
  | nil => exact absurd rfl hdepth
  | char c rest ih =>
    obtain ⟨hc, hrest⟩ := List.forall_mem_cons.1 hword
    obtain ⟨w, cs, hsplit, hw⟩ := ih hdepth hrest
    exact ⟨c :: w, cs, by rw [spelling, hsplit]; rfl, List.forall_mem_cons.2 ⟨hc, hw⟩⟩
  | reference braced name modifier rest =>
    exact ⟨[], _, rfl, fun c hc => absurd hc List.not_mem_nil⟩

/-- A nested text is taken apart into its pieces, whatever stands behind it. By induction on the
text, where a name is a text itself. -/
theorem piecesFrom_spelling_append (h : t.Resolves m key) (cs : List Char) :
    piecesFrom 0 (t.spelling ++ cs) = t.pieces ++ piecesFrom 0 cs := by
  induction t generalizing cs with
  | nil => rfl
  | char c rest ih =>
    obtain ⟨hc, hrest⟩ := h
    rw [spelling, pieces, List.cons_append, piecesFrom, if_neg hc, ih hrest]
    rfl
  | reference braced name modifier rest ihname ih =>
    obtain ⟨hname, hvalid, -, -, hrest⟩ := h
    by_cases hdepth : name.depth = 0
    · -- an innermost reference is read
      rw [← spelling_of_depth hdepth] at hvalid
      have hread := ofTail?_tail hvalid (rest.spelling ++ cs)
      have htail := tail_eq ⟨braced, name.spelling, modifier⟩
      have hspell : (reference braced name modifier rest).spelling ++ cs =
          '$' :: (tail ⟨braced, name.spelling, modifier⟩ ++ (rest.spelling ++ cs)) := by
        rw [htail]
        simp [spelling]
      rw [hspell, piecesFrom, if_pos rfl, hread, pieces, if_pos hdepth]
      exact congrArg (List.cons _) ((piecesFrom_append _ _).trans (ih hrest cs))
    · -- any other is passed over up to the references in its name
      obtain ⟨w, more, hsplit, hw⟩ := exists_word_dollar hdepth hvalid.name_word
      have hspell : (reference braced name modifier rest).spelling ++ cs = '$' :: opening braced ::
          (name.spelling ++ (ending braced modifier ++ (rest.spelling ++ cs))) := by
        simp [spelling]
      have hnone : ofTail? (opening braced ::
          (name.spelling ++ (ending braced modifier ++ (rest.spelling ++ cs)))) = none := by
        rw [hsplit, List.append_assoc, List.cons_append]
        exact ofTail?_of_dollar braced hw _
      have hopening : opening braced ≠ '$' := by cases braced <;> decide
      rw [hspell, piecesFrom, if_pos rfl, hnone, piecesFrom, if_neg hopening, ihname hname,
        piecesFrom_chars hvalid.dollar_notMem_ending, ih hrest, pieces, if_neg hdepth]
      simp

/-- A nested text whose references can be resolved is taken apart into its innermost references and
the characters around them. -/
theorem pieces_text (h : t.Resolves m key) : Setting.pieces t.text = t.pieces := by
  have hread := piecesFrom_spelling_append h []
  rw [List.append_nil] at hread
  rw [Setting.pieces, text, String.toList_ofList, hread]
  exact List.append_nil _

/-- There is an innermost reference if there is one at all, so a text is open as long as it has
levels. -/
theorem exists_reference_iff : (∃ r, .reference r ∈ t.pieces) ↔ t.depth ≠ 0 := by
  induction t with
  | nil => simp [pieces, depth]
  | char c rest ih => simpa [pieces, depth] using ih
  | reference braced name modifier rest ihname ih =>
    refine iff_of_true ?_ (by rw [depth]; omega)
    rw [pieces]
    split
    next => exact ⟨_, List.mem_cons_self ..⟩
    next hdepth =>
      obtain ⟨r, hr⟩ := ihname.2 hdepth
      exact ⟨r, List.mem_cons_of_mem _ (List.mem_cons_of_mem _ (List.mem_append_left _ hr))⟩

/-! ### One round -/

/-- The text with some characters in front. -/
def withChars (cs : List Char) (rest : Nested) : Nested :=
  cs.foldr char rest

/-- The innermost references are replaced. -/
def step (m : Settings) : Nested → Nested
  | nil => nil
  | char c rest => char c (rest.step m)
  | reference braced name modifier rest =>
    if name.depth = 0 then withChars (valueIn m ⟨braced, name.spelling, modifier⟩) (rest.step m)
    else reference braced (name.step m) modifier (rest.step m)

theorem spelling_withChars (cs : List Char) (rest : Nested) :
    (withChars cs rest).spelling = cs ++ rest.spelling := by
  induction cs with
  | nil => rfl
  | cons c cs ih => exact congrArg (List.cons c) ih

theorem value_withChars (cs : List Char) (rest : Nested) :
    (withChars cs rest).value m = cs ++ rest.value m := by
  induction cs with
  | nil => rfl
  | cons c cs ih => exact congrArg (List.cons c) ih

theorem depth_withChars (cs : List Char) (rest : Nested) :
    (withChars cs rest).depth = rest.depth := by
  induction cs with
  | nil => rfl
  | cons c cs ih => exact ih

theorem resolves_withChars {cs : List Char} {rest : Nested} (hcs : '$' ∉ cs)
    (h : rest.Resolves m key) : (withChars cs rest).Resolves m key := by
  induction cs with
  | nil => exact h
  | cons c cs ih =>
    obtain ⟨hc, hrest⟩ := not_or.1 (mt List.mem_cons.2 hcs)
    exact ⟨Ne.symm hc, ih hrest⟩

/-- A round keeps what the text stands for. -/
theorem value_step (m : Settings) (t : Nested) : (t.step m).value m = t.value m := by
  induction t with
  | nil => rfl
  | char c rest ih => rw [step, value, ih, value]
  | reference braced name modifier rest ihname ih =>
    rw [step]
    split
    next hdepth => rw [value_withChars, ih, value, spelling_of_depth hdepth]
    next => rw [value, ihname, ih, value]

/-- A round takes one level of nesting away. -/
theorem depth_step (m : Settings) (t : Nested) : (t.step m).depth = t.depth - 1 := by
  induction t with
  | nil => rfl
  | char c rest ih => exact ih
  | reference braced name modifier rest ihname ih =>
    rw [step]
    split
    next => rw [depth_withChars, ih, depth]; omega
    next => rw [depth, depth, ihname, ih]; omega

/-- One round keeps a text resolvable: the values that are put in have no dollar signs, and a name
whose references are replaced has the value it had before. -/
theorem resolves_step (h : t.Resolves m key) : (t.step m).Resolves m key := by
  induction t with
  | nil => trivial
  | char c rest ih => exact ⟨h.1, ih h.2⟩
  | reference braced name modifier rest ihname ih =>
    obtain ⟨hname, hvalid, hne, ⟨v, hget, hdollar⟩, hrest⟩ := h
    rw [step]
    split
    next hdepth =>
      -- an innermost reference: its value comes in its place
      refine resolves_withChars ?_ (ih hrest)
      rw [valueIn, spelling_of_depth (m := m) hdepth, Option.mem_def.1 hget]
      exact dollar_notMem_apply _ hdollar
    next =>
      -- the name keeps its value, so it is the same setting that is named
      rw [Resolves, value_step]
      exact ⟨ihname hname, hvalid, hne, ⟨v, hget, hdollar⟩, ih hrest⟩

/-- The settings without references are known from the start, so the innermost references of a
text are replaced whatever else is known. -/
theorem flatMap_expand (h : t.Resolves m key) (hknown : (Rounds.start m).1.IsPart known)
    (dropUnknown : Bool) :
    t.pieces.flatMap (·.expand key known dropUnknown) = (t.step m).spelling := by
  have hchars : ∀ xs : List Char,
      (xs.map Piece.char).flatMap (·.expand key known dropUnknown) = xs := by
    intro xs
    rw [List.flatMap_map]
    exact List.flatMap_singleton' xs
  induction t with
  | nil => rfl
  | char c rest ih => exact congrArg (List.cons c) (ih h.2)
  | reference braced name modifier rest ihname ih =>
    obtain ⟨hname, -, hne, ⟨v, hget, hdollar⟩, hrest⟩ := h
    rw [pieces, step]
    split
    next hdepth =>
      rw [← spelling_of_depth hdepth] at hne hget
      -- the value has no dollar sign, so it was settled at the start
      let r : Reference := ⟨braced, name.spelling, modifier⟩
      have hfound : known.get? r.target = some v :=
        hknown _ v (start_settled.2 ⟨hget, closed_of_dollar_notMem hdollar⟩)
      have hfilter : ((known.get? r.target).filter fun _ => r.target != key) = some v := by
        rw [hfound, Option.filter_some, if_pos (bne_iff_ne.2 hne)]
      rw [List.flatMap_cons, ih hrest, spelling_withChars, Piece.expand, expand_eq, hfilter, valueIn,
        Option.mem_def.1 hget]
      rfl
    next hdepth =>
      rw [List.flatMap_cons, List.flatMap_cons, List.flatMap_append, List.flatMap_append, hchars,
        ihname hname, ih hrest, spelling]
      rfl

end Nested

/-! ### What is left open -/

/-- The value is that of a nested text, blanks at its ends apart. The text has this depth and stands
for these characters. -/
def Remains (m : Settings) (key : String) (depth : Nat) (cs : List Char) (value : String) : Prop :=
  ∃ t : Nested, (value = t.text ∨ value = Text.trim t.text) ∧ t.Resolves m key ∧ t.depth = depth ∧
    t.value m = cs

section Remains

variable {value : String} {cs : List Char} {depth n : Nat}

/-- A value is open as long as references are left. -/
theorem Remains.hasReference_iff (h : Remains m key depth cs value) :
    hasReference value = true ↔ depth ≠ 0 := by
  obtain ⟨t, hvalue, hresolves, rfl, -⟩ := h
  rw [Setting.hasReference_iff, ← Nested.exists_reference_iff, ← Nested.pieces_text hresolves]
  rcases hvalue with rfl | rfl
  · exact Iff.rfl
  · rw [pieces_trim]
    exact exists_congr fun r => ⟨mem_of_mem_trimPieces, mem_trimPieces_of_reference⟩

/-- The step lemma: expanding an open value once takes one level of nesting away. Which other
settings are known does not matter, for the innermost names are settled at the start. -/
theorem Remains.expandOnce (h : Remains m key (depth + 1) cs value)
    (hknown : (Rounds.start m).1.IsPart known) (dropUnknown : Bool) :
    Remains m key depth cs (expandOnce key value known dropUnknown) ∧
      Text.trim (expandOnce key value known dropUnknown) =
        expandOnce key value known dropUnknown := by
  have hopen := h.hasReference_iff.2 (Nat.succ_ne_zero depth)
  obtain ⟨t, hvalue, hresolves, hdepth, rfl⟩ := h
  have hpieces : Text.trimChars ((pieces value).flatMap (·.expand key known dropUnknown)) =
      Text.trimChars (t.pieces.flatMap (·.expand key known dropUnknown)) := by
    -- blanks at the ends of the value do not matter, since expanding trims
    rw [← Nested.pieces_text hresolves]
    rcases hvalue with rfl | rfl
    · rfl
    · rw [pieces_trim]
      exact trimChars_flatMap_trimPieces (fun _ => rfl) _
  have hexpand : Setting.expandOnce key value known dropUnknown = Text.trim (t.step m).text := by
    rw [Setting.expandOnce, if_pos hopen, hpieces, Nested.flatMap_expand hresolves hknown,
      Text.trim, Nested.text, String.toList_ofList]
  refine ⟨⟨t.step m, .inr hexpand, Nested.resolves_step hresolves, ?_, t.value_step m⟩, ?_⟩
  · rw [Nested.depth_step, hdepth, Nat.add_sub_cancel]
  · rw [hexpand, Text.trim, Text.toList_trim, Text.trimChars_trimChars]
    rfl

/-- Without references a trimmed value is what the text stands for. -/
theorem Remains.eq_of_closed (h : Remains m key 0 cs value) (htrim : Text.trim value = value) :
    value = Text.trim (String.ofList cs) := by
  obtain ⟨t, hvalue, -, hdepth, rfl⟩ := h
  have htext : t.text = String.ofList (t.value m) := by
    rw [Nested.text, Nested.spelling_of_depth hdepth]
  rcases hvalue with rfl | rfl
  · rw [← htrim, htext]
  · rw [htext]

/-- One round expands an open setting once, and settles it if no reference is left; the number of
levels tells which of the two. -/
theorem remains_sweep {state : Rounds} (hordered : state.Ordered)
    (hplain : (Rounds.start m).1.IsPart state.1) (hmem : (key, value) ∈ state.2)
    (h : Remains m key (depth + 1) cs value) :
    (depth ≠ 0 → ∃ w, (key, w) ∈ state.step.2 ∧ Remains m key depth cs w) ∧
    (depth = 0 → state.step.1.get? key = some (Text.trim (String.ofList cs))) := by
  obtain ⟨known, hbefore, -, hcases⟩ := sweep_cases hordered hmem
  obtain ⟨hremains, htrim⟩ := h.expandOnce (hplain.trans hbefore) false
  rcases hcases with ⟨hopen, hleft⟩ | ⟨hclosed, hsettled⟩
  · exact ⟨fun _ => ⟨_, hleft, hremains⟩, fun hzero =>
      absurd hzero (hremains.hasReference_iff.1 hopen)⟩
  · have hzero : depth = 0 := by
      by_contra hne
      rw [hremains.hasReference_iff.2 hne] at hclosed
      cases hclosed
    subst hzero
    refine ⟨fun hne => absurd rfl hne, fun _ => ?_⟩
    rw [← hremains.eq_of_closed htrim]
    exact hsettled

/-- The run lemma: after `n` rounds a setting has `n` levels less, or it is settled with its value.
-/
theorem remains_iterate (hget : m.get? key = some value) (h : Remains m key depth cs value)
    (hdepth : depth ≠ 0) (n : Nat) :
    let state := Rounds.step^[n] (Rounds.start m)
    (n < depth → ∃ w, (key, w) ∈ state.2 ∧ Remains m key (depth - n) cs w) ∧
    (depth ≤ n → state.1.get? key = some (Text.trim (String.ofList cs))) := by
  induction n with
  | zero =>
    have hopen := start_pending.2 ⟨hget, h.hasReference_iff.2 hdepth⟩
    exact ⟨fun _ => ⟨value, hopen, h⟩, fun hle => absurd (Nat.le_zero.1 hle) hdepth⟩
  | succ n ih =>
    obtain ⟨hleft, hsettled⟩ := ih
    have hordered := iterate_step_ordered (start_ordered m) n
    rw [Function.iterate_succ_apply']
    rcases Nat.lt_or_ge n depth with hlt | hge
    · obtain ⟨w, hw, hremains⟩ := hleft hlt
      have hlevels : depth - n = depth - (n + 1) + 1 := by omega
      rw [hlevels] at hremains
      obtain ⟨hopen, hclosed⟩ :=
        remains_sweep hordered (isPart_iterate_step (start_ordered m) n) hw hremains
      exact ⟨fun hlt => hopen (by omega), fun hle => hclosed (by omega)⟩
    · -- settled before this round, so it stays
      exact ⟨fun hlt => by omega, fun _ => isPart_sweep hordered key _ (hsettled hge)⟩

end Remains

/-- **References in names come first.** A setting whose text is nested, at most `rounds + 1` levels
deep, is expanded to what its text stands for when references are replaced from the inside to the
outside, without the blanks at the ends. Each name that comes out has to be a word and the name of
another setting without dollar signs; the other settings do not matter. A text without references
stays as it is, with its blanks. -/
theorem expandReferences_innermost (m : Settings) (key : String) (t : Nested)
    (hget : m.get? key = some t.text) (hresolves : t.Resolves m key)
    (hdepth : t.depth ≤ rounds + 1) :
    (expandReferences m).get? key =
      some (if t.depth = 0 then t.text else Text.trim (String.ofList (t.value m))) := by
  have hremains : Remains m key t.depth (t.value m) t.text := ⟨t, .inl rfl, hresolves, rfl, rfl⟩
  by_cases hzero : t.depth = 0
  · rw [if_pos hzero]
    refine get?_expandReferences_of_closed hget (Bool.eq_false_iff.2 fun hopen => ?_)
    exact hremains.hasReference_iff.1 hopen hzero
  · rw [if_neg hzero]
    obtain ⟨hleft, hsettled⟩ := remains_iterate hget hremains hzero rounds
    rcases Nat.lt_or_ge rounds t.depth with hlt | hge
    · -- the last level is left to the last pass
      obtain ⟨w, hw, hlast⟩ := hleft hlt
      have hone : t.depth - rounds = 0 + 1 := by omega
      rw [hone] at hlast
      obtain ⟨known, hbefore, -, hkey, -⟩ := last_open hw
      have hplain := (isPart_iterate_step (start_ordered m) rounds).trans hbefore
      obtain ⟨hclosed, htrim⟩ := hlast.expandOnce hplain true
      rw [hkey, hclosed.eq_of_closed htrim]
    · exact last_isPart m key _ (hsettled hge)

/-- References in the names of references, as many levels as given. -/
def Nested.tower : Nat → Nested
  | 0 => .char '1' .nil
  | n + 1 => .reference false (.char 'F' (tower n)) none .nil

/-- A text with a tower of `rounds + 1` levels beside a reference of two. -/
def Nested.towers : Nested :=
  .char ' ' (.reference false (.char 'F' (tower rounds)) none (.char '/' (.reference true
    (withChars "N_".toList (.reference false (withChars "KIND".toList .nil) none .nil))
    (some "upper".toList) (.char ' ' .nil))))

/-- The settings of the towers, a cycle and an unknown name in a name. -/
def towerSettings : Settings :=
  .ofList [("TOP", Nested.towers.text), ("F1", "1"), ("KIND", "app"), ("N_app", " b "),
    ("BACK", "$(LOOP)"), ("LOOP", "$(BACK)"), ("LOST", "$(F$(NOWHERE))")]

theorem expandReferences_innermost_towers :
    let t := Nested.towers
    t.text = " $(F$(F$(F$(F$(F$(F$(F$(F$(F$(F$(F1)))))))))))/$\x7bN_$(KIND):upper\x7d " ∧
    towerSettings.get? "TOP" = some t.text ∧ t.Resolves towerSettings "TOP" ∧
    t.depth ≤ rounds + 1 ∧ (expandReferences towerSettings).get? "TOP" = some "1/ B" := by
  intro t
  have hget : towerSettings.get? "TOP" = some t.text := by decide +kernel
  have hresolves : t.Resolves towerSettings "TOP" := by decide +kernel
  have hdepth : t.depth ≤ rounds + 1 := by decide +kernel
  refine ⟨by decide +kernel, hget, hresolves, hdepth, ?_⟩
  rw [expandReferences_innermost towerSettings "TOP" t hget hresolves hdepth]
  decide +kernel

/-- Blanks at the ends are lost only where a reference is replaced. -/
theorem expandReferences_blank_ends :
    let t := Nested.withChars " x ".toList .nil
    let m : Settings := .ofList [("TOP", " x ")]
    m.get? "TOP" = some t.text ∧ t.Resolves m "TOP" ∧ t.depth ≤ rounds + 1 ∧
      (expandReferences m).get? "TOP" ≠ some (Text.trim (String.ofList (t.value m))) := by
  decide +kernel

end BuildSettings.Setting
