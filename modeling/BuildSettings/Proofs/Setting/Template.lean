import BuildSettings.Proofs.Setting.Course

/-!
# Templates

A template is a value whose dollar signs all begin references, and whose references are kept apart
by breaks, characters that stand in no reference. Whatever is put in for some of its references, no
new one can arise where the text of a setting meets what stands around it, even if that text has
dollar signs. So the order in which the references of a template are replaced does not show:

* `expandOnce_expandOnce` — a template that is expanded twice is expanded once, with what was known
  the second time.
* `Template.course` — in every round the value of the setting is as good as the template itself.
* `expandReferences_template` — in the end it is the template filled in with the final values, if
  each setting that it names is settled by the rounds or comes before it.
-/

namespace BuildSettings.Setting

variable {m known known' : Settings} {key value : String} {ps : List Piece}

/-! ### References kept apart -/

/-- The piece is a character that stands in no reference. -/
def Piece.IsBreak : Piece → Prop
  | .char c => Reference.IsBreak c
  | .reference _ => False

instance : DecidablePred Piece.IsBreak
  | .char c => inferInstanceAs (Decidable (Reference.IsBreak c))
  | .reference _ => inferInstanceAs (Decidable False)

/-- Behind each reference stands a break, or nothing. -/
def Spaced : List Piece → Prop
  | [] => True
  | .char _ :: ps => Spaced ps
  | .reference _ :: ps => (∀ p ∈ ps.head?, p.IsBreak) ∧ Spaced ps

instance decidableSpaced : ∀ ps, Decidable (Spaced ps)
  | [] => .isTrue trivial
  | .char _ :: ps => decidableSpaced ps
  | .reference _ :: ps =>
    have := decidableSpaced ps
    inferInstanceAs (Decidable ((∀ p ∈ ps.head?, p.IsBreak) ∧ Spaced ps))

/-- The pieces of a value without references are its characters, dollar signs included. -/
theorem pieces_of_closed (hclosed : hasReference value = false) :
    pieces value = value.toList.map .char := by
  -- pieces that are characters are told by their spelling
  have hpieces : ∀ ps : List Piece, (∀ p ∈ ps, ∃ c, p = .char c) →
      ps = (ps.flatMap Piece.spelling).map .char := by
    intro ps hchars
    induction ps with
    | nil => rfl
    | cons p ps ih =>
      obtain ⟨c, rfl⟩ := hchars p (List.mem_cons_self ..)
      have hrest := ih fun q hq => hchars q (List.mem_cons_of_mem _ hq)
      rw [List.flatMap_cons, List.map_append, ← hrest]
      rfl
  have hspell := hpieces (pieces value) fun p hp => exists_char_of_closed hclosed hp
  rwa [spell_pieces] at hspell

/-- A text without references before a break, or at the end, is read back beside what follows. -/
theorem readBack_text (hclosed : hasReference value = false) (hread : ReadBack ps)
    (hbreak : ∀ p ∈ ps.head?, p.IsBreak) : ReadBack (value.toList.map .char ++ ps) := by
  have htext : ReadBack (value.toList.map .char) := by
    rw [ReadBack, flatMap_spelling_char]
    exact pieces_of_closed hclosed
  cases ps with
  | nil => rwa [List.append_nil]
  | cons p ps =>
    cases p with
    | char c => exact (readBack_append_break (hbreak _ rfl) hread).2 htext
    | reference r => exact (hbreak _ rfl).elim

/-- Breaks stay where they are when references are replaced. -/
theorem head?_settle (hbreak : ∀ p ∈ ps.head?, p.IsBreak) :
    ∀ p ∈ (ps.flatMap (Piece.settle key known)).head?, p.IsBreak := by
  cases ps with
  | nil => exact hbreak
  | cons p ps =>
    cases p with
    | char c => exact hbreak
    | reference r => exact (hbreak _ rfl).elim

/-- Putting texts without references in for spaced references makes no new reference: a text meets a
break behind it, and no reference runs across one. -/
theorem readBack_settle (hclean : ∀ p ∈ ps, p.Clean) (hspaced : Spaced ps)
    (hknown : ∀ r, .reference r ∈ ps → ∀ w, known.get? r.target = some w →
      hasReference (r.apply w) = false) :
    ReadBack (ps.flatMap (Piece.settle key known)) := by
  induction ps with
  | nil => rfl
  | cons p ps ih =>
    have hread := fun hps => ih (fun q hq => hclean q (List.mem_cons_of_mem _ hq)) hps
      fun r hr => hknown r (List.mem_cons_of_mem _ hr)
    have hp := hclean p (List.mem_cons_self ..)
    cases p with
    | char c => exact (readBack_cons_char hp).2 (hread hspaced)
    | reference r =>
      obtain ⟨hbreak, hps⟩ := hspaced
      rw [List.flatMap_cons, Piece.settle_reference]
      split
      next w hw =>
        have hget := (Option.filter_eq_some_iff.1 hw).1
        have hclosed := hknown r (List.mem_cons_self ..) w hget
        -- the break behind the reference keeps the text that is put in apart from the rest
        exact readBack_text hclosed (hread hps) (head?_settle hbreak)
      next => exact (hread hps).cons_reference hp

/-! ### Templates -/

/-- The reference takes a value as it is or makes an identifier of it. With other modifiers a text
without references may become one, as `$(K)` does with a Kelvin sign between the brackets when it
is made small. -/
def Reference.IsTame (r : Reference) : Prop :=
  ∀ m ∈ r.modifier, String.ofList m ∈ ["c99extidentifier", "identifier", "rfc1034identifier"]

/-- A tame reference makes no reference out of a text without any. -/
theorem Reference.IsTame.closed {r : Reference} (h : r.IsTame) {w : String}
    (hw : hasReference w = false) : hasReference (r.apply w) = false := by
  unfold Reference.apply
  split
  next => exact hw
  next m hm =>
    refine closed_of_dollar_notMem ?_
    have hmodifier := h m hm
    simp only [List.mem_cons, List.not_mem_nil, or_false] at hmodifier
    rcases hmodifier with hc99 | hc99 | hrfc
    · simpa [modify, hc99] using Text.dollar_notMem_c99Identifier w
    · simpa [modify, hc99] using Text.dollar_notMem_c99Identifier w
    · simpa [modify, hrfc] using Text.dollar_notMem_rfc1034Identifier w

/-- The same for a piece. -/
def Piece.IsTame : Piece → Prop
  | .char _ => True
  | .reference r => r.IsTame

instance : DecidablePred Piece.IsTame
  | .char _ => .isTrue trivial
  | .reference r => inferInstanceAs (Decidable (∀ m ∈ r.modifier, String.ofList m ∈ _))

/-- A value with spaced references that make no reference out of a text without any. -/
structure Template (value : String) : Prop where
  opened : hasReference value = true
  dollars : DollarsRefer value.toList
  spaced : Spaced (pieces value)
  tame : ∀ p ∈ pieces value, p.IsTame

instance (value : String) : Decidable (Template value) :=
  decidable_of_iff (hasReference value = true ∧ DollarsRefer value.toList ∧ Spaced (pieces value) ∧
      ∀ p ∈ pieces value, p.IsTame)
    ⟨fun ⟨hopened, hdollars, hspaced, htame⟩ => ⟨hopened, hdollars, hspaced, htame⟩,
      fun h => ⟨h.opened, h.dollars, h.spaced, h.tame⟩⟩

/-- A template from its pieces, which is how the derived settings are seen to be templates. -/
theorem Template.of_pieces (hpieces : pieces value = ps)
    (hopened : ps.any Piece.isReference = true) (hclean : ∀ p ∈ ps, p.Clean)
    (hspaced : Spaced ps) (htame : ∀ p ∈ ps, p.IsTame) : Template value := by
  subst hpieces
  exact ⟨hopened, dollarsRefer_iff.2 hclean, hspaced, htame⟩

/-- The known values have no references. -/
def KnownClosed (known : Settings) : Prop :=
  Known (fun _ value => hasReference value = false) known

/-- Knowing less keeps the known values without references. -/
theorem KnownClosed.of_isPart (h : KnownClosed known') (hpart : known.IsPart known') :
    KnownClosed known :=
  fun a w hw => h a w (hpart a w hw)

/-- What a template becomes when some references are settled is read back as it was settled: the
breaks keep the texts that were put in from making references with what stands around them. -/
theorem Template.readBack (h : Template value) (hknown : KnownClosed known) :
    ReadBack ((pieces value).flatMap (Piece.settle key known)) :=
  readBack_settle (dollarsRefer_iff.1 h.dollars) h.spaced
    fun r hr w hw => Reference.IsTame.closed (h.tame _ hr) (hknown r.target w hw)

/-- The step lemma: expanding a template once more is expanding it with what is known by then. What
was known the first time is known the second time with the same values. -/
theorem expandOnce_expandOnce {dropUnknown : Bool} (h : Template value)
    (hknown : KnownClosed known) (hpart : known.IsPart known')
    (hleft : hasReference (expandOnce key value known false) = true) :
    expandOnce key (expandOnce key value known false) known' dropUnknown =
      expandOnce key value known' dropUnknown := by
  have hsettle : ∀ p ∈ pieces value,
      (p.settle key known).flatMap (·.expand key known' dropUnknown) =
        p.expand key known' dropUnknown := by
    intro p _
    cases p with
    | char c => rfl
    | reference r =>
      rw [Piece.settle_reference]
      split
      next w hw =>
        obtain ⟨hget, hne⟩ := Option.filter_eq_some_iff.1 hw
        have hfound : ((known'.get? r.target).filter fun _ => r.target != key) = some w :=
          Option.filter_eq_some_iff.2 ⟨hpart _ w hget, hne⟩
        rw [Piece.expand, Reference.expand_eq, hfound, List.flatMap_map]
        simp [Piece.expand]
      next => simp
  rw [expandOnce.eq_1 key (expandOnce key value known false), if_pos hleft,
    pieces_expandOnce_of_readBack h.opened (h.readBack hknown),
    trimChars_flatMap_trimPieces fun _ => rfl, List.flatMap_assoc, List.flatMap_congr hsettle,
    expandOnce, if_pos h.opened]

/-- A reference is never trimmed. -/
theorem mem_trimPieces_of_reference {r : Reference} (h : .reference r ∈ ps) :
    .reference r ∈ trimPieces ps := by
  obtain ⟨front, back, hsplit, hfront, hback⟩ := exists_blanks_trimPieces ps
  rw [hsplit] at h
  rcases List.mem_append.1 h with hmem | hmem
  · rcases List.mem_append.1 hmem with hmem | hmem
    · cases hfront _ hmem
    · exact hmem
  · cases hback _ hmem

/-- Where a template has no reference left, all settings that it names were known, and its own name
was not among them. -/
theorem Template.known_of_closed (h : Template value) (hknown : KnownClosed known)
    (hclosed : hasReference (expandOnce key value known false) = false) :
    ∀ a ∈ names value, known.contains a = true ∧ a ≠ key := by
  intro a ha
  obtain ⟨r, hr, rfl⟩ := mem_names.1 ha
  cases hfound : (known.get? r.target).filter fun _ => r.target != key with
  | some w =>
    obtain ⟨hget, hne⟩ := Option.filter_eq_some_iff.1 hfound
    exact ⟨Dictionary.contains_iff.2 ⟨w, hget⟩, by simpa using hne⟩
  | none =>
    -- a reference to an unknown setting would be left
    have hleft : .reference r ∈ (pieces value).flatMap (Piece.settle key known) := by
      refine List.mem_flatMap.2 ⟨.reference r, hr, ?_⟩
      rw [Piece.settle_reference, hfound]
      exact List.mem_singleton_self _
    have hopen : hasReference (expandOnce key value known false) = true := by
      rw [hasReference_iff, pieces_expandOnce_of_readBack h.opened (h.readBack hknown)]
      exact ⟨r, mem_trimPieces_of_reference hleft⟩
    rw [hclosed] at hopen
    cases hopen

/-- After any number of rounds the setting is open, and its value is as good as the template for
all that is known from then on; or it was settled with the template filled in. -/
theorem Template.course (h : Template value) (hget : m.get? key = some value) (n : Nat) :
    (∃ rest, (key, rest) ∈ (Rounds.step^[n] (Rounds.start m)).2 ∧
      ∀ known dropUnknown, (Rounds.step^[n] (Rounds.start m)).1.IsPart known →
        expandOnce key rest known dropUnknown = expandOnce key value known dropUnknown) ∨
    ∃ known, known.IsPart (Rounds.step^[n] (Rounds.start m)).1 ∧
      hasReference (expandOnce key value known false) = false ∧
      (Rounds.step^[n] (Rounds.start m)).1.get? key = some (expandOnce key value known false) := by
  induction n with
  | zero => exact .inl ⟨value, start_pending.2 ⟨hget, h.opened⟩, fun _ _ _ => rfl⟩
  | succ n ih =>
    have hordered := iterate_step_ordered (start_ordered m) n
    have hclosed := (iterate_hasReference m (n + 1)).settled
    rw [Function.iterate_succ_apply'] at hclosed ⊢
    rcases ih with ⟨rest, hmem, hrest⟩ | ⟨known, hpart, hdone, hsettled⟩
    · -- the round expands the open value, which is as good as expanding the template
      obtain ⟨known, hbefore, hafter, hcases⟩ := sweep_cases hordered hmem
      rw [hrest known false hbefore] at hcases
      rcases hcases with ⟨hleft, hkept⟩ | ⟨hdone, hsettled⟩
      · refine .inl ⟨_, hkept, fun later dropUnknown hlater => ?_⟩
        have hknown : KnownClosed known := KnownClosed.of_isPart hclosed hafter
        exact expandOnce_expandOnce h hknown (hafter.trans hlater) hleft
      · exact .inr ⟨known, hafter, hdone, hsettled⟩
    · have hkeep := isPart_sweep hordered
      exact .inr ⟨known, hpart.trans hkeep, hdone, hkeep key _ hsettled⟩

/-- The value of a setting, empty where there is none. -/
def valueOf (m : Settings) (a : String) : String :=
  (m.get? a).getD ""

/-- A template is filled in with the final values of the settings that it names, if each of them
is settled by the rounds or has a smaller name. -/
theorem expandReferences_template (h : Template value) (hget : m.get? key = some value)
    (hself : key ∉ names value)
    (hnames : ∀ a ∈ names value,
      (Rounds.last m).1.contains a = true ∨ m.contains a = true ∧ a < key) :
    (expandReferences m).get? key = some (fill (valueOf (expandReferences m)) value) := by
  have hne : ∀ a ∈ names value, a ≠ key := fun a ha heq => hself (heq ▸ ha)
  have hfill : ∀ known : Settings, known.IsPart (expandReferences m) →
      (∀ a ∈ names value, known.contains a = true) →
      expandOnce key value known true = fill (valueOf (expandReferences m)) value := by
    intro known hpart hall
    refine expandOnce_drop_eq_fill h.opened fun a ha => .inl ⟨?_, hne a ha⟩
    obtain ⟨w, hw⟩ := Dictionary.contains_iff.1 (hall a ha)
    rw [valueOf, hpart a w hw, hw, Option.getD_some]
  rcases h.course hget rounds with ⟨rest, hmem, hrest⟩ | ⟨known, hpart, hdone, hsettled⟩
  · -- left to the last pass, which knows by now what the template names
    obtain ⟨known, hbefore, hafter, hkey, hsmaller⟩ := last_open hmem
    rw [hkey, hrest known true hbefore, hfill known hafter fun a ha => ?_]
    rcases hnames a ha with hsettled | ⟨hcontains, hlt⟩
    · exact hbefore.contains hsettled
    · exact hsmaller a hcontains hlt
  · -- settled by the rounds, so all that the template names was known then
    have hknown := KnownClosed.of_isPart (iterate_hasReference m rounds).settled hpart
    have hall := h.known_of_closed hknown hdone
    rw [last_isPart m key _ hsettled, ← expandOnce_drop hall,
      hfill known (hpart.trans (last_isPart m)) fun a ha => (hall a ha).1]

/-! ### A single reference -/

/-- A valid reference alone is one piece. -/
theorem pieces_spelling {r : Reference} (hr : r.Valid) :
    pieces (String.ofList r.spelling) = [.reference r] := by
  refine pieces_of_spelling (fun p hp => List.mem_singleton.1 hp ▸ hr) ?_
  rw [List.flatMap_singleton, String.toList_ofList]
  rfl

/-- A setting that is a reference to another one without references gets its value, without the
blanks at its ends. -/
theorem expandReferences_reference {r : Reference} (hr : r.Valid) (htame : r.IsTame)
    (hget : m.get? key = some (String.ofList r.spelling)) (hne : r.target ≠ key)
    (hvalue : m.get? r.target = some value) (hclosed : hasReference value = false) :
    (expandReferences m).get? key = some (Text.trim (r.apply value)) := by
  have hpieces := pieces_spelling hr
  have hnames : names (String.ofList r.spelling) = [r.target] := by
    rw [names, hpieces]
    rfl
  have htemplate : Template (String.ofList r.spelling) :=
    .of_pieces hpieces rfl (fun p hp => List.mem_singleton.1 hp ▸ hr) ⟨by simp, trivial⟩
      fun p hp => List.mem_singleton.1 hp ▸ htame
  have hsettled : (Rounds.last m).1.contains r.target = true := by
    have hstart := start_settled.2 ⟨hvalue, hclosed⟩
    exact Dictionary.contains_iff.2
      ⟨value, isPart_iterate_step (start_ordered m) rounds _ _ hstart⟩
  rw [expandReferences_template htemplate hget (by simpa [hnames] using hne.symm)
    (by simpa [hnames] using Or.inl hsettled), fill, hpieces]
  simp [Piece.fill, valueOf, get?_expandReferences_of_closed hvalue hclosed, Text.trim]

end BuildSettings.Setting
