import BuildSettings.Proofs.Setting.Meaning

/-!
# Expansion is local

What a setting is expanded to depends on nothing but the settings it reaches through references.

A set of names is `Confined` when references lead from it only into it, and each dollar sign of its
values begins a reference. Then no value of the set ever gets to name a setting outside
(`keeps_confined`), so leaving out all other settings before a round or after it makes no difference
(`step_within`), and the same for the last pass (`flush_within`).

* `expandReferences_plain` — no value of a confined set has a dollar sign after the expansion.
* `expandReferences_local` — settings that agree on what a name reaches expand that name alike.
  Since rounds that change nothing may be repeated (`sweeps_eq_iterate`), it does not matter that
  the two expansions may stop after different numbers of rounds.
-/

namespace BuildSettings.Setting

variable {m m₁ m₂ : Settings} {R : String → Prop} {key value : String}

/-! ### Confined sets of names -/

/-- References lead from `R` only into `R`, and each dollar sign in a value of `R` begins one. -/
def Confined (m : Settings) (R : String → Prop) : Prop :=
  ∀ a, R a → ∀ value, m.get? a = some value →
    DollarsRefer value.toList ∧ ∀ b ∈ names value, R b

theorem Confined.congr (h : Confined m₁ R) (hagree : ∀ a, R a → m₁.get? a = m₂.get? a) :
    Confined m₂ R :=
  fun a ha value hget => h a ha value ((hagree a ha).trans hget)

/-- What a setting reaches is confined. -/
theorem confined_reaches
    (hdollars : ∀ a value, Reaches m key a → m.get? a = some value → DollarsRefer value.toList) :
    Confined m (Reaches m key) :=
  fun a ha value hget => ⟨hdollars a value ha hget, fun _ hb => ha.tail ⟨value, hget, hb⟩⟩

/-- Names that refer only to each other reach only each other. -/
theorem mem_of_reaches {l : List String} {a : String}
    (hclosed : ∀ a ∈ l, ∀ value ∈ m.get? a, ∀ b ∈ names value, b ∈ l) (hkey : key ∈ l)
    (h : Reaches m key a) : a ∈ l := by
  induction h with
  | refl => exact hkey
  | tail _ hlink ih =>
    obtain ⟨value, hget, hb⟩ := hlink
    exact hclosed _ ih value hget _ hb

/-- A settled value of `R` has no dollar sign. -/
def PlainIn (R : String → Prop) (key value : String) : Prop :=
  R key → '$' ∉ value.toList

/-- An open value of `R` refers only into `R`, with each of its dollar signs. -/
def OpenIn (R : String → Prop) (key value : String) : Prop :=
  R key → hasReference value = true ∧ DollarsRefer value.toList ∧ ∀ b ∈ names value, R b

/-- What an open value of `R` refers to lies in `R`, so what is settled of it has no dollar signs.
-/
theorem OpenIn.knownPlain {known : Settings} (h : OpenIn R key value) (hkey : R key)
    (hknown : Known (PlainIn R) known) : KnownPlain known value :=
  fun a ha w hw => hknown a w hw ((h hkey).2.2 a ha)

/-- The step lemma: expanding one value does not lead out of `R`. What is left in it are references
that it had before, since the values that are put in have no dollar signs. -/
theorem keeps_confined : Keeps (PlainIn R) (OpenIn R) := by
  intro known hknown key value hvalue
  constructor
  · intro hleft hkey
    obtain ⟨hopen, hdollars, hnames⟩ := hvalue hkey
    have hplain := hvalue.knownPlain hkey hknown
    refine ⟨hleft, dollarsRefer_expandOnce hopen hdollars hplain, fun b hb => ?_⟩
    exact hnames b (mem_names_expandOnce hopen hdollars hplain hb).1
  · intro hclosed hkey
    obtain ⟨hopen, hdollars, -⟩ := hvalue hkey
    have hplain := hvalue.knownPlain hkey hknown
    exact dollar_notMem_of_closed (dollarsRefer_expandOnce hopen hdollars hplain) hclosed

/-- Before the first round the values of a confined set are as told. -/
theorem start_confined (h : Confined m R) : (Rounds.start m).Holds (PlainIn R) (OpenIn R) := by
  refine ⟨fun key value hsettled hkey => ?_, fun key value hpending hkey => ?_⟩
  · obtain ⟨hget, hclosed⟩ := start_settled.1 hsettled
    exact dollar_notMem_of_closed (h key hkey value hget).1 hclosed
  · obtain ⟨hget, hopen⟩ := start_pending.1 hpending
    exact ⟨hopen, h key hkey value hget⟩

/-! ### No dollar sign is left -/

/-- Where every dollar sign begins a reference, dropping what is not known leaves none: each sign
goes with its reference. -/
theorem dollar_notMem_expandOnce {known : Settings} (hopen : hasReference value = true)
    (hvalue : DollarsRefer value.toList) (hknown : KnownPlain known value) :
    '$' ∉ (expandOnce key value known true).toList := by
  rw [expandOnce, if_pos hopen, String.toList_ofList]
  intro hmem
  obtain ⟨p, hp, hdollar⟩ := List.mem_flatMap.1 (Text.mem_of_mem_trimChars hmem)
  cases p with
  | char c =>
    have hclean : c ≠ '$' := dollarsRefer_iff.1 hvalue _ hp
    exact hclean (List.mem_singleton.1 hdollar).symm
  | reference r =>
    -- the text of a known setting has none, and an unknown one leaves nothing
    rw [Piece.expand, Reference.expand_eq] at hdollar
    split at hdollar
    next found hfound =>
      have hget := (Option.filter_eq_some_iff.1 hfound).1
      exact r.dollar_notMem_apply (hknown _ (mem_names.2 ⟨r, hp, rfl⟩) found hget) hdollar
    next => cases hdollar

/-- No value of a confined set has a dollar sign in the end. -/
theorem expandReferences_plain (h : Confined m R) : Known (PlainIn R) (expandReferences m) := by
  rw [expandReferences_eq]
  refine flush_known (iterate_step_holds keeps_confined (start_confined h) rounds) ?_
  intro known hknown _ key value hvalue hkey
  obtain ⟨hopen, hdollars, -⟩ := hvalue hkey
  exact dollar_notMem_expandOnce hopen hdollars (hvalue.knownPlain hkey hknown)

/-! ### Leaving out all other settings -/

section Within

variable [DecidablePred R] {state : Rounds}

/-- The settings of `R` only. -/
def within (R : String → Prop) [DecidablePred R] (d : Settings) : Settings :=
  d.filter fun key _ => decide (R key)

/-- The same for the settled and the open settings. -/
def Rounds.within (R : String → Prop) [DecidablePred R] (state : Rounds) : Rounds :=
  (Setting.within R state.1, state.2.filter fun e => decide (R e.1))

/-- Inside `R` a setting keeps its value. -/
theorem get?_within {d : Settings} {a : String} (ha : R a) : (within R d).get? a = d.get? a := by
  rw [within, Dictionary.get?_filter]
  cases d.get? a with
  | none => rfl
  | some w => simp [ha]

/-- Outside of it there is none. -/
theorem get?_within_of_not {d : Settings} {a : String} (ha : ¬ R a) :
    (within R d).get? a = none := by
  rw [within, Dictionary.get?_filter]
  cases d.get? a with
  | none => rfl
  | some w => simp [ha]

/-- Settling a setting of `R` and leaving out the others may change places. -/
theorem within_insert {d : Settings} (hkey : R key) :
    within R (d.insert key value) = (within R d).insert key value := by
  refine Dictionary.ext_get? fun a => ?_
  by_cases ha : R a
  · rw [get?_within ha, Dictionary.get?_insert, Dictionary.get?_insert, get?_within ha]
  · have hne : a ≠ key := fun heq => ha (heq ▸ hkey)
    rw [get?_within_of_not ha, Dictionary.get?_insert_of_ne _ _ hne, get?_within_of_not ha]

/-- Settling a setting outside of `R` is not seen from inside. -/
theorem within_insert_of_not {d : Settings} (hkey : ¬ R key) :
    within R (d.insert key value) = within R d := by
  refine Dictionary.ext_get? fun a => ?_
  by_cases ha : R a
  · have hne : a ≠ key := fun heq => hkey (heq ▸ ha)
    rw [get?_within ha, Dictionary.get?_insert_of_ne _ _ hne, get?_within ha]
  · rw [get?_within_of_not ha, get?_within_of_not ha]

/-- Only the settings that a value refers to matter for its expansion. -/
theorem expandOnce_congr {known known' : Settings} {dropUnknown : Bool}
    (h : ∀ a ∈ names value, known.get? a = known'.get? a) :
    expandOnce key value known dropUnknown = expandOnce key value known' dropUnknown := by
  have hpieces : ∀ p ∈ pieces value,
      p.expand key known dropUnknown = p.expand key known' dropUnknown := by
    intro p hp
    cases p with
    | char c => rfl
    | reference r =>
      rw [Piece.expand, Piece.expand, Reference.expand_eq, Reference.expand_eq,
        h _ (mem_names.2 ⟨r, hp, rfl⟩)]
  rw [expandOnce, expandOnce, List.flatMap_congr hpieces]

/-- The value of a setting of `R` is expanded alike, whether the settings outside of `R` are known
or not. -/
theorem expandOnce_within {known : Settings} {dropUnknown : Bool} (h : OpenIn R key value)
    (hkey : R key) :
    expandOnce key value (within R known) dropUnknown = expandOnce key value known dropUnknown :=
  expandOnce_congr fun a ha => get?_within ((h hkey).2.2 a ha)

/-- A round expands the settings of `R` as if there were no others: those outside are settled or not
beside them, and no value of `R` looks at them. -/
theorem sweep_within {settled : Settings} {pending : List (String × String)}
    (h : Rounds.Holds (PlainIn R) (OpenIn R) (settled, pending)) :
    Rounds.within R (sweep settled pending) = (Rounds.within R (settled, pending)).step := by
  fun_induction sweep settled pending with
  | case1 => rfl
  | case2 settled key value rest expanded hopen after ih =>
    have hrest : Rounds.within R after = (Rounds.within R (settled, rest)).step := ih h.tail
    -- a setting outside of `R` is left out on both sides
    by_cases hkey : R key
    · have hvalue := h.pending key value (List.mem_cons_self ..)
      have hexpand : expandOnce key value (within R settled) false = expanded :=
        expandOnce_within hvalue hkey
      rw [Rounds.step, Rounds.within, Rounds.within] at hrest ⊢
      simp only [List.filter_cons, hkey, decide_true, if_true, sweep, hexpand, hopen, ← hrest]
    · rw [Rounds.step, Rounds.within, Rounds.within] at hrest ⊢
      simp only [List.filter_cons, hkey, decide_false, Bool.false_eq_true, if_false, ← hrest]
  | case3 settled key value rest expanded hopen ih =>
    have hvalue := h.pending key value (List.mem_cons_self ..)
    -- the setting is settled in `R` too, with a value that has no dollar sign
    have hnew := (keeps_confined settled h.settled key value hvalue).2 (Bool.eq_false_iff.2 hopen)
    have hrest := ih (h.tail.insert hnew)
    by_cases hkey : R key
    · have hexpand : expandOnce key value (within R settled) false = expanded :=
        expandOnce_within hvalue hkey
      rw [hrest, Rounds.step, Rounds.step, Rounds.within, Rounds.within, within_insert hkey]
      simp only [List.filter_cons, hkey, decide_true, if_true, sweep, hexpand, hopen,
        Bool.false_eq_true, if_false]
    · rw [hrest, Rounds.within, Rounds.within, within_insert_of_not hkey]
      simp only [List.filter_cons, hkey, decide_false, Bool.false_eq_true, if_false]

/-- One round, seen from inside `R`, is one round over what is inside. -/
theorem step_within (h : state.Holds (PlainIn R) (OpenIn R)) :
    state.step.within R = (state.within R).step :=
  sweep_within h

/-- The run lemma: so it is with any number of rounds. Where the two expansions stop early does not
matter, for both are iterates of the same number of rounds (`sweeps_eq_iterate`). -/
theorem iterate_step_within (h : state.Holds (PlainIn R) (OpenIn R)) (n : Nat) :
    (Rounds.step^[n] state).within R = Rounds.step^[n] (state.within R) := by
  induction n with
  | zero => rfl
  | succ n ih =>
    rw [Function.iterate_succ_apply', Function.iterate_succ_apply',
      step_within (iterate_step_holds keeps_confined h n), ih]

/-- The last pass does the same. It expands the settings in their order, and leaving some out keeps
the order of the rest. -/
theorem flush_within (h : state.Holds (PlainIn R) (OpenIn R)) :
    within R (flush state.1 state.2) = flush (state.within R).1 (state.within R).2 := by
  obtain ⟨settled, pending⟩ := state
  have hpending := h.pending
  show within R (flush settled pending) =
    flush (within R settled) (pending.filter fun e => decide (R e.1))
  -- the induction is over all settled parts, so only what is said of open values is kept
  clear h
  fun_induction flush settled pending with
  | case1 => rfl
  | case2 settled key value rest ih =>
    have hrest := ih fun k v hkv => hpending k v (List.mem_cons_of_mem _ hkv)
    by_cases hkey : R key
    · have hvalue := hpending key value (List.mem_cons_self ..)
      rw [hrest, within_insert hkey, ← expandOnce_within hvalue hkey]
      simp only [List.filter_cons, hkey, decide_true, if_true, flush]
    · rw [hrest, within_insert_of_not hkey]
      simp only [List.filter_cons, hkey, decide_false, Bool.false_eq_true, if_false]

/-- The rounds of two maps start alike on the names on which the maps agree, in the same order, for
both maps list their entries by name. -/
theorem start_within_congr (hagree : ∀ a, R a → m₁.get? a = m₂.get? a) :
    (Rounds.start m₁).within R = (Rounds.start m₂).within R := by
  have hfilter : ∀ p : String → String → Bool,
      within R (m₁.filter p) = within R (m₂.filter p) := by
    intro p
    refine Dictionary.ext_get? fun a => ?_
    by_cases ha : R a
    · rw [get?_within ha, get?_within ha, Dictionary.get?_filter, Dictionary.get?_filter,
        hagree a ha]
    · rw [get?_within_of_not ha, get?_within_of_not ha]
  have hopen := congrArg Dictionary.entries (hfilter fun _ value => hasReference value)
  exact Prod.ext (hfilter _) hopen

/-- A confined set is expanded as if there were no other settings. -/
theorem expandReferences_within (h : Confined m R) :
    within R (expandReferences m) =
      let last := Rounds.step^[rounds] ((Rounds.start m).within R)
      flush last.1 last.2 := by
  have hholds := iterate_step_holds keeps_confined (start_confined h) rounds
  rw [expandReferences_eq, flush_within hholds,
    iterate_step_within (start_confined h) rounds]

end Within

/-- The result for a name of a confined set is determined by the settings of the set. -/
theorem expandReferences_congr (h : Confined m₁ R) (hagree : ∀ a, R a → m₁.get? a = m₂.get? a)
    (hkey : R key) : (expandReferences m₁).get? key = (expandReferences m₂).get? key := by
  classical
  have hwithin : within R (expandReferences m₁) = within R (expandReferences m₂) := by
    rw [expandReferences_within h, expandReferences_within (h.congr hagree),
      start_within_congr hagree]
  rw [← get?_within (R := R) hkey, hwithin, get?_within hkey]

/-- A setting is expanded to the same value in all settings that agree with `m₁` on the names it
reaches there, if each dollar sign in their values begins a reference. Cycles, unknown names and
chains of any length may be among them, and the other settings may keep the rounds going. -/
theorem expandReferences_local
    (hdollars : ∀ a value, Reaches m₁ key a → m₁.get? a = some value → DollarsRefer value.toList)
    (hagree : ∀ a, Reaches m₁ key a → m₁.get? a = m₂.get? a) (hkey : m₁.contains key = true) :
    ∃ value, (expandReferences m₁).get? key = some value ∧
      (expandReferences m₂).get? key = some value := by
  have hequal := expandReferences_congr (confined_reaches hdollars) hagree .refl
  obtain ⟨raw, hraw⟩ := Dictionary.contains_iff.1 hkey
  obtain ⟨value, hvalue⟩ := Dictionary.contains_iff.1 (expandReferences_contains hraw)
  exact ⟨value, hvalue, hequal ▸ hvalue⟩

/-- A cycle and an unknown name beside a plain setting. -/
def tangledSettings : Settings :=
  .ofList [("TOP", " $(LEFT)/$(GONE:upper)/$\x7bNAME\x7d"), ("LEFT", "$(RIGHT)"),
    ("RIGHT", "$(LEFT)!"), ("NAME", "app")]

/-- The deep settings under the tangled ones take all rounds, and `TOP` is expanded as before. -/
theorem expandReferences_local_tangled :
    let reached := ["TOP", "LEFT", "RIGHT", "GONE", "NAME"]
    let both := deepSettings.extend tangledSettings
    (∀ a, Reaches tangledSettings "TOP" a → a ∈ reached) ∧
    (∀ a ∈ reached, ∀ value ∈ tangledSettings.get? a, DollarsRefer value.toList) ∧
    (∀ a ∈ reached, tangledSettings.get? a = both.get? a) ∧
    ∃ value, (expandReferences tangledSettings).get? "TOP" = some value ∧
      (expandReferences both).get? "TOP" = some value := by
  intro reached both
  have hclosed : ∀ a ∈ reached, ∀ value ∈ tangledSettings.get? a, ∀ b ∈ names value,
      b ∈ reached := by decide +kernel
  have hreached : ∀ a, Reaches tangledSettings "TOP" a → a ∈ reached :=
    fun _ ha => mem_of_reaches hclosed (by decide) ha
  have hdollars : ∀ a ∈ reached, ∀ value ∈ tangledSettings.get? a, DollarsRefer value.toList := by
    decide +kernel
  have hagree : ∀ a ∈ reached, tangledSettings.get? a = both.get? a := by decide +kernel
  refine ⟨hreached, hdollars, hagree, expandReferences_local ?_ ?_ (by decide +kernel)⟩
  · exact fun a value ha hget => hdollars a (hreached a ha) value hget
  · exact fun a ha => hagree a (hreached a ha)

end BuildSettings.Setting
