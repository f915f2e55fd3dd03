import BuildSettings.Proofs.Setting.Meaning

/-!
# The course of one setting

What the rounds and the last pass do to a single setting, whatever else is expanded beside it. A
round keeps the open settings in the order of their names and apart from the settled ones
(`Ordered`), so what is settled is never written again: the settled settings only grow, from the
first round to the result (`isPart_sweep`, `isPart_flush`).

* `sweep_cases` — an open setting is expanded once in a round, against some settings between those
  settled before and those settled after it.
* `flush_cases` — in the last pass the same, and all settings with smaller names are known by then.
* `expandReferences_cases`, `last_open` — so a setting is settled by the rounds for good, or its
  value in the result is that of the last pass.
-/

namespace BuildSettings.Setting

variable {m settled : Settings} {pending : List (String × String)} {a key value : String}

/-! ### Open settings keep their order -/

/-- The open settings stand in the order of their names, and none of them is settled. -/
structure Rounds.Ordered (state : Rounds) : Prop where
  ascending : (state.2.map (·.1)).Pairwise (· < ·)
  apart : ∀ a ∈ state.2.map (·.1), state.1.get? a = none

/-- The names ascend strictly, so the first open setting is open once. -/
theorem Rounds.Ordered.head_notMem (h : Rounds.Ordered (settled, (key, value) :: pending)) :
    key ∉ pending.map (·.1) := by
  intro hmem
  have hlater := (List.pairwise_cons.1 h.ascending).1 key hmem
  exact String.lt_irrefl key hlater

theorem Rounds.Ordered.tail (h : Rounds.Ordered (settled, (key, value) :: pending)) :
    Rounds.Ordered (settled, pending) :=
  ⟨(List.pairwise_cons.1 h.ascending).2, fun a ha => h.apart a (List.mem_cons_of_mem _ ha)⟩

/-- The step lemma of the order: the first open setting is settled, with any value whatever, and the
state is in order again. The value does not matter, since the order is about names. -/
theorem Rounds.Ordered.settle (h : Rounds.Ordered (settled, (key, value) :: pending))
    (expanded : String) : Rounds.Ordered (settled.insert key expanded, pending) := by
  refine ⟨h.tail.ascending, fun a ha => ?_⟩
  have hne : a ≠ key := fun heq => h.head_notMem (heq ▸ ha)
  rw [Dictionary.get?_insert_of_ne _ _ hne]
  exact h.tail.apart a ha

/-- Settling the first open setting writes over nothing, since it was not settled. -/
theorem Rounds.Ordered.isPart_insert (h : Rounds.Ordered (settled, (key, value) :: pending))
    (expanded : String) : settled.IsPart (settled.insert key expanded) :=
  Dictionary.isPart_insert (h.apart key (List.mem_cons_self ..)) expanded

/-- A round opens no setting and changes no order. -/
theorem sweep_keys_sublist (settled : Settings) (pending : List (String × String)) :
    ((sweep settled pending).2.map (·.1)).Sublist (pending.map (·.1)) := by
  fun_induction sweep settled pending with
  | case1 => exact List.Sublist.refl _
  | case2 settled key value rest expanded hopen after ih => exact ih.cons_cons key
  | case3 settled key value rest expanded hopen ih => exact ih.cons key

/-- A round writes only settings that were open. -/
theorem get?_sweep_of_notMem (h : a ∉ pending.map (·.1)) :
    (sweep settled pending).1.get? a = settled.get? a := by
  fun_induction sweep settled pending with
  | case1 => rfl
  | case2 settled key value rest expanded hopen after ih =>
    exact ih fun hmem => h (List.mem_cons_of_mem _ hmem)
  | case3 settled key value rest expanded hopen ih =>
    have hne : a ≠ key := fun heq => h (heq ▸ List.mem_cons_self ..)
    rw [ih fun hmem => h (List.mem_cons_of_mem _ hmem), Dictionary.get?_insert_of_ne _ _ hne]

/-- So does the last pass. -/
theorem get?_flush_of_notMem (h : a ∉ pending.map (·.1)) :
    (flush settled pending).get? a = settled.get? a := by
  fun_induction flush settled pending with
  | case1 => rfl
  | case2 settled key value rest ih =>
    have hne : a ≠ key := fun heq => h (heq ▸ List.mem_cons_self ..)
    rw [ih fun hmem => h (List.mem_cons_of_mem _ hmem), Dictionary.get?_insert_of_ne _ _ hne]

/-- One round keeps the order. A setting that stays open was not settled behind it, because a round
writes only settings that are open (`get?_sweep_of_notMem`). -/
theorem sweep_ordered (h : Rounds.Ordered (settled, pending)) :
    Rounds.Ordered (sweep settled pending) := by
  fun_induction sweep settled pending with
  | case1 => exact h
  | case2 settled key value rest expanded hopen after ih =>
    have hrest := ih h.tail
    refine ⟨List.pairwise_cons.2 ⟨fun b hb => ?_, hrest.ascending⟩, fun b hb => ?_⟩
    · have hold := (sweep_keys_sublist settled rest).subset hb
      exact (List.pairwise_cons.1 h.ascending).1 b hold
    · rcases List.mem_cons.1 hb with heq | hb
      · have hkept : after.1.get? key = settled.get? key := get?_sweep_of_notMem h.head_notMem
        exact heq ▸ hkept.trans (h.apart key (List.mem_cons_self ..))
      · exact hrest.apart b hb
  | case3 settled key value rest expanded hopen ih => exact ih (h.settle expanded)

/-- So do all rounds. -/
theorem iterate_step_ordered {state : Rounds} (h : state.Ordered) (n : Nat) :
    (Rounds.step^[n] state).Ordered := by
  induction n with
  | zero => exact h
  | succ n ih =>
    rw [Function.iterate_succ_apply']
    exact sweep_ordered ih

/-! ### Settled settings stay -/

/-- A settled setting is not open. -/
theorem Rounds.Ordered.notMem {state : Rounds} (h : state.Ordered) {w : String}
    (hw : state.1.get? a = some w) : a ∉ state.2.map (·.1) := by
  intro hmem
  rw [h.apart a hmem] at hw
  cases hw

/-- The frame of a round: what is settled before it is settled with the same value after it. -/
theorem isPart_sweep (h : Rounds.Ordered (settled, pending)) :
    settled.IsPart (sweep settled pending).1 := by
  intro a w hw
  rw [get?_sweep_of_notMem (h.notMem hw)]
  exact hw

/-- The frame of the last pass: it keeps what the rounds have settled. -/
theorem isPart_flush {state : Rounds} (h : state.Ordered) :
    state.1.IsPart (flush state.1 state.2) := by
  intro a w hw
  rw [get?_flush_of_notMem (h.notMem hw)]
  exact hw

/-! ### One open setting -/

/-- A round expands each open setting once. By then it knows what was settled before the round,
and nothing that is not settled after it; the setting is settled if no reference is left. -/
theorem sweep_cases (h : Rounds.Ordered (settled, pending)) (hmem : (key, value) ∈ pending) :
    ∃ known, settled.IsPart known ∧ known.IsPart (sweep settled pending).1 ∧
      ((hasReference (expandOnce key value known false) = true ∧
          (key, expandOnce key value known false) ∈ (sweep settled pending).2) ∨
        (hasReference (expandOnce key value known false) = false ∧
          (sweep settled pending).1.get? key = some (expandOnce key value known false))) := by
  fun_induction sweep settled pending with
  | case1 => cases hmem
  | case2 settled k v rest expanded hopen after ih =>
    -- the first setting stays open, so the others meet the same settled ones
    rcases List.mem_cons.1 hmem with heq | hmem
    · obtain ⟨rfl, rfl⟩ := Prod.mk.inj heq
      exact ⟨settled, .refl settled, isPart_sweep h.tail, .inl ⟨hopen, List.mem_cons_self ..⟩⟩
    · obtain ⟨known, hbefore, hafter, hcases⟩ := ih h.tail hmem
      refine ⟨known, hbefore, hafter, hcases.imp_left fun h => ⟨h.1, ?_⟩⟩
      exact List.mem_cons_of_mem _ h.2
  | case3 settled k v rest expanded hopen ih =>
    -- the first setting is settled and counts for those behind it at once
    have hsettle := h.settle expanded
    have hinsert := h.isPart_insert expanded
    rcases List.mem_cons.1 hmem with heq | hmem
    · obtain ⟨rfl, rfl⟩ := Prod.mk.inj heq
      have hkept : (sweep (settled.insert key expanded) rest).1.get? key = some expanded := by
        rw [get?_sweep_of_notMem h.head_notMem, Dictionary.get?_insert_self]
      refine ⟨settled, .refl settled, hinsert.trans (isPart_sweep hsettle), .inr ⟨?_, hkept⟩⟩
      exact Bool.eq_false_iff.2 hopen
    · obtain ⟨known, hbefore, hafter, hcases⟩ := ih hsettle hmem
      exact ⟨known, hinsert.trans hbefore, hafter, hcases⟩

/-- The last pass expands each open setting once. By then it knows all settings whose names are
smaller. -/
theorem flush_cases {state : Rounds} (h : state.Ordered) (hmem : (key, value) ∈ state.2) :
    ∃ known, state.1.IsPart known ∧ known.IsPart (flush state.1 state.2) ∧
      (flush state.1 state.2).get? key = some (expandOnce key value known true) ∧
      ∀ a ∈ state.2.map (·.1), a < key → known.contains a = true := by
  obtain ⟨settled, pending⟩ := state
  simp only at hmem ⊢
  fun_induction flush settled pending with
  | case1 => cases hmem
  | case2 settled k v rest ih =>
    have hsettle := h.settle (expandOnce k v settled true)
    have hinsert := h.isPart_insert (expandOnce k v settled true)
    rcases List.mem_cons.1 hmem with heq | hmem
    · obtain ⟨rfl, rfl⟩ := Prod.mk.inj heq
      refine ⟨settled, .refl settled, hinsert.trans (isPart_flush hsettle), ?_, ?_⟩
      · rw [get?_flush_of_notMem h.head_notMem, Dictionary.get?_insert_self]
      · -- the first name is the smallest
        intro a ha hlt
        rcases List.mem_cons.1 ha with heq | ha
        · exact absurd (heq ▸ hlt) (String.lt_irrefl a)
        · have hgt := (List.pairwise_cons.1 h.ascending).1 a ha
          exact absurd (String.lt_trans hlt hgt) (String.lt_irrefl a)
    · obtain ⟨known, hbefore, hafter, hkey, hsmaller⟩ := ih hsettle hmem
      refine ⟨known, hinsert.trans hbefore, hafter, hkey, fun a ha hlt => ?_⟩
      rcases List.mem_cons.1 ha with heq | ha
      · exact hbefore.contains (contains_insert.2 (Or.inl heq))
      · exact hsmaller a ha hlt

/-! ### The whole expansion -/

/-- Before the first round the settings are in order: both parts come from one dictionary, which is
in the order of its names, and no value both has a reference and has none. -/
theorem start_ordered (m : Settings) : (Rounds.start m).Ordered := by
  have hentries := (m.filter fun _ value => hasReference value).ascending
  refine ⟨?_, fun a ha => ?_⟩
  · rw [Rounds.start]
    exact List.pairwise_map.2 hentries
  obtain ⟨⟨key, value⟩, hmem, rfl⟩ := List.mem_map.1 ha
  obtain ⟨hget, hopen⟩ := start_pending.1 hmem
  cases hsettled : (Rounds.start m).1.get? key with
  | none => rfl
  | some w =>
    obtain ⟨hget', hclosed⟩ := start_settled.1 hsettled
    obtain rfl := Option.some.inj (hget.symm.trans hget')
    rw [hopen] at hclosed
    cases hclosed

/-- The settings after all rounds. -/
def Rounds.last (m : Settings) : Rounds :=
  Rounds.step^[rounds] (Rounds.start m)

/-- The expansion is the last pass over what the rounds leave. -/
theorem expandReferences_eq_flush (m : Settings) :
    expandReferences m = flush (Rounds.last m).1 (Rounds.last m).2 :=
  expandReferences_eq m

theorem last_ordered (m : Settings) : (Rounds.last m).Ordered :=
  iterate_step_ordered (start_ordered m) rounds

theorem last_isPart (m : Settings) : (Rounds.last m).1.IsPart (expandReferences m) := by
  rw [expandReferences_eq_flush]
  exact isPart_flush (last_ordered m)

/-- Settled settings have no references and open ones have some. -/
theorem keeps_hasReference : Keeps (fun _ value => hasReference value = false)
    (fun _ value => hasReference value = true) :=
  fun _ _ _ _ _ => ⟨id, id⟩

/-- At each point of the expansion the settled settings are those without references. -/
theorem iterate_hasReference (m : Settings) (n : Nat) :
    (Rounds.step^[n] (Rounds.start m)).Holds (fun _ value => hasReference value = false)
      (fun _ value => hasReference value = true) := by
  refine iterate_step_holds keeps_hasReference ⟨?_, ?_⟩ n
  · exact fun key value hsettled => (start_settled.1 hsettled).2
  · exact fun key value hpending => (start_pending.1 hpending).2

/-- After the rounds each setting is settled or open, and there are no others. -/
theorem last_has : (Rounds.last m).Has a ↔ m.contains a = true := by
  rw [Rounds.last, iterate_step_has]
  constructor
  · rintro (hsettled | hpending)
    · obtain ⟨w, hw⟩ := Dictionary.contains_iff.1 hsettled
      exact Dictionary.contains_iff.2 ⟨w, (start_settled.1 hw).1⟩
    · obtain ⟨⟨key, w⟩, hmem, rfl⟩ := List.mem_map.1 hpending
      exact Dictionary.contains_iff.2 ⟨w, (start_pending.1 hmem).1⟩
  · intro hcontains
    obtain ⟨w, hw⟩ := Dictionary.contains_iff.1 hcontains
    exact start_has hw

/-- Settings with chains of at most `rounds` links are settled by the rounds. -/
theorem last_contains_of_grounded (h : Grounded m (rounds + 1) a) :
    (Rounds.last m).1.contains a = true := by
  rw [Rounds.last]
  exact settled_of_grounded (Nat.lt_succ_self rounds) h

/-- Expansion keeps the names. -/
theorem contains_expandReferences :
    (expandReferences m).contains a = true ↔ m.contains a = true := by
  rw [expandReferences_eq_flush, contains_flush]
  exact last_has

/-- Expansion brings no name in. -/
theorem get?_expandReferences_of_none (h : m.get? a = none) :
    (expandReferences m).get? a = none := by
  rw [← Dictionary.contains_eq_false_iff, Bool.eq_false_iff, ne_eq, contains_expandReferences,
    Dictionary.contains, h]
  exact Bool.false_ne_true

/-- The last pass expands a setting that is open after the rounds once more, knowing what the rounds
have settled and all settings with smaller names. -/
theorem last_open (h : (key, value) ∈ (Rounds.last m).2) :
    ∃ known, (Rounds.last m).1.IsPart known ∧ known.IsPart (expandReferences m) ∧
      (expandReferences m).get? key = some (expandOnce key value known true) ∧
      ∀ a, m.contains a = true → a < key → known.contains a = true := by
  rw [expandReferences_eq_flush]
  obtain ⟨known, hbefore, hafter, hkey, hsmaller⟩ := flush_cases (last_ordered m) h
  refine ⟨known, hbefore, hafter, hkey, fun a ha hlt => ?_⟩
  rcases last_has.2 ha with hsettled | hopen
  · exact hbefore.contains hsettled
  · exact hsmaller a hopen hlt

/-- The frame of several rounds: what is settled at the start is settled with the same value after
them. -/
theorem isPart_iterate_step {state : Rounds} (h : state.Ordered) (n : Nat) :
    state.1.IsPart (Rounds.step^[n] state).1 := by
  induction n with
  | zero => exact .refl _
  | succ n ih =>
    rw [Function.iterate_succ_apply']
    exact ih.trans (isPart_sweep (iterate_step_ordered h n))

/-- A setting without references stays as it is. -/
theorem get?_expandReferences_of_closed (hget : m.get? key = some value)
    (hclosed : hasReference value = false) : (expandReferences m).get? key = some value := by
  have hstart := start_settled.2 ⟨hget, hclosed⟩
  exact last_isPart m key value (isPart_iterate_step (start_ordered m) rounds key value hstart)

/-- Where no setting has references, expansion changes nothing. -/
theorem expandReferences_of_closed
    (h : ∀ key value, m.get? key = some value → hasReference value = false) :
    expandReferences m = m := by
  refine Dictionary.ext_get? fun key => ?_
  cases hget : m.get? key with
  | none => exact get?_expandReferences_of_none hget
  | some value => exact get?_expandReferences_of_closed hget (h key value hget)

/-- A setting is settled by the rounds for good, or open after them and left to the last pass. -/
theorem expandReferences_cases (h : m.contains key = true) :
    (∃ w, (Rounds.last m).1.get? key = some w ∧ (expandReferences m).get? key = some w) ∨
      ∃ value, (key, value) ∈ (Rounds.last m).2 := by
  rcases last_has.2 h with hsettled | hpending
  · obtain ⟨w, hw⟩ := Dictionary.contains_iff.1 hsettled
    exact .inl ⟨w, hw, last_isPart m key w hw⟩
  · obtain ⟨⟨k, value⟩, hmem, rfl⟩ := List.mem_map.1 hpending
    exact .inr ⟨value, hmem⟩

end BuildSettings.Setting
