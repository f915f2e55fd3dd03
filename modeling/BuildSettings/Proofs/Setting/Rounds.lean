import BuildSettings.Setting.Expansion
import Mathlib.Logic.Function.Iterate

/-!
# The rounds of an expansion

`expandReferences` runs rounds until one of them changes nothing, so two runs may stop after
different numbers of rounds. A round that leaves the open settings as they are settles nothing
either (`sweep_eq_self`); hence stopping early is the same as running all rounds
(`sweeps_eq_iterate`), and what follows argues about a fixed number of them.

* `sweep_holds`, `iterate_step_holds`, `flush_known` — what is true of each settled and of each open
  setting, and is kept when one value is expanded, is kept by a round, by all rounds and by the
  last pass.
* `sweep_settles` — a setting whose references are known gets settled in the round.
* `sweep_has`, `contains_flush` — no name is lost or brought in.
-/

namespace BuildSettings.Setting

/-- The settled settings, and the open ones in the order of their names. -/
abbrev Rounds := Settings × List (String × String)

namespace Rounds

/-- One round. -/
def step (state : Rounds) : Rounds :=
  sweep state.1 state.2

end Rounds

open Rounds

/-! ### Stopping early -/

/-- A round opens no setting. -/
theorem length_sweep_le (settled : Settings) (pending : List (String × String)) :
    (sweep settled pending).2.length ≤ pending.length := by
  fun_induction sweep settled pending with
  | case1 => exact Nat.le_refl _
  | case2 settled key value rest expanded h after ih => exact Nat.succ_le_succ ih
  | case3 settled key value rest expanded h ih => exact Nat.le_succ_of_le ih

/-- A round that leaves the open settings as they are changes nothing. -/
theorem sweep_eq_self {settled : Settings} {pending : List (String × String)}
    (h : (sweep settled pending).2 = pending) : sweep settled pending = (settled, pending) := by
  fun_induction sweep settled pending with
  | case1 => rfl
  | case2 settled key value rest expanded hopen after ih =>
    obtain ⟨hhead, htail⟩ := List.cons_eq_cons.1 h
    have hrest : after = (settled, rest) := ih htail
    rw [hrest, hhead]
  | case3 settled key value rest expanded hopen ih =>
    -- one setting was settled, so fewer are open
    have hle := length_sweep_le (settled.insert key expanded) rest
    rw [h, List.length_cons] at hle
    omega

/-- Rounds that stop early end where all rounds end. -/
theorem sweeps_eq_iterate (n : Nat) (settled : Settings) (pending : List (String × String)) :
    sweeps n settled pending = step^[n] (settled, pending) := by
  induction n generalizing settled pending with
  | zero => rfl
  | succ n ih =>
    rw [sweeps, Function.iterate_succ_apply]
    split
    next hstalled =>
      have hself : step (settled, pending) = (settled, pending) := sweep_eq_self hstalled
      rw [hself, Function.iterate_fixed hself n]
      exact hself
    next => exact ih _ _

/-! ### Names -/

theorem contains_insert {settled : Settings} {key value a : String} :
    (settled.insert key value).contains a = true ↔ a = key ∨ settled.contains a = true := by
  rw [Dictionary.contains, Dictionary.get?_insert]
  split
  next h => simp [h]
  next h => simp [h, Dictionary.contains]

/-- The name belongs to a settled or to an open setting. -/
def Rounds.Has (state : Rounds) (a : String) : Prop :=
  state.1.contains a = true ∨ a ∈ state.2.map (·.1)

/-- A round keeps the names: it takes each from one part of the state to the other at most. -/
theorem sweep_has {settled : Settings} {pending : List (String × String)} {a : String} :
    Rounds.Has (sweep settled pending) a ↔ Rounds.Has (settled, pending) a := by
  fun_induction sweep settled pending with
  | case1 => exact Iff.rfl
  | case2 settled key value rest expanded hopen after ih =>
    simp only [Rounds.Has, List.map_cons, List.mem_cons] at ih ⊢
    rw [or_left_comm, ih, or_left_comm]
  | case3 settled key value rest expanded hopen ih =>
    rw [ih]
    simp only [Rounds.Has, List.map_cons, List.mem_cons, contains_insert]
    rw [or_assoc, or_left_comm]

/-- So do all rounds: which names there are, settled or open, never changes. -/
theorem iterate_step_has {state : Rounds} {a : String} (n : Nat) :
    (step^[n] state).Has a ↔ state.Has a := by
  induction n with
  | zero => exact Iff.rfl
  | succ n ih =>
    rw [Function.iterate_succ_apply', ← ih]
    exact sweep_has

/-- What is settled stays settled. -/
theorem contains_sweep {settled : Settings} {pending : List (String × String)} {a : String}
    (h : settled.contains a = true) : (sweep settled pending).1.contains a = true := by
  fun_induction sweep settled pending with
  | case1 => exact h
  | case2 settled key value rest expanded hopen after ih => exact ih h
  | case3 settled key value rest expanded hopen ih => exact ih (contains_insert.2 (Or.inr h))

/-- The last pass settles all names. -/
theorem contains_flush {state : Rounds} {a : String} :
    (flush state.1 state.2).contains a = true ↔ state.Has a := by
  obtain ⟨settled, pending⟩ := state
  show (flush settled pending).contains a = true ↔ _
  fun_induction flush settled pending with
  | case1 => simp [Rounds.Has]
  | case2 settled key value rest ih =>
    rw [ih]
    simp only [Rounds.Has, List.map_cons, List.mem_cons, contains_insert]
    rw [or_assoc, or_left_comm]

/-! ### What is kept -/

section Holds

variable {P Q : String → String → Prop}

/-- Every known setting satisfies `P`. -/
def Known (P : String → String → Prop) (known : Settings) : Prop :=
  ∀ key value, known.get? key = some value → P key value

/-- Settling one more setting as told keeps all as told. -/
theorem Known.insert {known : Settings} {key value : String} (h : Known P known)
    (hnew : P key value) : Known P (known.insert key value) := by
  intro k v hv
  rw [Dictionary.get?_insert] at hv
  split at hv
  next hk =>
    obtain rfl := Option.some.inj hv
    exact hk ▸ hnew
  next => exact h k v hv

/-- The settled settings satisfy `P` and the open ones `Q`, each with its name. -/
structure Rounds.Holds (P Q : String → String → Prop) (state : Rounds) : Prop where
  settled : Known P state.1
  pending : ∀ key value, (key, value) ∈ state.2 → Q key value

theorem Rounds.Holds.tail {settled : Settings} {e : String × String}
    {rest : List (String × String)} (h : Rounds.Holds P Q (settled, e :: rest)) :
    Rounds.Holds P Q (settled, rest) :=
  ⟨h.settled, fun key value hmem => h.pending key value (List.mem_cons_of_mem _ hmem)⟩

theorem Rounds.Holds.insert {settled : Settings} {pending : List (String × String)}
    {key value : String} (h : Rounds.Holds P Q (settled, pending)) (hnew : P key value) :
    Rounds.Holds P Q (settled.insert key value, pending) :=
  ⟨h.settled.insert hnew, h.pending⟩

/-- Expanding one open value keeps it open or settles it as told. -/
def Keeps (P Q : String → String → Prop) : Prop :=
  ∀ known, Known P known → ∀ key value, Q key value →
    let expanded := expandOnce key value known false
    (hasReference expanded = true → Q key expanded) ∧
    (hasReference expanded = false → P key expanded)

/-- The step lemma of all that follows: a round keeps what the expansion of one value keeps. A
setting that gets settled counts for those behind it at once, so the induction is over all settled
parts. -/
theorem sweep_holds (hkeeps : Keeps P Q) {settled : Settings} {pending : List (String × String)}
    (h : Rounds.Holds P Q (settled, pending)) : Rounds.Holds P Q (sweep settled pending) := by
  fun_induction sweep settled pending with
  | case1 => exact h
  | case2 settled key value rest expanded hopen after ih =>
    have hrest := ih h.tail
    have hkey := h.pending key value (List.mem_cons_self ..)
    refine ⟨hrest.settled, fun k v hkv => ?_⟩
    rcases List.mem_cons.1 hkv with heq | hkv
    · obtain ⟨rfl, rfl⟩ := Prod.mk.inj heq
      exact (hkeeps settled h.settled k value hkey).1 hopen
    · exact hrest.pending k v hkv
  | case3 settled key value rest expanded hopen ih =>
    have hkey := h.pending key value (List.mem_cons_self ..)
    have hnew := (hkeeps settled h.settled key value hkey).2 (by simpa using hopen)
    exact ih (h.tail.insert hnew)

/-- The run lemma: so do all rounds. -/
theorem iterate_step_holds (hkeeps : Keeps P Q) {state : Rounds} (h : Rounds.Holds P Q state)
    (n : Nat) : Rounds.Holds P Q (step^[n] state) := by
  induction n with
  | zero => exact h
  | succ n ih =>
    rw [Function.iterate_succ_apply']
    exact sweep_holds hkeeps ih

/-- A setting is settled in a round if its value loses its last reference to what is settled
before, whatever gets settled on the way. -/
theorem sweep_settles (hkeeps : Keeps P Q) {settled : Settings}
    {pending : List (String × String)} (h : Rounds.Holds P Q (settled, pending))
    {key value : String} (hmem : (key, value) ∈ pending)
    (hlast : ∀ known, Known P known →
      (∀ a, settled.contains a = true → known.contains a = true) →
      hasReference (expandOnce key value known false) = false) :
    (sweep settled pending).1.contains key = true := by
  fun_induction sweep settled pending with
  | case1 => cases hmem
  | case2 settled k v rest expanded hopen after ih =>
    rcases List.mem_cons.1 hmem with heq | hmem
    · obtain ⟨rfl, rfl⟩ := Prod.mk.inj heq
      have hclosed := hlast settled h.settled fun _ ha => ha
      exact absurd hopen (by simpa using hclosed)
    · exact ih h.tail hmem hlast
  | case3 settled k v rest expanded hopen ih =>
    rcases List.mem_cons.1 hmem with heq | hmem
    · obtain ⟨rfl, rfl⟩ := Prod.mk.inj heq
      exact contains_sweep (contains_insert.2 (Or.inl rfl))
    · have hkv := h.pending k v (List.mem_cons_self ..)
      have hnew := (hkeeps settled h.settled k v hkv).2 (by simpa using hopen)
      refine ih (h.tail.insert hnew) hmem fun known hknown hsub => ?_
      exact hlast known hknown fun a ha => hsub a (contains_insert.2 (Or.inr ha))

/-- The last pass settles each open setting as told, where what is settled before it stays
known. -/
theorem flush_known {state : Rounds} (h : state.Holds P Q)
    (hlast : ∀ known, Known P known →
      (∀ a, state.1.contains a = true → known.contains a = true) →
      ∀ key value, Q key value → P key (expandOnce key value known true)) :
    Known P (flush state.1 state.2) := by
  obtain ⟨settled, pending⟩ := state
  show Known P (flush settled pending)
  fun_induction flush settled pending with
  | case1 => exact h.settled
  | case2 settled key value rest ih =>
    have hkey := h.pending key value (List.mem_cons_self ..)
    have hnew := hlast settled h.settled (fun _ ha => ha) key value hkey
    refine ih (h.tail.insert hnew) fun known hknown hsub => ?_
    exact hlast known hknown fun a ha => hsub a (contains_insert.2 (Or.inr ha))

end Holds

end BuildSettings.Setting
