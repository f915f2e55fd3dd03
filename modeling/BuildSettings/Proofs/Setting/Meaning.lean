import BuildSettings.Proofs.Setting.Filling
import BuildSettings.Proofs.Setting.Rounds
import Mathlib.Data.List.Chain
import Mathlib.Logic.Relation
import Mathlib.Tactic.Choose

/-!
# What the expansion of settings means

The rounds of `expandReferences` rewrite all settings side by side. `Meaning` says what should come
out, by recursion along the references of one setting. It has at most one value
(`Meaning.unique`), and one exists where the chains of references end (`Grounded`).

`expandReferences_meaning`: a setting whose chains of references end at existing settings, within
`rounds + 1` links, is expanded to what it means, whatever the other settings are.

The invariant of the rounds is `Rest`: filling in the rest of an open value still gives the meaning
of its setting. Progress is `settled_of_grounded`: each round settles the settings whose chains are
one link longer.
-/

namespace BuildSettings.Setting

variable {m : Settings} {n : Nat} {a b : String}

/-! ### The recursive meaning -/

/-- What a setting stands for: its value as it is where that has no reference. Otherwise every
reference is replaced by what the named setting stands for, changed by the modifier, and the
result loses the blanks at its ends. -/
inductive Meaning (m : Settings) : String → String → Prop
  | plain {key value : String} (hget : m.get? key = some value)
      (hclosed : hasReference value = false) : Meaning m key value
  | filled {key value : String} {σ : String → String} (hget : m.get? key = some value)
      (hopen : hasReference value = true) (hnames : ∀ a ∈ names value, Meaning m a (σ a)) :
      Meaning m key (fill σ value)

/-- A setting stands for one value only. Nothing is assumed of the settings: where there is a
meaning at all, its chains end. -/
theorem Meaning.unique {v w : String} (hv : Meaning m a v) (hw : Meaning m a w) : v = w := by
  induction hv generalizing w with
  | plain hget hclosed =>
    cases hw with
    | plain hget' _ => exact Option.some.inj (hget.symm.trans hget')
    | filled hget' hopen _ =>
      obtain rfl := Option.some.inj (hget.symm.trans hget')
      rw [hclosed] at hopen
      cases hopen
  | filled hget hopen _ ih =>
    cases hw with
    | plain hget' hclosed =>
      obtain rfl := Option.some.inj (hget.symm.trans hget')
      rw [hclosed] at hopen
      cases hopen
    | filled hget' _ hnames =>
      obtain rfl := Option.some.inj (hget.symm.trans hget')
      -- both are filled in with the meanings of the same names
      exact fill_congr fun b hb => ih b hb (hnames b hb)

/-! ### Chains of references -/

/-- The value of the setting `a` refers to `b`. -/
def Refers (m : Settings) (a b : String) : Prop :=
  ∃ value, m.get? a = some value ∧ b ∈ names value

/-- A chain of references, of any number of links, leads from one setting to the other. -/
def Reaches (m : Settings) : String → String → Prop :=
  Relation.ReflTransGen (Refers m)

/-- All chains of references from a setting have fewer than `n` links and pass only through
settings of `m` whose dollar signs all begin references. -/
def Grounded (m : Settings) : Nat → String → Prop
  | 0, _ => False
  | n + 1, key => ∃ value, m.get? key = some value ∧ DollarsRefer value.toList ∧
      ∀ a ∈ names value, Grounded m n a

instance decidableGrounded (m : Settings) : ∀ n key, Decidable (Grounded m n key)
  | 0, _ => .isFalse id
  | n + 1, key =>
    match h : m.get? key with
    | none => .isFalse fun ⟨_, hget, _⟩ => by
      rw [h] at hget
      cases hget
    | some value =>
      have := decidableGrounded m n
      decidable_of_iff (DollarsRefer value.toList ∧ ∀ a ∈ names value, Grounded m n a)
        ⟨fun hvalue => ⟨value, h, hvalue⟩,
          fun ⟨_, hget, hvalue⟩ => Option.some.inj (h.symm.trans hget) ▸ hvalue⟩

/-- One link fewer leads on from what a setting refers to. -/
theorem Grounded.refers_lt (h : Grounded m (n + 1) a) (hab : Refers m a b) : Grounded m n b := by
  obtain ⟨value, hget, -, hnames⟩ := h
  obtain ⟨value', hget', hb⟩ := hab
  obtain rfl := Option.some.inj (hget.symm.trans hget')
  exact hnames b hb

/-- A bound on the chains may be loosened. -/
theorem Grounded.succ (h : Grounded m n a) : Grounded m (n + 1) a := by
  induction n generalizing a with
  | zero => cases h
  | succ n ih =>
    obtain ⟨value, hget, hdollars, hnames⟩ := h
    exact ⟨value, hget, hdollars, fun b hb => ih (hnames b hb)⟩

theorem Grounded.refers (h : Grounded m n a) (hab : Refers m a b) : Grounded m n b := by
  cases n with
  | zero => cases h
  | succ n => exact (h.refers_lt hab).succ

theorem Grounded.mono {k : Nat} (h : Grounded m n a) (hk : n ≤ k) : Grounded m k a := by
  induction hk with
  | refl => exact h
  | step _ ih => exact ih.succ

/-- Chains that end within some of the settings end there for all of them. -/
theorem Grounded.of_isPart {part : Settings} (h : Grounded part n a) (hpart : part.IsPart m) :
    Grounded m n a := by
  induction n generalizing a with
  | zero => cases h
  | succ n ih =>
    obtain ⟨value, hget, hdollars, hnames⟩ := h
    exact ⟨value, hpart a value hget, hdollars, fun b hb => ih (hnames b hb)⟩

/-- No setting refers to itself where all chains end. -/
theorem Grounded.ne_of_refers (h : Grounded m n a) (hab : Refers m a b) : b ≠ a := by
  induction n with
  | zero => cases h
  | succ n ih =>
    intro heq
    exact ih (heq ▸ h.refers_lt hab) heq

/-- A grounded setting has a value, and each dollar sign in it begins a reference. -/
theorem Grounded.value (h : Grounded m n a) :
    ∃ value, m.get? a = some value ∧ DollarsRefer value.toList := by
  cases n with
  | zero => cases h
  | succ n =>
    obtain ⟨value, hget, hdollars, -⟩ := h
    exact ⟨value, hget, hdollars⟩

/-- All that a grounded setting reaches is grounded, however long the chain. -/
theorem Grounded.reaches (h : Grounded m n a) (hab : Reaches m a b) : Grounded m n b := by
  induction hab with
  | refl => exact h
  | tail _ hlink ih => exact ih.refers hlink

/-- The bound is what it says: a chain from the setting has fewer links. -/
theorem Grounded.length_lt (h : Grounded m n a) {chain : List String}
    (hchain : List.IsChain (Refers m) (a :: chain)) : chain.length < n := by
  induction n generalizing a chain with
  | zero => cases h
  | succ n ih =>
    cases chain with
    | nil => exact Nat.succ_pos n
    | cons b chain =>
      obtain ⟨hlink, hrest⟩ := List.isChain_cons_cons.1 hchain
      exact Nat.succ_lt_succ (ih (h.refers_lt hlink) hrest)

/-- Being grounded, in terms of what a setting reaches and of the chains from it; the claim about
expansion is stated in these terms. -/
theorem grounded_iff : Grounded m n a ↔
    (∀ b, Reaches m a b → ∃ value, m.get? b = some value ∧ DollarsRefer value.toList) ∧
      ∀ chain, List.IsChain (Refers m) (a :: chain) → chain.length < n := by
  refine ⟨fun h => ⟨fun b hab => (h.reaches hab).value, fun chain hchain => h.length_lt hchain⟩, ?_⟩
  induction n generalizing a with
  | zero =>
    rintro ⟨-, hshort⟩
    exact absurd (hshort [] (List.isChain_singleton a)) (Nat.not_lt_zero _)
  | succ n ih =>
    rintro ⟨hkeys, hshort⟩
    obtain ⟨value, hget, hdollars⟩ := hkeys a .refl
    refine ⟨value, hget, hdollars, fun b hb => ih ⟨fun c hbc => ?_, fun chain hchain => ?_⟩⟩
    · exact hkeys c (.head ⟨value, hget, hb⟩ hbc)
    · have hlong := hshort (b :: chain) (List.isChain_cons_cons.2 ⟨⟨value, hget, hb⟩, hchain⟩)
      exact Nat.lt_of_succ_lt_succ hlong

/-- Where all chains end a setting stands for some text, and that has no dollar sign. By induction
on the bound of the chains. -/
theorem Grounded.exists_meaning (h : Grounded m n a) :
    ∃ w, Meaning m a w ∧ '$' ∉ w.toList := by
  induction n generalizing a with
  | zero => cases h
  | succ n ih =>
    obtain ⟨value, hget, hdollars, hnames⟩ := h
    cases hopen : hasReference value with
    | false => exact ⟨value, .plain hget hopen, dollar_notMem_of_closed hdollars hopen⟩
    | true =>
      -- a function has to be chosen for all names, though only those of the value matter
      have hall : ∀ b, ∃ w, b ∈ names value → Meaning m b w ∧ '$' ∉ w.toList := by
        intro b
        by_cases hb : b ∈ names value
        · obtain ⟨w, hw⟩ := ih (hnames b hb)
          exact ⟨w, fun _ => hw⟩
        · exact ⟨"", fun hmem => absurd hmem hb⟩
      choose σ hσ using hall
      exact ⟨fill σ value, .filled hget hopen fun b hb => (hσ b hb).1,
        dollar_notMem_fill hdollars fun b hb => (hσ b hb).2⟩

/-- What a grounded setting stands for has no dollar sign, so putting it into another value begins
no reference there. -/
theorem Grounded.dollar_notMem (h : Grounded m n a) {w : String} (hw : Meaning m a w) :
    '$' ∉ w.toList := by
  obtain ⟨v, hv, hdollar⟩ := h.exists_meaning
  exact hv.unique hw ▸ hdollar

/-- The meanings of all settings that one refers to, as a function. -/
theorem Grounded.exists_meanings (h : Grounded m n a) :
    ∃ σ : String → String, ∀ b, Refers m a b → Meaning m b (σ b) := by
  have hall : ∀ b, ∃ w, Refers m a b → Meaning m b w := by
    intro b
    by_cases hb : Refers m a b
    · obtain ⟨w, hw, -⟩ := (h.refers hb).exists_meaning
      exact ⟨w, fun _ => hw⟩
    · exact ⟨"", fun hrefers => absurd hrefers hb⟩
  choose σ hσ using hall
  exact ⟨σ, hσ⟩

/-! ### What the rounds keep -/

/-- An open value of a setting that still stands for what the setting does. -/
structure Rest (m : Settings) (key value : String) : Prop where
  opened : hasReference value = true
  dollars : DollarsRefer value.toList
  refers : ∀ a ∈ names value, Refers m key a
  meaning : ∀ σ, (∀ a, Refers m key a → Meaning m a (σ a)) → Meaning m key (fill σ value)

/-- What is settled is what the setting stands for, where its chains end. -/
def SettledAs (m : Settings) (n : Nat) (key value : String) : Prop :=
  Grounded m n key → Meaning m key value

/-- What is open stands for the setting, where its chains end. -/
def OpenAs (m : Settings) (n : Nat) (key value : String) : Prop :=
  Grounded m n key → Rest m key value

section Expand

variable {key value : String} {known : Settings}

/-- The known settings that an open value refers to stand for texts without dollar signs. -/
theorem Rest.knownPlain (h : Rest m key value) (hkey : Grounded m n key)
    (hknown : Known (SettledAs m n) known) : KnownPlain known value := by
  intro a ha w hw
  have hground := hkey.refers (h.refers a ha)
  exact hground.dollar_notMem (hknown a w hw hground)

/-- An open value is closed when all settings that it refers to are known: each reference is
replaced by a text without dollar signs. -/
theorem Rest.closed (h : Rest m key value) (hkey : Grounded m n key)
    (hknown : Known (SettledAs m n) known)
    (hall : ∀ a, Refers m key a → known.contains a = true) :
    hasReference (expandOnce key value known false) = false := by
  rw [hasReference_eq_false_iff, List.eq_nil_iff_forall_not_mem]
  intro a ha
  obtain ⟨hmem, hleft⟩ := mem_names_expandOnce h.opened h.dollars (h.knownPlain hkey hknown) ha
  have hlink := h.refers a hmem
  rcases hleft with hnone | hself
  · have hcontains := hall a hlink
    rw [Dictionary.contains, hnone] at hcontains
    cases hcontains
  · exact hkey.ne_of_refers hlink hself

/-- What is known of the named settings is what they stand for. -/
theorem Rest.known_eq (h : Rest m key value) (hkey : Grounded m n key)
    (hknown : Known (SettledAs m n) known) {σ : String → String}
    (hσ : ∀ a, Refers m key a → Meaning m a (σ a)) :
    ∀ a ∈ names value, ∀ w, known.get? a = some w → w = σ a := by
  intro a ha w hw
  have hlink := h.refers a ha
  exact (hknown a w hw (hkey.refers hlink)).unique (hσ a hlink)

/-- The step lemma: expanding an open value keeps what it stands for, and a value that gets closed
is what it stands for. -/
theorem keeps_meaning : Keeps (SettledAs m n) (OpenAs m n) := by
  intro known hknown key value hvalue
  constructor
  · intro hopen hkey
    have hrest := hvalue hkey
    have hplain := hrest.knownPlain hkey hknown
    refine ⟨hopen, dollarsRefer_expandOnce hrest.opened hrest.dollars hplain, ?_, ?_⟩
    · intro a ha
      exact hrest.refers a (mem_names_expandOnce hrest.opened hrest.dollars hplain ha).1
    · intro σ hσ
      rw [fill_expandOnce hrest.opened hrest.dollars hplain (hrest.known_eq hkey hknown hσ)]
      exact hrest.meaning σ hσ
  · intro hclosed hkey
    have hrest := hvalue hkey
    have hplain := hrest.knownPlain hkey hknown
    obtain ⟨σ, hσ⟩ := hkey.exists_meanings
    rw [expandOnce_eq_fill hrest.opened hrest.dollars hplain (hrest.known_eq hkey hknown hσ)
      hclosed]
    exact hrest.meaning σ hσ

end Expand

/-! ### Progress -/

/-- The settings before the first round. -/
def Rounds.start (m : Settings) : Rounds :=
  (m.filter fun _ value => !hasReference value,
    (m.filter fun _ value => hasReference value).entries)

/-- At the start the settings without references are settled, with their own values. -/
theorem start_settled {value : String} :
    (Rounds.start m).1.get? a = some value ↔
      m.get? a = some value ∧ hasReference value = false := by
  rw [Rounds.start, Dictionary.get?_filter_eq_some]
  simp

/-- At the start the settings with references are open, with their own values. -/
theorem start_pending {value : String} :
    (a, value) ∈ (Rounds.start m).2 ↔ m.get? a = some value ∧ hasReference value = true := by
  rw [Rounds.start, ← Dictionary.get?_eq_some_iff, Dictionary.get?_filter_eq_some]

theorem start_has {value : String} (hget : m.get? a = some value) : (Rounds.start m).Has a := by
  cases hopen : hasReference value with
  | false => exact .inl (Option.isSome_iff_exists.2 ⟨value, start_settled.2 ⟨hget, hopen⟩⟩)
  | true => exact .inr (List.mem_map.2 ⟨(a, value), start_pending.2 ⟨hget, hopen⟩, rfl⟩)

/-- The rounds may start from a part of the settings. -/
theorem start_holds_of_isPart {part : Settings} (h : part.IsPart m) :
    (Rounds.start part).Holds (SettledAs m n) (OpenAs m n) := by
  refine ⟨fun key value hsettled _ => ?_, fun key value hpending hkey => ?_⟩
  · obtain ⟨hget, hclosed⟩ := start_settled.1 hsettled
    exact .plain (h key value hget) hclosed
  · obtain ⟨hpart, hopen⟩ := start_pending.1 hpending
    have hget := h key value hpart
    obtain ⟨value', hget', hdollars⟩ := hkey.value
    obtain rfl := Option.some.inj (hget.symm.trans hget')
    exact ⟨hopen, hdollars, fun a ha => ⟨value, hget, ha⟩,
      fun σ hσ => .filled hget hopen fun a ha => hσ a ⟨value, hget, ha⟩⟩

/-- At the start each value stands for its setting, for it is its own value. -/
theorem start_holds : (Rounds.start m).Holds (SettledAs m n) (OpenAs m n) :=
  start_holds_of_isPart (.refl m)

/-- After `k` rounds the settings with chains of at most `k` links are settled, by induction on the
rounds. -/
theorem settled_of_grounded {k : Nat} (hk : k < n) (h : Grounded m (k + 1) a) :
    (Rounds.step^[k] (Rounds.start m)).1.contains a = true := by
  induction k generalizing a with
  | zero =>
    obtain ⟨value, hget, -, hnames⟩ := h
    have hclosed := hasReference_eq_false_iff.2 (List.eq_nil_iff_forall_not_mem.2 hnames)
    exact Option.isSome_iff_exists.2 ⟨value, start_settled.2 ⟨hget, hclosed⟩⟩
  | succ k ih =>
    rw [Function.iterate_succ_apply']
    have hholds := iterate_step_holds keeps_meaning (start_holds (m := m) (n := n)) k
    obtain ⟨value, hget, -⟩ := h.value
    rcases (iterate_step_has k).2 (start_has hget) with hsettled | hpending
    · exact contains_sweep hsettled
    · obtain ⟨⟨key, rest⟩, hmem, rfl⟩ := List.mem_map.1 hpending
      -- still open: what it refers to was settled a round before, so it loses its last reference
      -- now
      have hkey : Grounded m n key := h.mono hk
      refine sweep_settles keeps_meaning hholds hmem fun known hknown hsub => ?_
      refine (hholds.pending key rest hmem hkey).closed hkey hknown fun b hb => ?_
      exact hsub b (ih (Nat.lt_of_succ_lt hk) (h.refers_lt hb))

/-! ### The expansion -/

/-- The expansion as a fixed number of rounds and the last pass, wherever the rounds stop. -/
theorem expandReferences_eq (m : Settings) : expandReferences m =
    flush (Rounds.step^[rounds] (Rounds.start m)).1 (Rounds.step^[rounds] (Rounds.start m)).2 := by
  rw [expandReferences, Rounds.start, ← sweeps_eq_iterate]

/-- The last pass settles open values as it should, if the settings with chains shorter by a link
are all settled before it. Then the order of the pass does not matter. -/
theorem flush_meaning {state : Rounds} (h : state.Holds (SettledAs m (n + 1)) (OpenAs m (n + 1)))
    (hsettled : ∀ a, Grounded m n a → state.1.contains a = true) :
    Known (SettledAs m (n + 1)) (flush state.1 state.2) := by
  refine flush_known h fun known hknown hsub key value hvalue hkey => ?_
  have hrest := hvalue hkey
  have hall : ∀ a, Refers m key a → known.contains a = true :=
    fun a ha => hsub a (hsettled a (hkey.refers_lt ha))
  have hdrop : expandOnce key value known true = expandOnce key value known false :=
    expandOnce_drop fun a ha =>
      ⟨hall a (hrest.refers a ha), hkey.ne_of_refers (hrest.refers a ha)⟩
  have hclosed := hrest.closed hkey hknown hall
  rw [hdrop]
  exact (keeps_meaning known hknown key value hvalue).2 hclosed hkey

/-- A grounded setting has its meaning in the result. The bound is two more than the number of
rounds: one for what is settled at the start, one for what the last pass settles. -/
theorem expandReferences_known (m : Settings) :
    Known (SettledAs m (rounds + 2)) (expandReferences m) := by
  rw [expandReferences_eq]
  refine flush_meaning (iterate_step_holds keeps_meaning start_holds rounds) fun a ha => ?_
  exact settled_of_grounded (Nat.lt_succ_of_lt (Nat.lt_succ_self rounds)) ha

theorem expandReferences_contains {value : String} (hget : m.get? a = some value) :
    (expandReferences m).contains a = true := by
  rw [expandReferences_eq, contains_flush]
  exact (iterate_step_has rounds).2 (start_has hget)

/-- A setting is expanded to what it stands for if every dollar sign of it and of the settings it
reaches begins a reference, every name refers to a setting, and no chain of references has more
than `rounds + 1` links. As a cycle makes chains of any length, there is none. The other
settings do not matter. -/
theorem expandReferences_meaning (m : Settings) (key : String)
    (hkeys : ∀ a, Reaches m key a → ∃ value, m.get? a = some value ∧ DollarsRefer value.toList)
    (hshort : ∀ chain, List.IsChain (Refers m) (key :: chain) → chain.length ≤ rounds + 1) :
    ∃ value, (expandReferences m).get? key = some value ∧
      ∀ w, Meaning m key w ↔ w = value := by
  have hground : Grounded m (rounds + 2) key :=
    grounded_iff.2 ⟨hkeys, fun chain hchain => Nat.lt_succ_of_le (hshort chain hchain)⟩
  obtain ⟨raw, hget, -⟩ := hground.value
  obtain ⟨value, hvalue⟩ := Option.isSome_iff_exists.1 (expandReferences_contains hget)
  have hmeaning := expandReferences_known m key value hvalue hground
  refine ⟨value, hvalue, fun w => ⟨fun hw => hw.unique hmeaning, ?_⟩⟩
  rintro rfl
  exact hmeaning

/-- A chain of `rounds + 1` links against the order of the names, from `A` to `L`, beside a longer
chain, a cycle, an unknown name and a dollar sign that begins no reference. -/
def deepSettings : Settings :=
  .ofList [("A", " $(B)/a "), ("B", "$(C:lower)/b"), ("C", "$\x7bD\x7d/C"), ("D", "$(E)/$(L)/d"),
    ("E", "$(F)/e"), ("F", "$(G)/f"), ("G", "$(H:upper)/g"), ("H", "$(I)/h"), ("I", "$(J:file)/i"),
    ("J", "$(K)/j.x"), ("K", "$(L)/k"), ("L", "root"), ("0", "$(A)"), ("BACK", "$(LOOP)"),
    ("LOOP", "$(BACK)"), ("LOST", "$(NOWHERE) $")]

theorem expandReferences_meaning_deep :
    Grounded deepSettings (rounds + 2) "A" ∧
      ∃ value, (expandReferences deepSettings).get? "A" = some value ∧
        ∀ w, Meaning deepSettings "A" w ↔ w = value := by
  have hground : Grounded deepSettings (rounds + 2) "A" := by decide +kernel
  obtain ⟨hkeys, hshort⟩ := grounded_iff.1 hground
  refine ⟨hground, expandReferences_meaning deepSettings "A" hkeys fun chain hchain => ?_⟩
  exact Nat.le_of_lt_succ (hshort chain hchain)

end BuildSettings.Setting
