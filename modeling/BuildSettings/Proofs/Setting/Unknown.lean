import BuildSettings.Proofs.Setting.Course

/-!
# Unknown names

A reference to a name that is no setting should count as empty. `withEmpty` makes that a map: it
has an empty entry for each unknown name, so what a setting stands for there (`Meaning`) is what it
should be expanded to.

A setting that meets an unknown name stays open in all rounds. In the last pass the settings are
expanded in the order of their names, so another setting that refers to it finds it only if it comes
later in that order.

* `expandReferences_withEmpty` — where each setting that meets an unknown name is referred to by
  later settings only, unknown names are as good as empty entries.
* `expandReferences_withEmpty_early` — a setting that comes before the one it refers to loses its
  value.
-/

namespace BuildSettings.Setting

variable {m : Settings} {n : Nat} {a b key value : String}

/-! ### Empty entries for unknown names -/

/-- The names that the settings refer to. -/
def referred (m : Settings) : List String :=
  m.entries.flatMap fun e => names e.2

/-- The names that are referred to, as the end of some link. -/
theorem mem_referred : b ∈ referred m ↔ ∃ a, Refers m a b := by
  rw [referred, List.mem_flatMap]
  constructor
  · rintro ⟨⟨a, value⟩, hmem, hb⟩
    exact ⟨a, value, Dictionary.get?_eq_some_iff.2 hmem, hb⟩
  · rintro ⟨a, value, hget, hb⟩
    exact ⟨(a, value), Dictionary.get?_eq_some_iff.1 hget, hb⟩

/-- The settings with an empty value for each name that they refer to and do not have. -/
def withEmpty (m : Settings) : Settings :=
  (Dictionary.ofList ((referred m).map fun name => (name, ""))).extend m

/-- An entry that is there keeps its value, and a name that is only referred to has an empty one. -/
theorem get?_withEmpty (m : Settings) (a : String) :
    (withEmpty m).get? a = (m.get? a).or (if a ∈ referred m then some "" else none) := by
  rw [withEmpty, Dictionary.get?_extend, Dictionary.get?_ofList, ← List.map_reverse,
    Dictionary.lookup_map_pair]
  simp only [List.mem_reverse]

theorem isPart_withEmpty (m : Settings) : m.IsPart (withEmpty m) := by
  intro a value hget
  rw [get?_withEmpty, hget, Option.some_or]

theorem get?_withEmpty_of_refers (hrefers : Refers m a b) (hnone : m.get? b = none) :
    (withEmpty m).get? b = some "" := by
  rw [get?_withEmpty, hnone, Option.none_or, if_pos (mem_referred.2 ⟨a, hrefers⟩)]

/-- The entries are the settings and the empty ones. -/
theorem get?_withEmpty_cases (hget : (withEmpty m).get? a = some value) :
    m.get? a = some value ∨ m.get? a = none ∧ value = "" := by
  rw [get?_withEmpty] at hget
  cases hraw : m.get? a with
  | some raw =>
    rw [hraw, Option.some_or] at hget
    exact .inl hget
  | none =>
    rw [hraw, Option.none_or] at hget
    split at hget
    · exact .inr ⟨rfl, (Option.some.inj hget).symm⟩
    · cases hget

/-- Empty entries refer to nothing. -/
theorem refers_withEmpty : Refers (withEmpty m) a b ↔ Refers m a b := by
  constructor
  · rintro ⟨value, hget, hb⟩
    rcases get?_withEmpty_cases hget with hraw | ⟨-, rfl⟩
    · exact ⟨value, hraw, hb⟩
    · cases hb
  · rintro ⟨value, hget, hb⟩
    exact ⟨value, isPart_withEmpty m a value hget, hb⟩

/-- The empty entries refer to nothing, so the links are the same. -/
theorem refers_withEmpty_eq (m : Settings) : Refers (withEmpty m) = Refers m :=
  funext fun _ => funext fun _ => propext refers_withEmpty

/-- A setting reaches an unknown name, or is one. -/
def MeetsUnknown (m : Settings) (a : String) : Prop :=
  ∃ u, Reaches m a u ∧ m.get? u = none

/-- A setting that refers to one that meets an unknown name meets it too. -/
theorem MeetsUnknown.of_refers (hab : Refers m a b) (hb : MeetsUnknown m b) :
    MeetsUnknown m a := by
  obtain ⟨u, hreach, hnone⟩ := hb
  exact ⟨u, .head hab hreach, hnone⟩

/-- A setting that meets no unknown name does without the empty entries. -/
theorem Grounded.of_withEmpty (h : Grounded (withEmpty m) n a) (hknown : ¬ MeetsUnknown m a) :
    Grounded m n a := by
  induction n generalizing a with
  | zero => cases h
  | succ n ih =>
    obtain ⟨value, hget, hdollars, hnames⟩ := h
    rcases get?_withEmpty_cases hget with hraw | ⟨hnone, -⟩
    · refine ⟨value, hraw, hdollars, fun b hb => ih (hnames b hb) fun hmeets => hknown ?_⟩
      exact hmeets.of_refers ⟨value, hraw, hb⟩
    · exact absurd ⟨a, .refl, hnone⟩ hknown

/-- With the empty entries all chains from a setting end at settings: a name that was missing has a
value now, and it refers to nothing. -/
theorem grounded_withEmpty (hkey : m.contains key = true)
    (hdollars : ∀ a value, Reaches m key a → m.get? a = some value → DollarsRefer value.toList)
    (hshort : ∀ chain, List.IsChain (Refers m) (key :: chain) → chain.length < n) :
    Grounded (withEmpty m) n key := by
  rw [grounded_iff, Reaches, refers_withEmpty_eq]
  refine ⟨fun a ha => ?_, hshort⟩
  cases hget : m.get? a with
  | some value => exact ⟨value, isPart_withEmpty m a value hget, hdollars a value ha hget⟩
  | none =>
    rcases ha.cases_tail with rfl | ⟨b, -, hlink⟩
    · rw [Dictionary.contains, hget] at hkey
      cases hkey
    · exact ⟨"", get?_withEmpty_of_refers hlink hget, by decide⟩

/-! ### The last pass in order -/

/-- What has an empty entry stands for nothing. -/
theorem meaning_withEmpty_of_unknown (hab : Refers m a b) (hnone : m.get? b = none) :
    Meaning (withEmpty m) b "" :=
  .plain (get?_withEmpty_of_refers hab hnone) rfl

/-- After the rounds each value is as good as with the empty entries, though the rounds have not
seen them: a reference to an unknown name is still open then. -/
theorem last_holds_withEmpty (m : Settings) :
    (Rounds.last m).Holds (SettledAs (withEmpty m) (rounds + 2))
      (OpenAs (withEmpty m) (rounds + 2)) :=
  iterate_step_holds keeps_meaning (start_holds_of_isPart (isPart_withEmpty m)) rounds

/-- When the last pass gets to `a`, it knows what comes before `a` and what meets no unknown
name. -/
theorem contains_of_last_open {known : Settings} (hsettled : (Rounds.last m).1.IsPart known)
    (hsmaller : ∀ c, m.contains c = true → c < a → known.contains c = true)
    (hground : Grounded (withEmpty m) (rounds + 1) b) (hb : m.contains b = true)
    (hlater : MeetsUnknown m b → b < a) : known.contains b = true := by
  by_cases hmeets : MeetsUnknown m b
  · exact hsmaller b hb (hlater hmeets)
  · exact hsettled.contains (last_contains_of_grounded (hground.of_withEmpty hmeets))

/-- A setting is expanded to what it stands for with the empty entries, if settings that meet an
unknown name are always referred to by later settings. The induction is on the length of the
chains, since the last pass takes the values it needs from settings with shorter ones. -/
theorem expandReferences_meaning_withEmpty
    (hlater : ∀ a b, Reaches m key a → Refers m a b → m.contains b = true → MeetsUnknown m b →
      b < a)
    (hn : n ≤ rounds + 2) (ha : Reaches m key a) (hground : Grounded (withEmpty m) n a)
    (hvalue : (expandReferences m).get? a = some value) : Meaning (withEmpty m) a value := by
  induction n generalizing a value with
  | zero => cases hground
  | succ n ih =>
    have hcontains := contains_expandReferences.1 (Dictionary.contains_iff.2 ⟨value, hvalue⟩)
    rcases expandReferences_cases hcontains with ⟨w, hw, hfinal⟩ | ⟨rest, hmem⟩
    · obtain rfl := Option.some.inj (hvalue.symm.trans hfinal)
      exact (last_holds_withEmpty m).settled a value hw (hground.mono hn)
    · -- the last pass fills the value in, if it finds the final values of what is referred to
      obtain ⟨known, hsettled, hpart, hfinal, hsmaller⟩ := last_open hmem
      obtain rfl := Option.some.inj (hvalue.symm.trans hfinal)
      have hrest := (last_holds_withEmpty m).pending a rest hmem (hground.mono hn)
      obtain ⟨σ, hσ⟩ := hground.exists_meanings
      rw [expandOnce_drop_eq_fill hrest.opened fun b hb => ?_]
      · exact hrest.meaning σ hσ
      have hlink' := hrest.refers b hb
      have hlink := refers_withEmpty.1 hlink'
      have hshort := hground.refers_lt hlink'
      cases hget : m.get? b with
      | none =>
        -- an unknown name is dropped, and its empty entry stands for nothing
        have hlost := hpart.get?_eq_none (get?_expandReferences_of_none hget)
        have hempty := (hσ b hlink').unique (meaning_withEmpty_of_unknown hlink hget)
        exact .inr ⟨hlost, hempty⟩
      | some raw =>
        have hb := Dictionary.contains_iff.2 ⟨raw, hget⟩
        have hknown := contains_of_last_open hsettled hsmaller
          (hshort.mono (Nat.le_of_succ_le_succ hn)) hb (hlater a b ha hlink hb)
        obtain ⟨w, hw⟩ := Dictionary.contains_iff.1 hknown
        have hmeaning := ih (Nat.le_of_succ_le hn) (ha.tail hlink) hshort (hpart b w hw)
        obtain rfl := hmeaning.unique (hσ b hlink')
        exact .inl ⟨hw, hground.ne_of_refers hlink'⟩

/-- Unknown names count as empty for a setting with chains of at most `rounds + 1` links, if on the
way along its references each setting that meets an unknown name stands before those that refer to
it. It is then expanded to what it stands for with the empty entries, and so to the same value. -/
theorem expandReferences_withEmpty
    (hdollars : ∀ a value, Reaches m key a → m.get? a = some value → DollarsRefer value.toList)
    (hshort : ∀ chain, List.IsChain (Refers m) (key :: chain) → chain.length ≤ rounds + 1)
    (hlater : ∀ a b, Reaches m key a → Refers m a b → m.contains b = true → MeetsUnknown m b →
      b < a)
    (hkey : m.contains key = true) :
    ∃ value, (expandReferences m).get? key = some value ∧
      (expandReferences (withEmpty m)).get? key = some value ∧
      Meaning (withEmpty m) key value := by
  have hground := grounded_withEmpty hkey hdollars fun chain h => Nat.lt_succ_of_le (hshort chain h)
  obtain ⟨value, hvalue⟩ := Dictionary.contains_iff.1 (contains_expandReferences.2 hkey)
  have hmeaning := expandReferences_meaning_withEmpty hlater (Nat.le_refl _) .refl hground hvalue
  obtain ⟨raw, hraw⟩ := Dictionary.contains_iff.1 hkey
  obtain ⟨value', hvalue'⟩ := Dictionary.contains_iff.1
    (expandReferences_contains (isPart_withEmpty m key raw hraw))
  have hmeaning' := expandReferences_known (withEmpty m) key value' hvalue' hground
  exact ⟨value, hvalue, hmeaning'.unique hmeaning ▸ hvalue', hmeaning⟩

/-- A setting with chains that end at settings meets no unknown name. -/
theorem Grounded.not_meetsUnknown (h : Grounded m n a) : ¬ MeetsUnknown m a := by
  rintro ⟨u, hreach, hnone⟩
  obtain ⟨value, hget, -⟩ := (h.reaches hreach).value
  rw [hnone] at hget
  cases hget

/-- `A` and `B` meet an unknown name and stand before what refers to them; `Z` meets none. -/
def lateSettings : Settings :=
  .ofList [("A", "x$(GONE) $(Z)"), ("B", " $\x7bA:upper\x7d/$(Z:suffix) "),
    ("C", "$(B)$(A)-$(NOWHERE)"), ("Z", "$(ZZ).app"), ("ZZ", "z")]

theorem expandReferences_withEmpty_late :
    Grounded (withEmpty lateSettings) (rounds + 2) "C" ∧ MeetsUnknown lateSettings "B" ∧
      ∃ value, (expandReferences lateSettings).get? "C" = some value ∧
        (expandReferences (withEmpty lateSettings)).get? "C" = some value ∧
        Meaning (withEmpty lateSettings) "C" value := by
  have hground : Grounded (withEmpty lateSettings) (rounds + 2) "C" := by decide +kernel
  have hdollars : ∀ e ∈ lateSettings.entries, DollarsRefer e.2.toList := by decide +kernel
  have horder : ∀ e ∈ lateSettings.entries, ∀ b ∈ names e.2,
      b < e.1 ∨ lateSettings.contains b = false ∨ Grounded lateSettings 3 b := by decide +kernel
  have hmeets : MeetsUnknown lateSettings "B" := by
    have hlink : Refers lateSettings "B" "A" := ⟨_, rfl, by decide +kernel⟩
    have hlost : Refers lateSettings "A" "GONE" := ⟨_, rfl, by decide +kernel⟩
    exact .of_refers hlink (.of_refers hlost ⟨"GONE", .refl, by decide +kernel⟩)
  refine ⟨hground, hmeets, expandReferences_withEmpty ?_ ?_ ?_ (by decide +kernel)⟩
  · exact fun a value _ hget => hdollars (a, value) (Dictionary.get?_eq_some_iff.1 hget)
  · intro chain hchain
    exact Nat.le_of_lt_succ (hground.length_lt (refers_withEmpty_eq lateSettings ▸ hchain))
  · rintro a b - ⟨value, hget, hb⟩ hcontains hunknown
    rcases horder (a, value) (Dictionary.get?_eq_some_iff.1 hget) b hb with hlt | hlost | hplain
    · exact hlt
    · rw [hcontains] at hlost
      cases hlost
    · exact absurd hunknown hplain.not_meetsUnknown

/-- `A` stands before the setting that it refers to, which meets an unknown name. -/
def earlySettings : Settings :=
  .ofList [("A", "$(B)"), ("B", "x$(U)")]

/-- Without the condition on the order unknown names are not as good as empty entries: `A` is
expanded to nothing, though `B` is expanded to `x`. -/
theorem expandReferences_withEmpty_early :
    ¬ ∀ m : Settings, (∀ a value, m.get? a = some value → DollarsRefer value.toList) →
      (∀ a chain, List.IsChain (Refers m) (a :: chain) → chain.length ≤ rounds) →
      ∀ key, m.contains key = true →
        (expandReferences m).get? key = (expandReferences (withEmpty m)).get? key := by
  intro hall
  have hdollars : ∀ e ∈ earlySettings.entries, DollarsRefer e.2.toList := by decide +kernel
  have hground : ∀ e ∈ earlySettings.entries, Grounded (withEmpty earlySettings) 3 e.1 := by
    decide +kernel
  have hequal := hall earlySettings ?_ ?_ "A" (by decide +kernel)
  · revert hequal
    decide +kernel
  · exact fun a value hget => hdollars (a, value) (Dictionary.get?_eq_some_iff.1 hget)
  · intro a chain hchain
    cases chain with
    | nil => exact Nat.zero_le _
    | cons b chain =>
      obtain ⟨⟨value, hget, -⟩, -⟩ := List.isChain_cons_cons.1 hchain
      have hkey := hground (a, value) (Dictionary.get?_eq_some_iff.1 hget)
      have hshort := hkey.length_lt (refers_withEmpty_eq earlySettings ▸ hchain)
      exact (Nat.le_of_lt_succ hshort).trans (by decide)

end BuildSettings.Setting
