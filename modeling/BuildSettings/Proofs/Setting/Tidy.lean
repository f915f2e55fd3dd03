import BuildSettings.Proofs.Setting.Inherit

/-!
# Tidy layers

Expansion is at its best where each dollar sign begins a reference and no value has the inherit
macro. Layers of such settings (`Tidy`) stay so when they are folded (`Layers.dollarsRefer_merged`),
which is how the result of one expansion can go into another.
-/

namespace BuildSettings.Setting

variable {value key : String} {settings : Settings} {layers : Layers}

/-- No value has the inherit macro, and each dollar sign of a value begins a reference. -/
def Tidy (settings : Settings) : Prop :=
  ∀ entry ∈ settings.entries, hasInherited entry.2 = false ∧ DollarsRefer entry.2.toList

instance (settings : Settings) : Decidable (Tidy settings) :=
  inferInstanceAs (Decidable (∀ entry ∈ settings.entries, _))

theorem Tidy.of_get? (h : Tidy settings) (hget : settings.get? key = some value) :
    hasInherited value = false ∧ DollarsRefer value.toList :=
  h (key, value) (Dictionary.get?_eq_some_iff.1 hget)

/-- Tidy settings stay so under other tidy ones. -/
theorem Tidy.extend {top : Settings} (h : Tidy settings) (htop : Tidy top) :
    Tidy (settings.extend top) := by
  rintro ⟨key, value⟩ hentry
  have hget := Dictionary.get?_eq_some_iff.2 hentry
  rw [Dictionary.get?_extend] at hget
  rcases Option.or_eq_some_iff.1 hget with hupper | ⟨-, hlower⟩
  · exact htop.of_get? hupper
  · exact h.of_get? hlower

/-- If all layers are tidy, then each dollar sign of a folded value begins a reference. -/
theorem Layers.dollarsRefer_merged
    (h : ∀ layer ∈ layers.request :: layers.custom :: (layers.target ++ layers.project), Tidy layer)
    (hget : layers.merged.get? key = some value) : DollarsRefer value.toList := by
  have hrefer : layers.AllRefer := fun layer hlayer entry hentry => (h layer hlayer entry hentry).2
  rw [get?_merged] at hget
  exact (plain_of_resolve hrefer hget).refers

end BuildSettings.Setting
