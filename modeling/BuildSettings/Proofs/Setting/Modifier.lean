import BuildSettings.Setting.Reference

/-!
# Modifiers bring in no dollar sign

A value without dollar signs keeps having none under every modifier (`dollar_notMem_modify`), so
a settled value that is put into another one never begins a reference there.

Identifiers replace characters by fixed ones and the path modifiers take parts of the value. For
the two case mappings it is a fact about their tables: no run and no expansion has the code point
of the dollar sign among its images (`dollar_notMem_runs`, `dollar_notMem_expansions`).
-/

namespace BuildSettings.Text

/-- The images of a run of code points form an interval. -/
theorem CaseRun.image?_mem {run : CaseRun} {n k : Nat} (h : run.image? n = some k) (hk : 0 < k) :
    run.first + run.shift ≤ k ∧ (k : Int) ≤ run.last + run.shift := by
  unfold image? at h
  split at h
  next hrange =>
    obtain rfl := Option.some.inj h
    obtain ⟨hfirst, hlast, -⟩ := hrange
    omega
  next => cases h

/-- No run of the case tables takes a code point to that of the dollar sign, 36. -/
theorem dollar_notMem_runs : ∀ run ∈ lowerRuns ++ upperRuns,
    ¬ ((run.first : Int) + run.shift ≤ 36 ∧ 36 ≤ (run.last : Int) + run.shift) := by
  decide +kernel

/-- Nor does an expansion to several characters hold it. -/
theorem dollar_notMem_expansions : ∀ e ∈ lowerExpansions ++ upperExpansions,
    '$' ∉ e.2.map Char.ofNat := by
  decide +kernel

/-- The dollar sign is the only character with its code point. -/
theorem toNat_of_ofNat_eq_dollar {n : Nat} (h : '$' = Char.ofNat n) : n = 36 := by
  have hnat : 36 = (Char.ofNat n).toNat := congrArg Char.toNat h
  by_cases hvalid : n.isValidChar
  · rw [Char.ofNat, dif_pos hvalid] at hnat
    exact hnat.symm
  · rw [Char.ofNat, dif_neg hvalid] at hnat
    cases hnat

/-- The case mappings take nothing but the dollar sign to one, which they leave as it is. -/
theorem dollar_mem_mapCase {runs : List CaseRun} {expansions : List (Nat × List Nat)}
    (hruns : runs ⊆ lowerRuns ++ upperRuns)
    (hexpansions : expansions ⊆ lowerExpansions ++ upperExpansions) {c : Char}
    (h : '$' ∈ mapCase runs expansions c) : c = '$' := by
  unfold mapCase at h
  split at h
  next image himage =>
    have hmem : (c.toNat, image) ∈ expansions := by
      obtain ⟨l₁, l₂, rfl, -⟩ := List.lookup_eq_some_iff.1 himage
      simp
    exact absurd h (dollar_notMem_expansions _ (hexpansions hmem))
  next =>
    split at h
    next n hn =>
      have hcode := toNat_of_ofNat_eq_dollar (List.mem_singleton.1 h)
      obtain ⟨run, hrun, himage⟩ := List.exists_of_findSome?_eq_some hn
      subst hcode
      exact absurd (CaseRun.image?_mem himage (by decide)) (dollar_notMem_runs _ (hruns hrun))
    next => exact (List.mem_singleton.1 h).symm

/-- Lower case brings in no dollar sign, whatever stands before: the final sigma, the one character
that depends on its place, goes to a sigma. -/
theorem dollar_notMem_lowerFrom {before cs : List Char} (h : '$' ∉ cs) :
    '$' ∉ lowerFrom before cs := by
  induction cs generalizing before with
  | nil => simp [lowerFrom]
  | cons c cs ih =>
    obtain ⟨hc, hcs⟩ := not_or.1 (mt List.mem_cons.2 h)
    rw [lowerFrom]
    refine fun hmem => (List.mem_append.1 hmem).elim (fun himage => ?_) (ih hcs)
    split at himage
    next =>
      split at himage
      next => exact absurd himage (by decide)
      next => exact absurd himage (by decide)
    next =>
      have hmap := dollar_mem_mapCase (List.subset_append_left _ _) (List.subset_append_left _ _)
        himage
      exact hc hmap.symm

theorem dollar_notMem_lower {s : String} (h : '$' ∉ s.toList) : '$' ∉ (lower s).toList := by
  simpa [lower] using dollar_notMem_lowerFrom h

theorem dollar_notMem_upper {s : String} (h : '$' ∉ s.toList) : '$' ∉ (upper s).toList := by
  rw [upper, String.toList_ofList]
  intro hmem
  obtain ⟨c, hc, himage⟩ := List.mem_flatMap.1 hmem
  have hmap := dollar_mem_mapCase (List.subset_append_right _ _) (List.subset_append_right _ _)
    himage
  exact h (hmap ▸ hc)

theorem isWordChar_of_mem_wordChars {cs : List Char} : ∀ c ∈ wordChars cs, isWordChar c = true := by
  intro c hmem
  obtain ⟨d, -, rfl⟩ := List.mem_map.1 hmem
  split
  next hword => exact hword
  next => decide

/-- An identifier has word characters only, whatever it is made from. -/
theorem isWordChar_of_mem_c99Identifier {s : String} :
    ∀ c ∈ (c99Identifier s).toList, isWordChar c = true := by
  have hword : ∀ c ∈ wordChars s.toList, isWordChar c = true := isWordChar_of_mem_wordChars
  unfold c99Identifier
  split
  next => simp
  next d ds hds =>
    rw [hds] at hword
    rw [String.toList_ofList]
    split
    next => exact List.forall_mem_cons.2 ⟨by decide, hword⟩
    next => exact hword

theorem dollar_notMem_c99Identifier (s : String) : '$' ∉ (c99Identifier s).toList :=
  fun hmem => absurd (isWordChar_of_mem_c99Identifier _ hmem) (by decide)

/-- A host name has letters, digits, hyphens and dots. -/
theorem dollar_notMem_rfc1034Identifier (s : String) :
    '$' ∉ (rfc1034Identifier s).toList := by
  rw [rfc1034Identifier, String.toList_ofList]
  intro hmem
  obtain ⟨c, -, hc⟩ := List.mem_map.1 hmem
  split at hc
  next hkept =>
    rw [hc] at hkept
    exact absurd hkept (by decide)
  next => exact absurd hc (by decide)

end BuildSettings.Text

namespace BuildSettings.Setting

/-- The last name of a path is a part of it. -/
theorem lastName_subset (cs : List Char) : lastName cs ⊆ cs := by
  unfold lastName
  split
  next before name hcut =>
    rw [Text.eq_of_cutLast? hcut]
    exact fun c hc => List.mem_append_right _ (List.mem_cons_of_mem _ hc)
  next => exact fun c hc => hc

/-- Modifiers bring in no dollar sign: identifiers have none, the case mappings make none, and parts
of a path are parts of the value. -/
theorem dollar_notMem_modify (modifier : String) {value : String} (h : '$' ∉ value.toList) :
    '$' ∉ (modify modifier value).toList := by
  have hname : '$' ∉ lastName value.toList := fun hmem => h (lastName_subset _ hmem)
  have hcut : ∀ {sep : Char} {cs before after : List Char}, '$' ∉ cs →
      Text.cutLast? sep cs = some (before, after) → '$' ∉ before ∧ '$' ∉ after := by
    intro sep cs before after hcs heq
    rw [Text.eq_of_cutLast? heq] at hcs
    exact ⟨fun hmem => hcs (List.mem_append_left _ hmem),
      fun hmem => hcs (List.mem_append_right _ (List.mem_cons_of_mem _ hmem))⟩
  unfold modify
  simp only
  split
  next => exact Text.dollar_notMem_c99Identifier value
  split
  next => exact Text.dollar_notMem_rfc1034Identifier value
  split
  next => exact Text.dollar_notMem_lower h
  split
  next => exact Text.dollar_notMem_upper h
  split
  next =>
    -- `base`: what stands before the last dot of the name
    split
    next base ext heq => simpa using (hcut hname heq).1
    next => simpa using hname
  split
  next => simpa using hname
  split
  next =>
    -- `dir`: what stands before the last slash, with that slash
    split
    next dir name heq => simpa using (hcut h heq).1
    next => simp
  split
  next =>
    -- `suffix`: the last dot of the name and what stands behind it
    split
    next base ext heq => simpa using (hcut hname heq).2
    next => simp
  exact h

/-- What a reference makes of a value without dollar signs has none. -/
theorem Reference.dollar_notMem_apply (r : Reference) {value : String} (h : '$' ∉ value.toList) :
    '$' ∉ (r.apply value).toList := by
  unfold apply
  split
  next => exact h
  next m _ => exact dollar_notMem_modify _ h

/-- No modifier makes anything of nothing. -/
theorem modify_empty (modifier : String) : modify modifier "" = "" := by
  unfold modify
  simp only
  -- one branch for each modifier, and the last for an unknown one
  iterate 8
    split
    next => rfl
  rfl

/-- Each modifier leaves the empty text empty, so an unknown name may be dropped with its modifier.
-/
theorem Reference.apply_empty (r : Reference) : r.apply "" = "" := by
  unfold apply
  split
  next => rfl
  next m _ => exact modify_empty _

end BuildSettings.Setting
