import BuildSettings.Proofs.Batch.Load

/-!
# The record that counts

A dump may have several records of one target, each for an action, with those of other targets
between them. One of them counts (`Counts`): the last for the action `build` or, where the target
has none for it, the first.

The records are read once, from left to right, and what is kept at any time is the record that
counts among those before (`get?_foldl_choose`). So it is chosen exactly if it counts
(`counting?_eq_some_iff`), and the records of other targets may be left out (`counting?_filter`).
-/

namespace BuildSettings.DumpRecord

variable {records : List DumpRecord} {r : DumpRecord} {target : String}

/-- The record is the one that counts for its target. -/
inductive Counts (records : List DumpRecord) (r : DumpRecord) : Prop
  | build {before after : List DumpRecord} (hsplit : records = before ++ r :: after)
      (hbuild : r.action = buildAction)
      (hlast : ∀ s ∈ after, s.target = r.target → s.action ≠ buildAction)
  | first {before after : List DumpRecord} (hsplit : records = before ++ r :: after)
      (hfirst : ∀ s ∈ before, s.target ≠ r.target)
      (hnone : ∀ s ∈ records, s.target = r.target → s.action ≠ buildAction)

/-- Whether the record is one of the target for the action `build`. -/
def isBuildOf (target : String) (r : DumpRecord) : Bool :=
  r.target == target && r.action == buildAction

theorem isBuildOf_iff : isBuildOf target r = true ↔ r.target = target ∧ r.action = buildAction := by
  rw [isBuildOf, Bool.and_eq_true, beq_iff_eq, beq_iff_eq]

/-- The last record for the action `build` is one behind which there is no other for the same
target. -/
theorem getLast?_filter_eq_some_iff :
    (records.filter (isBuildOf target)).getLast? = some r ↔
      isBuildOf target r = true ∧ ∃ before after, records = before ++ r :: after ∧
        ∀ s ∈ after, isBuildOf target s = false := by
  rw [List.getLast?_eq_head?_reverse, ← List.filter_reverse, List.head?_filter,
    List.find?_eq_some_iff_append]
  refine and_congr_right fun _ => ⟨?_, ?_⟩
  · rintro ⟨after, before, hsplit, hafter⟩
    refine ⟨before.reverse, after.reverse, ?_, fun s hs => ?_⟩
    · rw [← List.reverse_reverse records, hsplit]
      simp
    · simpa using hafter s (List.mem_reverse.1 hs)
  · rintro ⟨before, after, rfl, hafter⟩
    refine ⟨after.reverse, before.reverse, by simp, fun s hs => ?_⟩
    simpa using hafter s (List.mem_reverse.1 hs)

/-- There is none if no record of the target is for that action. -/
theorem getLast?_filter_eq_none_iff :
    (records.filter (isBuildOf target)).getLast? = none ↔
      ∀ s ∈ records, s.target = target → s.action ≠ buildAction := by
  rw [List.getLast?_eq_none_iff, List.filter_eq_nil_iff]
  simp only [isBuildOf_iff, not_and, ne_eq]

/-- What is chosen is what counts: the last record for the action `build`, or else the first one of
the target. -/
theorem counting?_eq_some_iff :
    counting? records target = some r ↔ Counts records r ∧ r.target = target := by
  have hcounting : counting? records target =
      ((records.filter (isBuildOf target)).getLast?).or (records.find? (·.target == target)) := rfl
  rw [hcounting, Option.or_eq_some_iff, getLast?_filter_eq_some_iff, getLast?_filter_eq_none_iff,
    List.find?_eq_some_iff_append]
  constructor
  · rintro (⟨hr, before, after, hsplit, hafter⟩ | ⟨hnone, hr, before, after, hsplit, hbefore⟩)
    · obtain ⟨rfl, hbuild⟩ := isBuildOf_iff.1 hr
      refine ⟨.build hsplit hbuild fun s hs htarget haction => ?_, rfl⟩
      exact Bool.eq_false_iff.1 (hafter s hs) (isBuildOf_iff.2 ⟨htarget, haction⟩)
    · obtain rfl := eq_of_beq hr
      exact ⟨.first hsplit (fun s hs => by simpa using hbefore s hs) hnone, rfl⟩
  · rintro ⟨hcounts, rfl⟩
    cases hcounts with
    | build hsplit hbuild hlast =>
      refine .inl ⟨isBuildOf_iff.2 ⟨rfl, hbuild⟩, _, _, hsplit, fun s hs => ?_⟩
      rw [Bool.eq_false_iff]
      intro hs'
      obtain ⟨htarget, haction⟩ := isBuildOf_iff.1 hs'
      exact hlast s hs htarget haction
    | first hsplit hfirst hnone =>
      exact .inr ⟨hnone, beq_self_eq_true _, _, _, hsplit, fun s hs => by simpa using hfirst s hs⟩

/-- The records of other targets do not matter. -/
theorem counting?_filter (records : List DumpRecord) (target : String) :
    counting? (records.filter (·.target == target)) target = counting? records target := by
  have hbuild : (fun s : DumpRecord => s.target == target && s.action == buildAction &&
      s.target == target) = fun s => s.target == target && s.action == buildAction := by
    funext s
    cases s.target == target <;> simp
  have hfirst : (fun s : DumpRecord => decide ((s.target == target) = true ∧
      (s.target == target) = true)) = fun s => s.target == target := by
    funext s
    cases s.target == target <;> simp
  rw [counting?, counting?, List.filter_filter, List.find?_filter, hbuild, hfirst]

/-- **Grouping**: there is one entry for each target that has a record, and it has the settings of
the record that counts, each as one text. The records of other targets do not matter. -/
theorem grouped_of_counts (records : List DumpRecord) :
    (grouped records).keys.Nodup ∧
    (∀ target, target ∈ (grouped records).keys ↔ ∃ r ∈ records, r.target = target) ∧
    (∀ target settings, (grouped records).get? target = some settings ↔
      ∃ r, Counts records r ∧ r.target = target ∧
        ∀ key, settings.get? key = (r.settings.get? key).map SettingValue.flat) ∧
    ∀ target, (grouped records).get? target =
      (grouped (records.filter (·.target == target))).get? target := by
  refine ⟨?_, fun target => ?_, fun target settings => ?_, fun target => ?_⟩
  · have hascending : (grouped records).keys.Pairwise (· < ·) :=
      List.pairwise_map.2 (grouped records).ascending
    exact hascending.imp String.ne_of_lt
  · rw [Dictionary.mem_keys_iff]
    exact isSome_get?_grouped
  · rw [get?_grouped, Option.map_eq_some_iff]
    constructor
    · rintro ⟨r, hcounting, rfl⟩
      obtain ⟨hcounts, htarget⟩ := counting?_eq_some_iff.1 hcounting
      exact ⟨r, hcounts, htarget, fun key => Dictionary.get?_map _ _ key⟩
    · rintro ⟨r, hcounts, htarget, hflat⟩
      refine ⟨r, counting?_eq_some_iff.2 ⟨hcounts, htarget⟩, Dictionary.ext_get? fun key => ?_⟩
      rw [hflat key]
      exact Dictionary.get?_map _ _ key
  · rw [get?_grouped, get?_grouped, counting?_filter]

/-- The last record for the action `build` counts, and what comes behind it does not. -/
example :
    let record (target action sdk : String) : DumpRecord :=
      ⟨target, action, .ofList [("SDKROOT", .text sdk)]⟩
    (grouped [record "App" "test" "a", record "Lib" "archive" "b", record "App" "build" "c",
      record "Lib" "test" "d", record "App" "build" "e", record "App" "test" "f"]) =
    .ofList [("App", .ofList [("SDKROOT", "e")]), ("Lib", .ofList [("SDKROOT", "b")])] := by
  decide +kernel

end BuildSettings.DumpRecord
