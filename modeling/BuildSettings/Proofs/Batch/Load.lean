import BuildSettings.Batch
import Mathlib.Data.List.Basic

/-!
# Loads that end in any order

The loads of a batch end in any order, but what comes of them is read in the order of the groups.
So the batch is that of the groups with their outcomes (`load_eq_loadInto`), whatever ended first.
It fails with the first outcome, in the order of the groups, that is not a list of records. Otherwise
it has the settings of a target from the last group that offers them; a group offers those of the
targets that it wants and of which its dump has a record.

* `get?_grouped` — the record of a target that counts.
* `find?_addGroup`, `find?_of_loadInto` — the settings that one group and that all of them give.
* `load_arrivals` — what comes of a batch.
-/

namespace BuildSettings

/-! ### Records -/

namespace DumpRecord

/-- The record of a target that counts: the last one for the action `build`, else the first. -/
def counting? (records : List DumpRecord) (target : String) : Option DumpRecord :=
  ((records.filter fun r => r.target == target && r.action == buildAction).getLast?).or
    (records.find? (·.target == target))

/-- One record changes what is chosen for its own target only, and there it comes in if it is for
the action `build` or if there is none yet. -/
theorem get?_choose (chosen : Dictionary DumpRecord) (r : DumpRecord) (target : String) :
    (choose chosen r).get? target =
      if r.target = target then
        if r.action = buildAction then some r else (chosen.get? target).or (some r)
      else chosen.get? target := by
  unfold choose
  by_cases htarget : r.target = target
  · rw [if_pos htarget, ← htarget]
    by_cases hbuild : r.action = buildAction
    · have hnot : ¬ (chosen.contains r.target && r.action != buildAction) = true := by
        simp [hbuild]
      rw [if_pos hbuild, if_neg hnot, Dictionary.get?_insert_self]
    · rw [if_neg hbuild]
      cases hget : chosen.get? r.target with
      | none =>
        have hnot : ¬ (chosen.contains r.target && r.action != buildAction) = true := by
          simp [Dictionary.contains, hget]
        rw [if_neg hnot, Dictionary.get?_insert_self]
        rfl
      | some first =>
        have hkept : (chosen.contains r.target && r.action != buildAction) = true := by
          simp [Dictionary.contains, hget, hbuild]
        rw [if_pos hkept, hget]
        rfl
  · rw [if_neg htarget]
    split
    · rfl
    · exact Dictionary.get?_insert_of_ne _ _ (Ne.symm htarget)

/-- A record for the action `build` replaces those before it, and any other only the lack of one. So
the last record for `build` counts, then what was chosen before, then the first record. -/
theorem get?_foldl_choose (records : List DumpRecord) (chosen : Dictionary DumpRecord)
    (target : String) :
    (records.foldl choose chosen).get? target =
      ((records.filter fun r => r.target == target && r.action == buildAction).getLast?).or
        ((chosen.get? target).or (records.find? (·.target == target))) := by
  induction records generalizing chosen with
  | nil => simp
  | cons r records ih =>
    rw [List.foldl_cons, ih, get?_choose]
    by_cases htarget : r.target = target
    · have hfirst : (r :: records).find? (·.target == target) = some r :=
        List.find?_cons_of_pos (beq_iff_eq.2 htarget)
      rw [if_pos htarget, hfirst]
      by_cases hbuild : r.action = buildAction
      · rw [if_pos hbuild, List.filter_cons_of_pos (by simp [htarget, hbuild]), List.getLast?_cons]
        cases (records.filter fun r => r.target == target && r.action == buildAction).getLast? <;> rfl
      · rw [if_neg hbuild, List.filter_cons_of_neg (by simp [hbuild])]
        cases chosen.get? target <;> rfl
    · rw [if_neg htarget, List.filter_cons_of_neg (by simp [htarget]),
        List.find?_cons_of_neg (by simpa using htarget)]

/-- A target has the settings of the record that counts for it, each as one text. -/
theorem get?_grouped (records : List DumpRecord) (target : String) :
    (grouped records).get? target = (counting? records target).map flat := by
  unfold grouped counting?
  rw [Dictionary.get?_map, get?_foldl_choose, Dictionary.get?_empty, Option.none_or]

/-- A target has settings if it has a record. -/
theorem isSome_get?_grouped {records : List DumpRecord} {target : String} :
    ((grouped records).get? target).isSome ↔ ∃ r ∈ records, r.target = target := by
  rw [get?_grouped, Option.isSome_map, counting?, Option.isSome_or, Bool.or_eq_true]
  constructor
  · rintro (hlast | hfirst)
    · obtain ⟨r, hr⟩ := Option.isSome_iff_exists.1 hlast
      obtain ⟨hmem, hkept⟩ := List.mem_filter.1 (List.mem_of_getLast? hr)
      exact ⟨r, hmem, eq_of_beq (Bool.and_eq_true_iff.1 hkept).1⟩
    · obtain ⟨r, hmem, htarget⟩ := List.find?_isSome.1 hfirst
      exact ⟨r, hmem, eq_of_beq htarget⟩
  · rintro ⟨r, hmem, htarget⟩
    exact .inr (List.find?_isSome.2 ⟨r, hmem, beq_iff_eq.2 htarget⟩)

end DumpRecord

namespace Batch

/-! ### Groups -/

/-- Entering the settings of one target changes no other target, in its own project or in another
one. -/
theorem find?_add (batch : Batch) (id other : TargetId) (settings : Settings) :
    (batch.add id settings).find? other =
      if other.project = id.project ∧ other.name = id.name then some settings
      else batch.find? other := by
  unfold add find?
  rw [Dictionary.get?_insert]
  by_cases hproject : other.project = id.project
  · rw [if_pos hproject, Option.bind_some, Dictionary.get?_insert]
    by_cases hname : other.name = id.name
    · rw [if_pos hname, if_pos ⟨hproject, hname⟩]
    · rw [if_neg hname, if_neg fun h => hname h.2, hproject]
      cases batch.get? id.project <;> rfl
  · rw [if_neg hproject, if_neg fun h => hproject h.1]

/-- Of several entries with a name the last one stays. -/
theorem find?_foldl_add (project : String) (entries : List (String × Settings)) (batch : Batch)
    (id : TargetId) :
    (entries.foldl (fun batch e => batch.add ⟨project, e.1⟩ e.2) batch).find? id =
      (if project = id.project then entries.reverse.lookup id.name else none).or
        (batch.find? id) := by
  induction entries generalizing batch with
  | nil => split <;> rfl
  | cons e entries ih =>
    rw [List.foldl_cons, ih, find?_add, List.reverse_cons, List.lookup_append]
    by_cases hproject : project = id.project
    · rw [if_pos hproject, if_pos hproject, Option.or_assoc]
      congr 1
      by_cases hname : id.name = e.1
      · rw [if_pos ⟨hproject.symm, hname⟩, Dictionary.lookup_cons_eq, if_pos hname]
        rfl
      · rw [if_neg fun h => hname h.2, Dictionary.lookup_cons_eq, if_neg hname]
        rfl
    · rw [if_neg hproject, if_neg hproject, if_neg fun h => hproject h.1.symm]

/-- What a group with its outcome has for a target. -/
def offer? (id : TargetId) (run : LoadGroup × LoadOutcome) : Option Settings :=
  match run.2 with
  | .records records =>
    if run.1.project = id.project ∧ run.1.wants id.name then
      (DumpRecord.grouped records).get? id.name
    else none
  | _ => none

/-- The step lemma: a group changes the settings of the targets that it wants and has some for, and
leaves those of all others as they are. -/
theorem find?_addGroup (batch : Batch) (group : LoadGroup) (records : List DumpRecord)
    (id : TargetId) :
    (batch.addGroup group records).find? id =
      (offer? id (group, .records records)).or (batch.find? id) := by
  -- the entries that are taken are those of a dictionary, so their order does not matter
  have hlookup : ((DumpRecord.grouped records).entries.filter fun e => group.wants e.1).reverse.lookup
      id.name = ((DumpRecord.grouped records).get? id.name).filter fun _ => group.wants id.name := by
    have hfilter := Dictionary.get?_filter (fun key _ => group.wants key)
      (DumpRecord.grouped records) id.name
    rw [← hfilter]
    exact Dictionary.lookup_reverse
      ((DumpRecord.grouped records).filter fun key _ => group.wants key).ascending id.name
  unfold addGroup offer?
  dsimp only
  rw [find?_foldl_add, hlookup]
  congr 1
  by_cases hproject : group.project = id.project
  · by_cases hwants : group.wants id.name = true
    · rw [if_pos hproject, if_pos ⟨hproject, hwants⟩, hwants]
      cases (DumpRecord.grouped records).get? id.name <;> rfl
    · rw [if_pos hproject, if_neg fun h => hwants h.2, Bool.eq_false_iff.2 hwants]
      cases (DumpRecord.grouped records).get? id.name <;> rfl
  · rw [if_neg hproject, if_neg fun h => hproject h.1]

/-- A group offers the settings of a target if it is for the target's project, wants the target, did
load, and has a record that counts for it. -/
theorem offer?_eq_some_iff {id : TargetId} {run : LoadGroup × LoadOutcome} {settings : Settings} :
    offer? id run = some settings ↔
      run.1.project = id.project ∧ run.1.wants id.name = true ∧
        ∃ records, run.2 = .records records ∧
          (DumpRecord.grouped records).get? id.name = some settings := by
  obtain ⟨group, outcome⟩ := run
  unfold offer?
  cases outcome with
  | records records =>
    dsimp only
    by_cases htaken : group.project = id.project ∧ group.wants id.name = true
    · rw [if_pos htaken]
      constructor
      · intro hget
        exact ⟨htaken.1, htaken.2, records, rfl, hget⟩
      · rintro ⟨-, -, records', hrecords, hget⟩
        obtain rfl := LoadOutcome.records.inj hrecords
        exact hget
    · rw [if_neg htaken]
      exact iff_of_false (by simp) fun h => htaken ⟨h.1, h.2.1⟩
  | failure error => simp
  | crash => simp

/-- The group has some settings for the target: it wants them, and its dump has a record of it. -/
def Offers (id : TargetId) (run : LoadGroup × LoadOutcome) : Prop :=
  run.1.project = id.project ∧ run.1.wants id.name = true ∧
    ∃ records, run.2 = .records records ∧ ∃ r ∈ records, r.target = id.name

/-- What it takes to offer something does not depend on what is offered. -/
theorem isSome_offer?_iff {id : TargetId} {run : LoadGroup × LoadOutcome} :
    (offer? id run).isSome ↔ Offers id run := by
  rw [Option.isSome_iff_exists]
  constructor
  · rintro ⟨settings, hoffer⟩
    obtain ⟨hproject, hwants, records, hrecords, hget⟩ := offer?_eq_some_iff.1 hoffer
    refine ⟨hproject, hwants, records, hrecords, ?_⟩
    exact DumpRecord.isSome_get?_grouped.1 (Option.isSome_iff_exists.2 ⟨settings, hget⟩)
  · rintro ⟨hproject, hwants, records, hrecords, hrecord⟩
    obtain ⟨settings, hget⟩ :=
      Option.isSome_iff_exists.1 (DumpRecord.isSome_get?_grouped.2 hrecord)
    exact ⟨settings, offer?_eq_some_iff.2 ⟨hproject, hwants, records, hrecords, hget⟩⟩

/-! ### Groups in their order -/

/-- Why a group has no records. -/
def failure? (run : LoadGroup × LoadOutcome) : Option LoadError :=
  match run.2.toExcept run.1.project with
  | .error error => some error
  | .ok _ => none

/-- The outcome is a list of records. -/
def Succeeds (run : LoadGroup × LoadOutcome) : Prop :=
  ∃ records, run.2 = .records records

/-- A load that has no failure gave records. -/
theorem failure?_eq_none_iff {run : LoadGroup × LoadOutcome} :
    failure? run = none ↔ Succeeds run := by
  obtain ⟨group, outcome⟩ := run
  unfold Succeeds
  cases outcome with
  | records records => exact iff_of_true rfl ⟨records, rfl⟩
  | failure error => exact iff_of_false (by simp [failure?, LoadOutcome.toExcept]) (by simp)
  | crash => exact iff_of_false (by simp [failure?, LoadOutcome.toExcept]) (by simp)

/-- A load fails with its own error, or with one that names its project if it was broken off. -/
theorem failure?_eq_some_iff {run : LoadGroup × LoadOutcome} {error : LoadError} :
    failure? run = some error ↔
      run.2 = .failure error ∨ run.2 = .crash ∧ error = .crashed run.1.project := by
  obtain ⟨group, outcome⟩ := run
  cases outcome <;> simp [failure?, LoadOutcome.toExcept, eq_comm]

/-- The first failure ends it, so the error is that of the first group in the list that has one,
whatever the batch had before. -/
theorem loadInto_eq_error_iff {runs : List (LoadGroup × LoadOutcome)} {error : LoadError}
    (batch : Batch) : loadInto batch runs = .error error ↔ runs.findSome? failure? = some error := by
  induction runs generalizing batch with
  | nil => exact iff_of_false (by simp [loadInto]) (by simp)
  | cons run runs ih =>
    obtain ⟨group, outcome⟩ := run
    -- a group with records goes on into the batch, which says nothing of failures
    rw [loadInto, List.findSome?_cons, failure?]
    cases outcome.toExcept group.project with
    | error first => simp
    | ok records => exact ih (batch.addGroup group records)

/-- The run lemma: the last group that has some settings for a target decides about them. Before all
groups stands what the batch had already. -/
theorem find?_of_loadInto {runs : List (LoadGroup × LoadOutcome)} {batch result : Batch}
    (h : loadInto batch runs = .ok result) (id : TargetId) :
    result.find? id = (runs.reverse.findSome? (offer? id)).or (batch.find? id) := by
  induction runs generalizing batch with
  | nil =>
    obtain rfl := Except.ok.inj h
    rfl
  | cons run runs ih =>
    obtain ⟨group, outcome⟩ := run
    rw [loadInto] at h
    cases outcome with
    | records records =>
      rw [ih h, find?_addGroup, List.reverse_cons, List.findSome?_append, Option.or_assoc,
        List.findSome?_singleton]
    | failure error => cases h
    | crash => cases h

/-! ### Arrivals -/

/-- The ends of all loads in the order of their groups. -/
def endings (runs : List (LoadGroup × LoadOutcome)) : List Arrival :=
  runs.zipIdx.map fun (run, position) => ⟨position, run.2⟩

variable {runs : List (LoadGroup × LoadOutcome)} {arrivals : List Arrival}

/-- Each load ends once, so its end is found wherever it stands among the arrivals. This is the only
place where the order of arrivals comes in. -/
theorem outcomeAt_of_perm (h : arrivals.Perm (endings runs)) {position : Nat}
    (hposition : position < runs.length) :
    Arrival.outcomeAt arrivals position = (runs[position]).2 := by
  have hmem : ∀ arrival, arrival ∈ arrivals ↔
      ∃ run, runs[arrival.position]? = some run ∧ arrival.outcome = run.2 := by
    intro arrival
    rw [h.mem_iff, endings, List.mem_map]
    constructor
    · rintro ⟨⟨run, i⟩, hrun, rfl⟩
      exact ⟨run, List.mem_zipIdx_iff_getElem?.1 hrun, rfl⟩
    · rintro ⟨run, hrun, houtcome⟩
      refine ⟨(run, arrival.position), List.mem_zipIdx_iff_getElem?.2 hrun, ?_⟩
      show (⟨arrival.position, run.2⟩ : Arrival) = arrival
      rw [← houtcome]
  -- whatever end is found first for the position is the only one that there is
  unfold Arrival.outcomeAt
  cases hfind : arrivals.find? (·.position == position) with
  | none =>
    have hthere : (⟨position, (runs[position]).2⟩ : Arrival) ∈ arrivals :=
      (hmem _).2 ⟨runs[position], List.getElem?_eq_getElem hposition, rfl⟩
    exact absurd (beq_self_eq_true position) (List.find?_eq_none.1 hfind _ hthere)
  | some arrival =>
    obtain ⟨run, hrun, houtcome⟩ := (hmem arrival).1 (List.mem_of_find?_eq_some hfind)
    have hfound : arrival.position = position := by
      have htest := List.find?_some hfind
      exact eq_of_beq htest
    rw [hfound, List.getElem?_eq_getElem hposition] at hrun
    obtain rfl := Option.some.inj hrun
    exact houtcome

/-- The order in which the loads end does not matter: the groups are gone through in their own order
in any case. -/
theorem load_eq_loadInto (h : arrivals.Perm (endings runs)) :
    load (runs.map (·.1)) arrivals = loadInto ∅ runs := by
  unfold load
  congr 1
  refine List.ext_getElem (by simp) fun position hlength hposition => ?_
  rw [List.getElem_map, List.getElem_zipIdx, List.getElem_map, Nat.zero_add]
  show (runs[position].1, Arrival.outcomeAt arrivals position) = runs[position]
  rw [outcomeAt_of_perm h hposition]

/-- Loads that end one after the other, in the order of the groups, are one of the orders in which
they may end. -/
theorem loadEach_eq_loadInto (fetch : LoadGroup → LoadOutcome) (groups : List LoadGroup) :
    loadEach fetch groups = loadInto ∅ (groups.map fun group => (group, fetch group)) := by
  let runs := groups.map fun group => (group, fetch group)
  have hgroups : runs.map (·.1) = groups := by
    rw [List.map_map]
    exact List.map_id groups
  have hends : endings runs = groups.zipIdx.map fun p => ⟨p.2, fetch p.1⟩ := by
    rw [endings, List.zipIdx_map, List.map_map]
    rfl
  have hload := load_eq_loadInto (List.Perm.refl (endings runs))
  rw [hgroups, hends] at hload
  exact hload

/-! ### Batches -/

/-- A batch fails if a load did, in whatever order the loads ended. -/
theorem exists_load_error_iff (h : arrivals.Perm (endings runs)) :
    (∃ error, load (runs.map (·.1)) arrivals = .error error) ↔ ∃ run ∈ runs, ¬ Succeeds run := by
  rw [load_eq_loadInto h]
  simp only [loadInto_eq_error_iff]
  rw [← Option.isSome_iff_exists, List.findSome?_isSome_iff]
  simp only [← failure?_eq_none_iff, ← Option.ne_none_iff_isSome, ne_eq]

/-- The last of the groups that offer something decides. -/
theorem find?_load (h : arrivals.Perm (endings runs)) {batch : Batch}
    (hbatch : load (runs.map (·.1)) arrivals = .ok batch) (id : TargetId) :
    batch.find? id = runs.reverse.findSome? (offer? id) := by
  rw [load_eq_loadInto h] at hbatch
  rw [find?_of_loadInto hbatch]
  exact Option.or_none

/-- A group that offers nothing leaves the target as it is. -/
theorem offer?_eq_none_iff {id : TargetId} {run : LoadGroup × LoadOutcome} :
    offer? id run = none ↔ ¬ Offers id run := by
  rw [← isSome_offer?_iff, Bool.not_eq_true, Option.isSome_eq_false_iff, Option.isNone_iff_eq_none]

/-- The settings of a target in the batch are those of the last group that offers some, spelled out:
the groups behind it offer nothing. -/
theorem find?_load_eq_some_iff (h : arrivals.Perm (endings runs)) {batch : Batch}
    (hbatch : load (runs.map (·.1)) arrivals = .ok batch) {id : TargetId} {settings : Settings} :
    batch.find? id = some settings ↔
      ∃ before group records after, runs = before ++ (group, .records records) :: after ∧
        Offers id (group, .records records) ∧ (∀ r ∈ after, ¬ Offers id r) ∧
        (DumpRecord.grouped records).get? id.name = some settings := by
  rw [find?_load h hbatch, List.findSome?_eq_some_iff]
  constructor
  · rintro ⟨after, ⟨group, outcome⟩, before, hsplit, hoffer, hafter⟩
    obtain ⟨-, -, records, rfl, hget⟩ := offer?_eq_some_iff.1 hoffer
    refine ⟨before.reverse, group, records, after.reverse, ?_, ?_, fun r hr => ?_, hget⟩
    · rw [← List.reverse_reverse runs, hsplit, List.reverse_append, List.reverse_cons,
        List.append_assoc]
      rfl
    · exact isSome_offer?_iff.1 (Option.isSome_iff_exists.2 ⟨settings, hoffer⟩)
    · exact offer?_eq_none_iff.1 (hafter r (List.mem_reverse.1 hr))
  · rintro ⟨before, group, records, after, rfl, hoffers, hafter, hget⟩
    refine ⟨after.reverse, (group, .records records), before.reverse, ?_, ?_, fun r hr => ?_⟩
    · rw [List.reverse_append, List.reverse_cons, List.append_assoc]
      rfl
    · exact offer?_eq_some_iff.2 ⟨hoffers.1, hoffers.2.1, records, rfl, hget⟩
    · exact offer?_eq_none_iff.2 (hafter r (List.mem_reverse.1 hr))

/-- Two groups of one project, which both have a record of `Lib`, and one that wants `Lib` alone. -/
def overlappingRuns : List (LoadGroup × LoadOutcome) :=
  [(⟨"/w/A.xcodeproj", []⟩, .records
      [⟨"App", "test", .ofList [("SDKROOT", .text "iphonesimulator")]⟩,
        ⟨"App", "build", .ofList [("SDKROOT", .text "iphoneos")]⟩, ⟨"Lib", "test", ∅⟩]),
    (⟨"/w/B.xcodeproj", ["Lib"]⟩, .records [⟨"App", "build", ∅⟩]),
    (⟨"/w/A.xcodeproj", ["Lib", "Kit"]⟩, .records
      [⟨"Lib", "archive", .ofList [("SDKROOT", .text "macosx")]⟩, ⟨"App", "archive", ∅⟩])]

/-- **Loads**: in whatever order they end, the batch fails exactly if some load did not give
records, and with the error of the first such group in the list. Otherwise it has the settings of
the targets that groups want and have records of, each as the last such group has them. -/
theorem load_arrivals (h : arrivals.Perm (endings runs)) :
    let result := load (runs.map (·.1)) arrivals
    ((∃ error, result = .error error) ↔ ∃ run ∈ runs, ¬ Succeeds run) ∧
    (∀ error, result = .error error ↔
      ∃ before run after, runs = before ++ run :: after ∧ (∀ r ∈ before, Succeeds r) ∧
        (run.2 = .failure error ∨ run.2 = .crash ∧ error = .crashed run.1.project)) ∧
    ∀ batch, result = .ok batch → ∀ id,
      ((batch.find? id).isSome ↔ ∃ run ∈ runs, Offers id run) ∧
      ∀ settings, batch.find? id = some settings ↔
        ∃ before group records after, runs = before ++ (group, .records records) :: after ∧
          Offers id (group, .records records) ∧ (∀ r ∈ after, ¬ Offers id r) ∧
          (DumpRecord.grouped records).get? id.name = some settings := by
  intro result
  refine ⟨exists_load_error_iff h, fun error => ?_, fun batch hbatch id => ⟨?_, fun settings => ?_⟩⟩
  · show load _ arrivals = _ ↔ _
    rw [load_eq_loadInto h, loadInto_eq_error_iff, List.findSome?_eq_some_iff]
    constructor
    · rintro ⟨before, run, after, hsplit, hfailure, hbefore⟩
      exact ⟨before, run, after, hsplit, fun r hr => failure?_eq_none_iff.1 (hbefore r hr),
        failure?_eq_some_iff.1 hfailure⟩
    · rintro ⟨before, run, after, hsplit, hbefore, hfailure⟩
      exact ⟨before, run, after, hsplit, failure?_eq_some_iff.2 hfailure,
        fun r hr => failure?_eq_none_iff.2 (hbefore r hr)⟩
  · rw [find?_load h hbatch, List.findSome?_isSome_iff]
    simp only [List.mem_reverse, isSome_offer?_iff]
  · exact find?_load_eq_some_iff h hbatch

/-- The last load ends first, and the groups overlap in their targets. In the second run a crash is
reported and not the failure that stands behind it. -/
theorem load_arrivals_overlapping :
    let failing := overlappingRuns ++
      [(⟨"/w/C.xcodeproj", []⟩, .crash), (⟨"/w/D.xcodeproj", []⟩, .failure (.refused "D" "no"))]
    (∃ batch, load (overlappingRuns.map (·.1)) (endings overlappingRuns).reverse = .ok batch ∧
      batch.find? ⟨"/w/A.xcodeproj", "App"⟩ = some (.ofList [("SDKROOT", "iphoneos")]) ∧
      batch.find? ⟨"/w/A.xcodeproj", "Lib"⟩ = some (.ofList [("SDKROOT", "macosx")]) ∧
      (batch.find? ⟨"/w/B.xcodeproj", "App"⟩).isSome = false) ∧
    load (failing.map (·.1)) (endings failing).reverse = .error (.crashed "/w/C.xcodeproj") := by
  intro failing
  have hsucceed : ∀ run ∈ overlappingRuns, Succeeds run := by
    intro run hrun
    exact failure?_eq_none_iff.1
      ((by decide : ∀ run ∈ overlappingRuns, failure? run = none) run hrun)
  obtain ⟨herror, -, hfind⟩ := load_arrivals (List.reverse_perm (endings overlappingRuns))
  obtain ⟨-, hfirst, -⟩ := load_arrivals (List.reverse_perm (endings failing))
  constructor
  · cases hload : load (overlappingRuns.map (·.1)) (endings overlappingRuns).reverse with
    | error error =>
      obtain ⟨run, hrun, hfails⟩ := herror.1 ⟨error, hload⟩
      exact absurd (hsucceed run hrun) hfails
    | ok batch =>
      refine ⟨batch, rfl, ?_, ?_, ?_⟩
      · -- the first group is the last that wants `App` and has a record of it
        have hafter : ∀ r ∈ overlappingRuns.drop 1, offer? ⟨"/w/A.xcodeproj", "App"⟩ r = none := by
          decide
        exact ((hfind batch hload _).2 _).2 ⟨[], _, _, _, rfl, isSome_offer?_iff.1 (by decide),
          fun r hr => offer?_eq_none_iff.1 (hafter r hr), by decide⟩
      · exact ((hfind batch hload _).2 _).2 ⟨overlappingRuns.take 2, _, _, [], rfl,
          isSome_offer?_iff.1 (by decide), fun r hr => absurd hr (List.not_mem_nil), by decide⟩
      · have hnone : ∀ r ∈ overlappingRuns, offer? ⟨"/w/B.xcodeproj", "App"⟩ r = none := by
          decide
        rw [Bool.eq_false_iff]
        intro hsome
        obtain ⟨run, hrun, hoffers⟩ := (hfind batch hload _).1.1 hsome
        exact offer?_eq_none_iff.1 (hnone run hrun) hoffers
  · exact (hfirst _).2 ⟨overlappingRuns, (⟨"/w/C.xcodeproj", []⟩, .crash), _, rfl, hsucceed,
      .inr ⟨rfl, rfl⟩⟩

end Batch

end BuildSettings
