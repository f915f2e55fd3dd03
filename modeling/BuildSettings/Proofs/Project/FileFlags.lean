import BuildSettings.Project.Basic
import BuildSettings.Proofs.Path.Steps

/-!
# Flags of single files

Flags are given for a reference to a file, which is relative to the folder of the project. They are
looked up for the whole path of a file, and there any reference fits whose steps are the last steps
of the path: `main.c` fits `net/main.c` as well. Of several references that fit, the first one
counts. So the flags of a file are its own only if no smaller reference fits it too, and a file for
which no flags are given can have those of another one.

* `isReferenceTo_join` — the references that fit a file below the folder of the project.
* `flagsFor?_of_first` — the reference that counts.
* `flagListFor?_join` — the flags of a file.
-/

namespace BuildSettings

namespace Dictionary

variable {α : Type} {d : Dictionary α} {p : String → Bool} {key : String} {value : α}

/-- Entries ascend, so the first one that satisfies `p` is the one with the smallest key. -/
theorem find?_entries_of_first (hget : d.get? key = some value) (hp : p key = true)
    (hfirst : ∀ k ∈ d.keys, k < key → p k = false) :
    d.entries.find? (fun e => p e.1) = some (key, value) := by
  obtain ⟨before, after, hsplit⟩ := List.append_of_mem (get?_eq_some_iff.1 hget)
  refine List.find?_eq_some_iff_append.2 ⟨hp, before, after, hsplit, fun e he => ?_⟩
  -- what stands in front of the entry has a smaller key
  have hlt : e.1 < key := by
    have hascending := d.ascending
    rw [hsplit] at hascending
    exact (List.pairwise_append.1 hascending).2.2 e he _ (List.mem_cons_self ..)
  have hkey : e.1 ∈ d.keys := by
    refine List.mem_map_of_mem ?_
    rw [hsplit]
    exact List.mem_append_left _ he
  rw [hfirst e.1 hkey hlt]
  rfl

/-- Where no key has a property no entry is found by it. -/
theorem find?_entries_of_none (h : ∀ k ∈ d.keys, p k = false) :
    d.entries.find? (fun e => p e.1) = none := by
  refine List.find?_eq_none.2 fun e he => ?_
  rw [h e.1 (List.mem_map_of_mem he)]
  decide

end Dictionary

/-! ### References -/

/-- The last steps to the file are those of the reference. -/
def Project.Fits (project : Project) (reference file : String) : Prop :=
  Path.components ⟨reference⟩ <:+ project.folder.components ++ Path.components ⟨file⟩

instance (project : Project) (reference file : String) : Decidable (project.Fits reference file) :=
  inferInstanceAs (Decidable (_ <:+ _))

namespace Target

variable {project : Project} {target : Target} {file reference : String}

/-- In terms of pieces: a reference is meant for a file below the folder of the project exactly if
it fits. -/
theorem isReferenceTo_join (hfile : Path.IsPlain ⟨file⟩) (href : Path.IsPlain ⟨reference⟩) :
    isReferenceTo reference (project.folder / file) = true ↔ project.Fits reference file := by
  unfold isReferenceTo Path.same Path.endsWith Project.Fits
  rw [Path.components_join hfile, href.isAbsolute_eq_false, Bool.or_eq_true, Bool.not_false,
    Bool.true_and, List.isSuffixOf_iff_suffix]
  constructor
  · rintro (hsame | hends)
    · exact eq_of_beq hsame ▸ List.suffix_refl _
    · exact hends
  · intro hends
    exact .inr hends

theorem fits_self (project : Project) (file : String) : project.Fits file file :=
  List.suffix_append _ _

/-- Of the references that fit, the smallest counts. Which one was meant for the file does not
matter, nor how much of the path a reference has. -/
theorem flagsFor?_of_first {flags : String} (hfile : Path.IsPlain ⟨file⟩)
    (hkeys : ∀ key ∈ target.fileFlags.keys, Path.IsPlain ⟨key⟩)
    (hget : target.fileFlags.get? reference = some flags) (hfits : project.Fits reference file)
    (hfirst : ∀ key ∈ target.fileFlags.keys, key < reference → ¬ project.Fits key file) :
    target.flagsFor? (project.folder / file) = some flags := by
  have hmem : reference ∈ target.fileFlags.keys :=
    Dictionary.mem_keys_iff.2 (Option.isSome_iff_exists.2 ⟨flags, hget⟩)
  -- the keys are tried in their order, so those before the reference must not fit
  have hfind := Dictionary.find?_entries_of_first
    (p := fun key => isReferenceTo key (project.folder / file)) hget
    ((isReferenceTo_join hfile (hkeys reference hmem)).2 hfits) fun key hkey hlt => by
      rw [Bool.eq_false_iff]
      exact mt (isReferenceTo_join hfile (hkeys key hkey)).1 (hfirst key hkey hlt)
  unfold flagsFor?
  rw [hfind]
  rfl

/-- A file that no reference fits has no flags. -/
theorem flagsFor?_of_none (hfile : Path.IsPlain ⟨file⟩)
    (hkeys : ∀ key ∈ target.fileFlags.keys, Path.IsPlain ⟨key⟩)
    (hnone : ∀ key ∈ target.fileFlags.keys, ¬ project.Fits key file) :
    target.flagsFor? (project.folder / file) = none := by
  have hfind := Dictionary.find?_entries_of_none (d := target.fileFlags)
    (p := fun key => isReferenceTo key (project.folder / file)) fun key hkey => by
      rw [Bool.eq_false_iff]
      exact mt (isReferenceTo_join hfile (hkeys key hkey)).1 (hnone key hkey)
  unfold flagsFor?
  rw [hfind]
  rfl

/-- Flags come from references that fit, so none are taken from elsewhere. -/
theorem exists_of_flagsFor? {flags : String} (hfile : Path.IsPlain ⟨file⟩)
    (hkeys : ∀ key ∈ target.fileFlags.keys, Path.IsPlain ⟨key⟩)
    (h : target.flagsFor? (project.folder / file) = some flags) :
    ∃ reference, target.fileFlags.get? reference = some flags ∧ project.Fits reference file := by
  obtain ⟨entry, hfind, rfl⟩ := Option.map_eq_some_iff.1 h
  have hmem := List.mem_of_find?_eq_some hfind
  have hreference : isReferenceTo entry.1 (project.folder / file) = true := by
    have hfound := List.find?_some hfind
    exact hfound
  have hkey : entry.1 ∈ target.fileFlags.keys := List.mem_map_of_mem hmem
  exact ⟨entry.1, Dictionary.get?_eq_some_iff.2 hmem,
    (isReferenceTo_join hfile (hkeys entry.1 hkey)).1 hreference⟩

/-! ### Lists of flags -/

/-- The flags in a text, if there are any. -/
def nonemptyFlags? (flags : String) : Option (List String) :=
  if Text.splitList flags = [] then none else some (Text.splitList flags)

/-- Flags as a list are there if they have a token; a text of blanks counts as no flags. -/
theorem flagListFor?_eq (path : Path) :
    target.flagListFor? path = (target.flagsFor? path).bind nonemptyFlags? := by
  unfold flagListFor?
  cases target.flagsFor? path with
  | none => rfl
  | some flags =>
    show Option.filter _ (some (Text.splitList flags)) = nonemptyFlags? flags
    unfold nonemptyFlags?
    -- a text of blanks has no tokens, and then there is no list
    by_cases hempty : Text.splitList flags = []
    · rw [hempty]
      rfl
    · rw [if_neg hempty, Option.filter_some, if_pos]
      cases hlist : Text.splitList flags with
      | nil => exact absurd hlist hempty
      | cons flag rest => rfl

/-- A target with flags for references of which some fit the same files. -/
def flaggedTarget : Target where
  name := "App"
  sourceFiles := ["core/main.c", "tools/core/main.c", "tools/x.c", "y.c"]
  fileFlags := .ofList [("core/main.c", "-g \"-DA B\""), ("main.c", "-w"), ("y.c", " ")]

/-- **Flags of a file**: those given for the file, unless a smaller reference fits it; without any,
those of the smallest reference that fits; and none if no reference fits. They are never those of a
reference that does not fit. -/
theorem flagListFor?_join (project : Project) (target : Target) {file : String}
    (hfile : Path.IsPlain ⟨file⟩) (hkeys : ∀ key ∈ target.fileFlags.keys, Path.IsPlain ⟨key⟩) :
    let found := target.flagListFor? (project.folder / file)
    (∀ flags, target.fileFlags.get? file = some flags →
      (∀ key ∈ target.fileFlags.keys, key < file → ¬ project.Fits key file) →
      found = nonemptyFlags? flags) ∧
    (target.fileFlags.get? file = none → ∀ reference flags,
      target.fileFlags.get? reference = some flags → project.Fits reference file →
      (∀ key ∈ target.fileFlags.keys, key < reference → ¬ project.Fits key file) →
      found = nonemptyFlags? flags) ∧
    ((∀ key ∈ target.fileFlags.keys, ¬ project.Fits key file) → found = none) ∧
    (∀ list, found = some list → ∃ reference flags,
      target.fileFlags.get? reference = some flags ∧ project.Fits reference file ∧
        nonemptyFlags? flags = some list) := by
  intro found
  have hfound : found = (target.flagsFor? (project.folder / file)).bind nonemptyFlags? :=
    flagListFor?_eq _
  refine ⟨fun flags hget hfirst => ?_, fun _ reference flags hget hfits hfirst => ?_,
    fun hnone => ?_, fun list hlist => ?_⟩
  · rw [hfound, flagsFor?_of_first hfile hkeys hget (fits_self project file) hfirst]
    rfl
  · rw [hfound, flagsFor?_of_first hfile hkeys hget hfits hfirst]
    rfl
  · rw [hfound, flagsFor?_of_none hfile hkeys hnone]
    rfl
  · rw [hfound] at hlist
    obtain ⟨flags, hflags, hnonempty⟩ := Option.bind_eq_some_iff.1 hlist
    obtain ⟨reference, hget, hfits⟩ := exists_of_flagsFor? hfile hkeys hflags
    exact ⟨reference, flags, hget, hfits, hnonempty⟩

/-- `main.c` fits all files of this name, but `core/main.c` comes first; `y.c` has no flags in its
text. -/
theorem flagListFor?_join_flagged :
    let project : Project := { path := "/work/App.xcodeproj" }
    let found := fun file : String => flaggedTarget.flagListFor? (project.folder / file)
    found "core/main.c" = some ["-g", "-DA B"] ∧ found "tools/core/main.c" = some ["-g", "-DA B"] ∧
      found "y.c" = none ∧ found "tools/x.c" = none := by
  intro project found
  have hkeys : ∀ key ∈ flaggedTarget.fileFlags.keys, Path.IsPlain ⟨key⟩ := by decide
  obtain ⟨hown, -, -, -⟩ := @flagListFor?_join project flaggedTarget "core/main.c" (by decide) hkeys
  obtain ⟨-, hother, -, -⟩ :=
    @flagListFor?_join project flaggedTarget "tools/core/main.c" (by decide) hkeys
  obtain ⟨hblank, -, -, -⟩ := @flagListFor?_join project flaggedTarget "y.c" (by decide) hkeys
  obtain ⟨-, -, hnone, -⟩ := @flagListFor?_join project flaggedTarget "tools/x.c" (by decide) hkeys
  exact ⟨(hown "-g \"-DA B\"" (by decide) (by decide)).trans (by decide),
    (hother (by decide) "core/main.c" "-g \"-DA B\"" (by decide) (by decide) (by decide)).trans
      (by decide),
    (hblank " " (by decide) (by decide)).trans (by decide), hnone (by decide)⟩

/-- `net/main.c` has the flags of `main.c` and not its own, and `tools/main.c`, for which none are
given, has them as well. -/
theorem flags_of_namesake :
    let project : Project := { path := "/work/App.xcodeproj" }
    let target : Target :=
      { name := "App", sourceFiles := ["main.c", "net/main.c", "tools/main.c"]
        fileFlags := .ofList [("main.c", "-w"), ("net/main.c", "-g")] }
    target.flagListFor? (project.folder / "net/main.c") = some ["-w"] ∧
      target.flagListFor? (project.folder / "tools/main.c") = some ["-w"] ∧
      target.fileFlags.get? "net/main.c" = some "-g" ∧
      target.fileFlags.get? "tools/main.c" = none := by
  decide

end Target

end BuildSettings
