import BuildSettings.Proofs.Path.Steps
import BuildSettings.Proofs.Text.ByteOrder
import BuildSettings.Sources
import Mathlib.Data.List.Forall2
import Mathlib.Data.List.Nodup

/-!
# Listing the files of a target

A trail is the list of names that leads from a directory to something below it. The files that a
directory stands for are those at the end of a trail without a hidden name, in the order of the
trails: two trails are compared by the bytes of the names at which they part, whether these belong
to files or to directories. These two properties fix the list (`IsListing.unique`).

* `filesBelow_directory` takes the entries of a directory in order;
* `IsWellNamed.exists_listing` is the induction over the tree;
* `components_follow` tells the paths of two trails apart;
* `expand_eq_iff` puts together what a list of entries stands for.
-/

namespace BuildSettings

/-! ### Dictionaries of images -/

namespace Dictionary

variable {α β : Type}

theorem lookup_mapEntries (f : String × α → β) (l : List (String × α)) (k : String) :
    (l.map fun e => (e.1, f e)).lookup k = (l.lookup k).map fun v => f (k, v) := by
  induction l with
  | nil => rfl
  | cons e l ih =>
    by_cases h : k = e.1 <;> simp [lookup_cons_eq, h, ih]

/-- Images of pairs stand in the order of the pairs. -/
theorem entries_ofList_map (f : String × α → β) (l : List (String × α)) :
    (ofList (l.map fun e => (e.1, f e))).entries = (ofList l).entries.map fun e => (e.1, f e) := by
  refine entries_eq_of_lookup (ofList _).ascending ((ofList l).ascending.map _ fun _ _ h => h) ?_
  intro k
  rw [lookup_mapEntries]
  show (ofList _).get? k = ((ofList l).get? k).map _
  rw [get?_ofList, get?_ofList, ← List.map_reverse, lookup_mapEntries]

/-- Pairs with different keys are found under them. -/
theorem lookup_eq_some_iff_of_nodup {l : List (String × α)} (h : (l.map (·.1)).Nodup)
    {k : String} {v : α} : l.lookup k = some v ↔ (k, v) ∈ l := by
  refine ⟨mem_of_lookup, fun hmem => ?_⟩
  cases hlookup : l.lookup k with
  | none => exact absurd (List.lookup_eq_none_iff.1 hlookup (k, v) hmem) (by simp)
  | some w =>
    have heq : (k, w) = (k, v) := List.inj_on_of_nodup_map h (mem_of_lookup hlookup) hmem rfl
    rw [(Prod.mk.inj heq).2]

/-- With all names different, the dictionary of a list has the entries of the list, in order. -/
theorem mem_entries_ofList {l : List (String × α)} (h : (l.map (·.1)).Nodup) {e : String × α} :
    e ∈ (ofList l).entries ↔ e ∈ l := by
  have hreverse : (l.reverse.map (·.1)).Nodup := by
    rw [List.map_reverse]
    exact List.nodup_reverse.2 h
  rw [← get?_eq_some_iff, get?_ofList, lookup_eq_some_iff_of_nodup hreverse, List.mem_reverse]

end Dictionary

/-! ### Trails -/

/-- Whether a directory can hold an entry under the name. -/
def IsEntryName (name : String) : Prop :=
  name ≠ "" ∧ '/' ∉ name.toList

instance (name : String) : Decidable (IsEntryName name) :=
  inferInstanceAs (Decidable (_ ∧ _))

/-- Whether no name of the trail hides what it leads to. -/
def IsVisible (trail : List String) : Prop :=
  ∀ name ∈ trail, isHiddenName name = false

/-- Whether the first trail has the smaller bytes in the names at which the two part. -/
def Precedes : List String → List String → Prop :=
  List.Lex fun a b => Text.utf8Bytes a < Text.utf8Bytes b

/-- No trail comes before itself, so a list in this order has no repetitions. -/
theorem Precedes.irrefl (trail : List String) : ¬ Precedes trail trail :=
  List.lex_irrefl (fun name => List.lt_irrefl (Text.utf8Bytes name)) trail

theorem Precedes.asymm {t u : List String} (h : Precedes t u) : ¬ Precedes u t :=
  List.lex_asymm List.lt_asymm h

/-- The path at the end of a trail. -/
def Path.follow (base : Path) (trail : List String) : Path :=
  trail.foldl (· / ·) base

namespace FileNode

/-- What the trail leads to. -/
def at? : List String → FileNode → Option FileNode
  | [], node => some node
  | name :: names, node => (node.entries.lookup name).bind (at? names)

/-- Whether the trail leads to a file. -/
def HasFile (node : FileNode) (trail : List String) : Prop :=
  ∃ content, node.at? trail = some (.file content)

/-- The directories of the tree give each of their entries a name of its own, in which there is
no slash. -/
inductive IsWellNamed : FileNode → Prop
  | file (content : ByteArray) : IsWellNamed (.file content)
  | directory {entries : List (String × FileNode)}
      (distinct : (entries.map (·.1)).Nodup)
      (named : ∀ e ∈ entries, IsEntryName e.1)
      (below : ∀ e ∈ entries, IsWellNamed e.2) : IsWellNamed (.directory entries)

/-- The trails are those that lead to a file and through no hidden name, in their order. -/
structure IsListing (node : FileNode) (trails : List (List String)) : Prop where
  ascending : trails.Pairwise Precedes
  mem_iff : ∀ trail, trail ∈ trails ↔ node.HasFile trail ∧ IsVisible trail

theorem IsListing.nodup {node : FileNode} {trails : List (List String)}
    (h : node.IsListing trails) : trails.Nodup :=
  h.ascending.imp (by rintro trail _ hlt rfl; exact Precedes.irrefl trail hlt)

/-- There is one list of the trails to the files of a node. -/
theorem IsListing.unique {node : FileNode} {trails trails' : List (List String)}
    (h : node.IsListing trails) (h' : node.IsListing trails') : trails = trails' := by
  have hperm : trails.Perm trails' :=
    (List.perm_ext_iff_of_nodup h.nodup h'.nodup).2 fun trail =>
      (h.mem_iff trail).trans (h'.mem_iff trail).symm
  exact hperm.eq_of_pairwise (fun _ _ _ _ hlt hgt => absurd hgt hlt.asymm) h.ascending h'.ascending

theorem hasFile_file (content : ByteArray) (trail : List String) :
    (FileNode.file content).HasFile trail ↔ trail = [] := by
  cases trail with
  | nil => exact ⟨fun _ => rfl, fun _ => ⟨content, rfl⟩⟩
  | cons name rest =>
    refine ⟨?_, fun h => nomatch h⟩
    rintro ⟨_, h⟩
    cases h

theorem not_hasFile_directory_nil (entries : List (String × FileNode)) :
    ¬ (FileNode.directory entries).HasFile [] := by
  rintro ⟨_, h⟩
  cases h

/-- A trail into a directory leads through the entry of that name, of which there is one, since the
names in a directory differ. -/
theorem hasFile_directory_cons {entries : List (String × FileNode)}
    (h : (entries.map (·.1)).Nodup) (name : String) (rest : List String) :
    (FileNode.directory entries).HasFile (name :: rest) ↔
      ∃ node, (name, node) ∈ entries ∧ node.HasFile rest := by
  constructor
  · rintro ⟨content, hat⟩
    obtain ⟨node, hlookup, hnode⟩ := Option.bind_eq_some_iff.1 hat
    exact ⟨node, Dictionary.mem_of_lookup hlookup, content, hnode⟩
  · rintro ⟨node, hmem, content, hnode⟩
    refine ⟨content, ?_⟩
    show (entries.lookup name).bind (at? rest) = _
    rw [(Dictionary.lookup_eq_some_iff_of_nodup h).2 hmem]
    exact hnode

/-! ### The entries of a directory -/

/-- The entries that are not hidden, in the order of their names. -/
def visibleEntries (entries : List (String × FileNode)) : List (String × FileNode) :=
  (Dictionary.ofList (entries.filter fun e => !isHiddenName e.1)).entries

/-- The entries that are not hidden, in the order of their names. -/
theorem ascending_visibleEntries (entries : List (String × FileNode)) :
    (visibleEntries entries).Pairwise fun a b => a.1 < b.1 :=
  (Dictionary.ofList _).ascending

/-- None of them is lost or hidden. -/
theorem mem_visibleEntries {entries : List (String × FileNode)}
    (h : (entries.map (·.1)).Nodup) {e : String × FileNode} :
    e ∈ visibleEntries entries ↔ e ∈ entries ∧ isHiddenName e.1 = false := by
  have hfilter : ((entries.filter fun e => !isHiddenName e.1).map (·.1)).Nodup :=
    h.sublist (List.filter_sublist.map _)
  unfold visibleEntries
  rw [Dictionary.mem_entries_ofList hfilter, List.mem_filter, Bool.not_eq_true']

/-- What the walk collects is the list below each visible entry, entry by entry. -/
theorem filesOfEntries_eq (path : Path) (entries : List (String × FileNode)) :
    filesOfEntries path entries = (entries.filter fun e => !isHiddenName e.1).map fun e =>
      (e.1, e.2.filesBelow (path / e.1)) := by
  induction entries with
  | nil => rfl
  | cons e entries ih =>
    obtain ⟨name, node⟩ := e
    rw [filesOfEntries]
    cases hname : isHiddenName name <;> simp [hname, ih]

/-- The files of a directory are those of its entries, taken in order. -/
theorem filesBelow_directory (path : Path) (entries : List (String × FileNode)) :
    (FileNode.directory entries).filesBelow path =
      (visibleEntries entries).flatMap fun e => e.2.filesBelow (path / e.1) := by
  rw [filesBelow, filesOfEntries_eq, Dictionary.entries_ofList_map
    (fun e : String × FileNode => e.2.filesBelow (path / e.1)), List.flatMap_map]
  rfl

/-- The trails of entries in order are those of the first, of the second and so on, each with the
name of its entry in front. By induction on the entries, over what is known of each. -/
theorem exists_trails {es : List (String × FileNode)} (hes : es.Pairwise fun a b => a.1 < b.1)
    (h : ∀ e ∈ es, ∀ path, ∃ trails : List (List String),
      e.2.filesBelow path = trails.map path.follow ∧ e.2.IsListing trails) (path : Path) :
    ∃ trails : List (List String),
      (es.flatMap fun e => e.2.filesBelow (path / e.1)) = trails.map path.follow ∧
      trails.Pairwise Precedes ∧
      ∀ trail, trail ∈ trails ↔
        ∃ e ∈ es, ∃ rest, trail = e.1 :: rest ∧ e.2.HasFile rest ∧ IsVisible rest := by
  induction es with
  | nil => exact ⟨[], rfl, .nil, by simp⟩
  | cons e es ih =>
    obtain ⟨hfirst, hes⟩ := List.pairwise_cons.1 hes
    obtain ⟨own, hown, hlisting⟩ := h e List.mem_cons_self (path / e.1)
    obtain ⟨others, hothers, hascending, hmem⟩ := ih hes fun e' he' => h e' (.tail _ he')
    -- the trails of the first entry, with its name in front
    have hcons : ∀ trail, trail ∈ own.map (e.1 :: ·) ↔
        ∃ rest, trail = e.1 :: rest ∧ e.2.HasFile rest ∧ IsVisible rest := by
      intro trail
      rw [List.mem_map]
      constructor
      · rintro ⟨rest, hrest, rfl⟩
        exact ⟨rest, rfl, (hlisting.mem_iff rest).1 hrest⟩
      · rintro ⟨rest, rfl, hrest⟩
        exact ⟨rest, (hlisting.mem_iff rest).2 hrest, rfl⟩
    refine ⟨own.map (e.1 :: ·) ++ others, ?_, ?_, fun trail => ?_⟩
    · rw [List.flatMap_cons, hown, hothers, List.map_append, List.map_map]
      rfl
    · refine List.pairwise_append.2 ⟨hlisting.ascending.map _ fun _ _ => .cons, hascending, ?_⟩
      intro t ht u hu
      obtain ⟨rest, rfl, -⟩ := (hcons t).1 ht
      obtain ⟨e', he', rest', rfl, -⟩ := (hmem u).1 hu
      -- trails into different entries are told apart by their first name
      exact .rel (Text.utf8Bytes_lt_iff.2 (hfirst e' he'))
    · rw [List.mem_append, hcons, hmem, List.exists_mem_cons_iff]

/-- The files at and below a node are those at the end of its trails, in their order. By induction
on the tree. -/
theorem IsWellNamed.exists_listing {node : FileNode} (h : node.IsWellNamed) (path : Path) :
    ∃ trails : List (List String),
      node.filesBelow path = trails.map path.follow ∧ node.IsListing trails := by
  induction h generalizing path with
  | file content =>
    refine ⟨[[]], by rw [filesBelow]; rfl, List.pairwise_singleton _ _, fun trail => ?_⟩
    rw [List.mem_singleton, hasFile_file]
    exact ⟨fun htrail => ⟨htrail, htrail ▸ nofun⟩, And.left⟩
  | @directory entries distinct _ _ ih =>
    have hbelow : ∀ e ∈ visibleEntries entries, ∀ path, ∃ trails : List (List String),
        e.2.filesBelow path = trails.map path.follow ∧ e.2.IsListing trails :=
      fun e he => ih e ((mem_visibleEntries distinct).1 he).1
    obtain ⟨trails, hfiles, hascending, hmem⟩ :=
      exists_trails (ascending_visibleEntries entries) hbelow path
    refine ⟨trails, (filesBelow_directory path entries).trans hfiles, hascending, fun trail => ?_⟩
    rw [hmem]
    cases trail with
    | nil =>
      constructor
      · rintro ⟨_, _, _, heq, -⟩
        cases heq
      · -- a directory is no file itself
        exact fun h => absurd h.1 (not_hasFile_directory_nil entries)
    | cons name rest =>
      rw [hasFile_directory_cons distinct]
      constructor
      · rintro ⟨e, he, _, heq, hfile, hvisible⟩
        obtain ⟨rfl, rfl⟩ := List.cons.inj heq
        obtain ⟨he, hname⟩ := (mem_visibleEntries distinct).1 he
        exact ⟨⟨e.2, he, hfile⟩, List.forall_mem_cons.2 ⟨hname, hvisible⟩⟩
      · rintro ⟨⟨node, hnode, hfile⟩, hvisible⟩
        obtain ⟨hname, hrest⟩ := List.forall_mem_cons.1 hvisible
        have hentry := (mem_visibleEntries distinct).2 ⟨hnode, hname⟩
        exact ⟨(name, node), hentry, rest, rfl, hfile, hrest⟩

/-- What is below a directory with names in order is of that kind as well. -/
theorem IsWellNamed.of_mem {entries : List (String × FileNode)}
    (h : (FileNode.directory entries).IsWellNamed) {e : String × FileNode} (he : e ∈ entries) :
    IsEntryName e.1 ∧ e.2.IsWellNamed := by
  cases h with
  | directory _ named below => exact ⟨named e he, below e he⟩

/-- So all names on a trail are names that an entry can have, and none of them is a path of its own.
-/
theorem IsWellNamed.isEntryName {node : FileNode} (h : node.IsWellNamed) {trail : List String}
    (hfile : node.HasFile trail) : ∀ name ∈ trail, IsEntryName name := by
  induction trail generalizing node with
  | nil => nofun
  | cons name rest ih =>
    obtain ⟨content, hat⟩ := hfile
    obtain ⟨below, hlookup, hbelow⟩ := Option.bind_eq_some_iff.1 hat
    cases node with
    | file content => cases hlookup
    | directory entries =>
      obtain ⟨hname, hnode⟩ := h.of_mem (Dictionary.mem_of_lookup hlookup)
      exact List.forall_mem_cons.2 ⟨hname, ih hnode ⟨content, hbelow⟩⟩

end FileNode

/-! ### Paths of trails -/

namespace Path

/-- A name that is not hidden is one step: it has no slash, and it does not begin with a dot, so it
neither stays nor leads up. -/
theorem components_of_isEntryName {name : String} (h : IsEntryName name)
    (hvisible : isHiddenName name = false) : components ⟨name⟩ = [.name name.toList] := by
  obtain ⟨hne, hslash⟩ := h
  -- the first character is no dot and no slash, so the path starts nowhere by itself
  have hdot : name.toList.head? ≠ some '.' := beq_eq_false_iff_ne.1 hvisible
  have hroot : name.toList.head? ≠ some '/' := fun hhead => hslash (List.mem_of_head? hhead)
  have hlead : leadOf name.toList = [] := by
    unfold leadOf
    rw [if_neg hroot, if_neg fun hhere => hdot hhere.1]
  have hfiller : isFiller name.toList = false := by
    unfold isFiller
    rw [Bool.or_eq_false_iff, beq_eq_false_iff_ne, beq_eq_false_iff_ne]
    exact ⟨fun hnil => hne (String.toList_eq_nil_iff.1 hnil), fun heq => hdot (by rw [heq]; rfl)⟩
  have hup : name.toList ≠ ['.', '.'] := fun heq => hdot (by rw [heq]; rfl)
  rw [components_eq, hlead]
  unfold steps
  rw [Text.pieces_of_notMem hslash]
  simp [leadSteps, hfiller, stepOf, hup]

/-- The path at the end of a trail takes the names of the trail as its last steps, whatever path it
begins with. -/
theorem components_follow {trail : List String} (h : ∀ name ∈ trail, IsEntryName name)
    (hvisible : IsVisible trail) (base : Path) :
    (base.follow trail).components =
      base.components ++ trail.map fun name => .name name.toList := by
  induction trail generalizing base with
  | nil => exact (List.append_nil _).symm
  | cons name rest ih =>
    obtain ⟨hname, hrest⟩ := List.forall_mem_cons.1 h
    obtain ⟨hshown, hvisible⟩ := List.forall_mem_cons.1 hvisible
    have hstep := components_of_isEntryName hname hshown
    have hplain : IsPlain ⟨name⟩ := by
      intro c hc
      rw [hstep, List.mem_singleton] at hc
      rw [hc]
      rfl
    show ((base / name).follow rest).components = _
    rw [ih hrest hvisible, components_join hplain, hstep, List.append_assoc]
    rfl

end Path

namespace FileNode

/-- Each file below a path has a path of its own. -/
theorem IsListing.nodup_paths {node : FileNode} {trails : List (List String)}
    (hlisting : node.IsListing trails) (h : node.IsWellNamed) (path : Path) :
    (trails.map path.follow).Nodup := by
  refine hlisting.nodup.map_on fun t ht u hu heq => ?_
  obtain ⟨htfile, htvisible⟩ := (hlisting.mem_iff t).1 ht
  obtain ⟨hufile, huvisible⟩ := (hlisting.mem_iff u).1 hu
  have hsteps := congrArg Path.components heq
  rw [Path.components_follow (h.isEntryName htfile) htvisible,
    Path.components_follow (h.isEntryName hufile) huvisible] at hsteps
  refine List.map_injective_iff.2 (fun a b hab => ?_) (List.append_cancel_left hsteps)
  exact String.toList_inj.1 (Component.name.inj hab)

end FileNode

/-! ### Nodes of a tree -/

namespace FileTree

/-- A path leads to nodes of the tree alone, upwards as well as downwards, and these are all well
named. -/
theorem isWellNamed_walk {trail : List FileNode} {here node : FileNode} {pieces : List String}
    (htrail : ∀ above ∈ trail, above.IsWellNamed) (hhere : here.IsWellNamed)
    (h : walk trail here pieces = .ok node) : node.IsWellNamed := by
  induction pieces generalizing trail here with
  | nil => exact Except.ok.inj h ▸ hhere
  | cons piece pieces ih =>
    cases here with
    | file content => cases h
    | directory entries =>
      unfold walk at h
      dsimp only at h
      split at h
      -- a piece that takes no step
      next => exact ih htrail hhere h
      split at h
      next =>
        cases trail with
        | nil => exact ih htrail hhere h
        | cons above rest =>
          obtain ⟨habove, hrest⟩ := List.forall_mem_cons.1 htrail
          exact ih hrest habove h
      split at h
      -- a step down, from where the way up leads back here
      next below hlookup =>
        have hbelow := (hhere.of_mem (Dictionary.mem_of_lookup hlookup)).2
        exact ih (List.forall_mem_cons.2 ⟨hhere, htrail⟩) hbelow h
      next => cases h

theorem isWellNamed_find {tree : FileTree} (h : tree.root.IsWellNamed) {path : Path}
    {node : FileNode} (hfind : tree.find path = .ok node) : node.IsWellNamed := by
  unfold find at hfind
  split at hfind
  next => cases hfind
  next => exact isWellNamed_walk (List.forall_mem_nil _) h hfind

end FileTree

/-! ### What entries stand for -/

namespace SourceItem

/-- The paths that an entry stands for in a tree: a file for its own; a directory for those of the
files below it, each with a path of its own; and a directory that cannot be found for none. The
name of the directory itself does not matter. -/
inductive StandsFor (tree : FileTree) : SourceItem → List Path → Prop
  | file (path : Path) : StandsFor tree ⟨path, .file⟩ [path]
  | missing {path : Path} {e : FileError} (hfind : tree.find path = .error e) :
      StandsFor tree ⟨path, .directory⟩ []
  | directory {path : Path} {node : FileNode} {trails : List (List String)}
      (hfind : tree.find path = .ok node) (hlisting : node.IsListing trails)
      (hnodup : (trails.map path.follow).Nodup) :
      StandsFor tree ⟨path, .directory⟩ (trails.map path.follow)

/-- What an entry stands for leaves no choice: files in strict order with the same elements are the
same list. -/
theorem StandsFor.unique {tree : FileTree} {item : SourceItem} {paths paths' : List Path}
    (h : item.StandsFor tree paths) (h' : item.StandsFor tree paths') : paths = paths' := by
  cases h with
  | file path =>
    cases h'
    rfl
  | missing hfind =>
    cases h' with
    | missing => rfl
    | directory hfind' => rw [hfind] at hfind'; cases hfind'
  | directory hfind hlisting =>
    cases h' with
    | missing hfind' => rw [hfind] at hfind'; cases hfind'
    | directory hfind' hlisting' =>
      obtain rfl := Except.ok.inj (hfind.symm.trans hfind')
      rw [hlisting.unique hlisting']

/-- The files of an entry are what it stands for, be it a file, a directory or missing. Nothing is
assumed of the path. -/
theorem standsFor_files {tree : FileTree} (h : tree.root.IsWellNamed) (item : SourceItem) :
    item.StandsFor tree (item.files tree) := by
  obtain ⟨path, kind⟩ := item
  cases kind with
  | file => exact .file path
  | directory =>
    unfold files
    -- a directory that cannot be read counts as missing
    cases hfind : tree.find path with
    | error e => exact .missing hfind
    | ok node =>
      have hnode := FileTree.isWellNamed_find h hfind
      obtain ⟨trails, hfiles, hlisting⟩ := hnode.exists_listing path
      show StandsFor tree ⟨path, .directory⟩ (node.filesBelow path)
      rw [hfiles]
      exact .directory hfind hlisting (hlisting.nodup_paths hnode path)

/-- The files that entries stand for are, entry by entry, the file itself or the files below the
directory that can be reached without a hidden name, each once and in the order of the names. -/
theorem expand_eq_iff {tree : FileTree} (h : tree.root.IsWellNamed) (items : List SourceItem)
    (paths : List Path) :
    expand tree items = paths ↔
      ∃ parts, List.Forall₂ (StandsFor tree) items parts ∧ paths = parts.flatten := by
  have hfiles : List.Forall₂ (StandsFor tree) items (items.map (files tree)) :=
    List.forall₂_map_right_iff.2 (List.forall₂_same.2 fun item _ => standsFor_files h item)
  have hflatten : expand tree items = (items.map (files tree)).flatten := List.flatMap_def
  constructor
  · rintro rfl
    exact ⟨_, hfiles, hflatten⟩
  · rintro ⟨parts, hparts, rfl⟩
    have hunique : Relator.RightUnique (StandsFor tree) := fun _ _ _ => StandsFor.unique
    rw [hflatten, List.right_unique_forall₂' hunique hfiles hparts]

/-- A folder with files behind, between and below hidden names. -/
def sourceFolder : FileNode :=
  .directory
    [("view.swift", .file .empty),
      (".git", .directory [("hook.c", .file .empty)]),
      ("view", .directory [(".draft.m", .file .empty), ("cell.m", .file .empty)]),
      ("app.swift", .file .empty)]

/-- The folder with a file and a hidden folder beside it. -/
def sourceTree : FileTree where
  root := .directory
    [("main.c", .file .empty), ("src", sourceFolder),
      (".gen", .directory [("made.c", .file .empty)])]
  working := []

/-- A file, two directories and one that is not there. -/
def sourceEntries : List SourceItem :=
  [⟨⟨"/main.c"⟩, .file⟩, ⟨⟨"/src"⟩, .directory⟩, ⟨⟨"/gone"⟩, .directory⟩, ⟨⟨"/.gen"⟩, .directory⟩]

theorem isWellNamed_sourceFolder : sourceFolder.IsWellNamed := by
  have hempty : FileNode.IsWellNamed (.file .empty) := .file _
  have hgit : FileNode.IsWellNamed (.directory [("hook.c", .file .empty)]) :=
    .directory (by decide) (by decide) (by simp [hempty])
  have hview : FileNode.IsWellNamed
      (.directory [(".draft.m", .file .empty), ("cell.m", .file .empty)]) :=
    .directory (by decide) (by decide) (by simp [hempty])
  exact .directory (by decide) (by decide) (by simp [hempty, hgit, hview])

theorem isWellNamed_sourceTree : sourceTree.root.IsWellNamed := by
  have hempty : FileNode.IsWellNamed (.file .empty) := .file _
  have hgen : FileNode.IsWellNamed (.directory [("made.c", .file .empty)]) :=
    .directory (by decide) (by decide) (by simp [hempty])
  exact .directory (by decide) (by decide)
    (by simp [hempty, hgen, isWellNamed_sourceFolder])

/-- Names that are prefixes of others, a hidden directory that is named itself, and one directory
inside another. -/
theorem expand_eq_iff_sourceTree :
    sourceTree.root.IsWellNamed ∧
      ∃ parts, List.Forall₂ (StandsFor sourceTree) sourceEntries parts ∧
        [⟨"/main.c"⟩, ⟨"/src/app.swift"⟩, ⟨"/src/view/cell.m"⟩, ⟨"/src/view.swift"⟩,
          ⟨"/.gen/made.c"⟩] = parts.flatten :=
  ⟨isWellNamed_sourceTree,
    (expand_eq_iff isWellNamed_sourceTree sourceEntries _).1 (by decide)⟩

end SourceItem

end BuildSettings
