import BuildSettings.CommandLine.Run
import BuildSettings.Proofs.Batch.Load
import BuildSettings.Proofs.Json.Printed

/-!
# Dumps that are named by arguments

Each argument names a project and the file of its dump. What is loaded is looked up twice: there is
a group for each argument, but its file is looked up by its project, and that is the file of the
last argument for the project (`LastFile`). So if all files can be read the batch is there, with the
settings of the last file for each project, read once for each argument. The files of arguments
before that are not looked at: the targets that only they have records of are missing from the
batch, and nothing tells so.
-/

namespace BuildSettings.CommandLine.Environment

variable {env : Environment} {pairs : List (String × Path)}

/-- Reads the records of a dump. -/
def readDump (env : Environment) (path : Path) : Except LoadError (List DumpRecord) :=
  env.readDocument .settingsDump DumpRecord.allOfText path

/-! ### Arguments -/

/-- The argument for a project and a file. -/
def dumpArgument (pair : String × Path) : String :=
  pair.1 ++ "=" ++ pair.2.text

/-- The first equals sign of an argument ends the project, and further ones belong to the path of
the file. -/
theorem dumpPair_dumpArgument {pair : String × Path} (h : '=' ∉ pair.1.toList) :
    dumpPair (dumpArgument pair) = .ok pair := by
  have htext : (dumpArgument pair).toList = pair.1.toList ++ '=' :: pair.2.text.toList := by
    simp [dumpArgument]
  rw [dumpPair, htext, Text.cutFirst?_append h]
  simp only [String.ofList_toList]

/-- So the arguments of pairs are read back to these pairs, all of them. -/
theorem mapM_dumpPair (h : ∀ p ∈ pairs, '=' ∉ p.1.toList) :
    (pairs.map dumpArgument).mapM dumpPair = .ok pairs := by
  induction pairs with
  | nil => rfl
  | cons pair pairs ih =>
    obtain ⟨hpair, hpairs⟩ := List.forall_mem_cons.1 h
    rw [List.map_cons, List.mapM_cons, dumpPair_dumpArgument hpair, ih hpairs]
    rfl

/-- The argument with the file is the last one for the project. -/
def LastFile (pairs : List (String × Path)) (project : String) (path : Path) : Prop :=
  ∃ before after, pairs = before ++ (project, path) :: after ∧ ∀ p ∈ after, p.1 ≠ project

/-- The pairs are entered one after the other, so the look-up finds the one that stands furthest
behind. -/
theorem lookup_reverse_eq_some_iff {project : String} {path : Path} :
    pairs.reverse.lookup project = some path ↔ LastFile pairs project path := by
  rw [List.lookup_eq_some_iff]
  constructor
  · rintro ⟨after, before, hsplit, hafter⟩
    refine ⟨before.reverse, after.reverse, ?_, fun p hp => ?_⟩
    · rw [← List.reverse_reverse pairs, hsplit]
      simp
    · exact (ne_of_beq_false (by simpa using hafter p (List.mem_reverse.1 hp))).symm
  · rintro ⟨before, after, rfl, hafter⟩
    refine ⟨after.reverse, before.reverse, by simp, fun p hp => ?_⟩
    simpa using (hafter p (List.mem_reverse.1 hp)).symm

/-- The argument with the last file of a project is one of the arguments. -/
theorem LastFile.mem {project : String} {path : Path} (h : LastFile pairs project path) :
    (project, path) ∈ pairs := by
  obtain ⟨before, after, rfl, -⟩ := h
  exact List.mem_append_right _ List.mem_cons_self

/-- Each project that an argument names has a last file. -/
theorem exists_lastFile {pair : String × Path} (h : pair ∈ pairs) :
    ∃ path, LastFile pairs pair.1 path := by
  cases hlast : pairs.reverse.lookup pair.1 with
  | none =>
    have hne := List.lookup_eq_none_iff.1 hlast pair (List.mem_reverse.2 h)
    simp at hne
  | some path => exact ⟨path, lookup_reverse_eq_some_iff.1 hlast⟩

/-! ### Batches -/

/-- How the load for an argument ends. -/
def dumpOutcome (env : Environment) (pairs : List (String × Path)) (project : String) :
    LoadOutcome :=
  match pairs.reverse.lookup project with
  | none => .failure (.refused project "no dump file")
  | some path =>
    match env.readDump path with
    | .error e => .failure e
    | .ok records => .records records

/-- The groups of the arguments with the ends of their loads. -/
def dumpRuns (env : Environment) (pairs : List (String × Path)) :
    List (LoadGroup × LoadOutcome) :=
  pairs.map fun pair => ({ project := pair.1 }, env.dumpOutcome pairs pair.1)

/-- Loading dumps is loading the groups of their projects one after the other, where each group
reads the last file of its project. -/
theorem loadDumps_eq (h : ∀ p ∈ pairs, '=' ∉ p.1.toList) :
    env.loadDumps (pairs.map dumpArgument) =
      (Batch.loadInto ∅ (env.dumpRuns pairs)).mapError .load := by
  rw [loadDumps, mapM_dumpPair h]
  dsimp only
  rw [Batch.loadEach_eq_loadInto, List.map_map]
  rfl

/-- All files of arguments can be read. -/
def Readable (env : Environment) (pairs : List (String × Path)) : Prop :=
  ∀ p ∈ pairs, ∃ records, env.readDump p.2 = .ok records

/-- If all files can be read no group fails, and there is a batch. A group reads the last file of
its project, which is the file of some argument. -/
theorem exists_loadInto_eq_ok (hread : env.Readable pairs) :
    ∃ batch, Batch.loadInto ∅ (env.dumpRuns pairs) = .ok batch := by
  cases hload : Batch.loadInto ∅ (env.dumpRuns pairs) with
  | ok batch => exact ⟨batch, rfl⟩
  | error error =>
    rw [Batch.loadInto_eq_error_iff] at hload
    obtain ⟨run, hrun, hfails⟩ := List.exists_of_findSome?_eq_some hload
    obtain ⟨pair, hpair, rfl⟩ := List.mem_map.1 hrun
    obtain ⟨path, hlast⟩ := exists_lastFile hpair
    obtain ⟨records, hrecords⟩ := hread _ hlast.mem
    have hsucceeds : env.dumpOutcome pairs pair.1 = .records records := by
      rw [dumpOutcome, lookup_reverse_eq_some_iff.2 hlast]
      dsimp only
      rw [hrecords]
    rw [hsucceeds] at hfails
    cases hfails

/-- The settings of a target in the last file for its project. -/
def lastSettings? (env : Environment) (pairs : List (String × Path)) (id : TargetId) :
    Option Settings :=
  match env.dumpOutcome pairs id.project with
  | .records records => (DumpRecord.grouped records).get? id.name
  | _ => none

/-- The settings that the last file of a project has for a target are those of the record that
counts in it. -/
theorem lastSettings?_eq_some_iff {id : TargetId} {settings : Settings} :
    env.lastSettings? pairs id = some settings ↔ ∃ path records, LastFile pairs id.project path ∧
      env.readDump path = .ok records ∧
      (DumpRecord.grouped records).get? id.name = some settings := by
  simp only [← lookup_reverse_eq_some_iff]
  unfold lastSettings? dumpOutcome
  cases pairs.reverse.lookup id.project with
  | none => simp
  | some path => cases hread : env.readDump path <;> simp [hread]

/-- All arguments for a project offer the same, so it does not matter which of them decides: the
groups of one project all read its last file. -/
theorem find?_of_dumpRuns {batch : Batch}
    (hbatch : Batch.loadInto ∅ (env.dumpRuns pairs) = .ok batch) (id : TargetId) :
    batch.find? id = env.lastSettings? pairs id := by
  have hoffer : ∀ pair : String × Path,
      Batch.offer? id ({ project := pair.1 }, env.dumpOutcome pairs pair.1) =
        if pair.1 = id.project then env.lastSettings? pairs id else none := by
    intro pair
    unfold Batch.offer? lastSettings?
    by_cases hproject : pair.1 = id.project
    · rw [if_pos hproject, hproject]
      cases env.dumpOutcome pairs id.project <;> simp [LoadGroup.wants]
    · rw [if_neg hproject]
      cases env.dumpOutcome pairs pair.1 <;> simp [hproject]
  rw [Batch.find?_of_loadInto hbatch]
  refine Option.or_none.trans ?_
  cases hlast : env.lastSettings? pairs id with
  | none =>
    refine List.findSome?_eq_none_iff.2 fun run hrun => ?_
    obtain ⟨pair, -, rfl⟩ := List.mem_map.1 (List.mem_reverse.1 hrun)
    rw [hoffer, hlast, ite_self]
  | some settings =>
    obtain ⟨path, -, hfile, -⟩ := lastSettings?_eq_some_iff.1 hlast
    -- the argument that stands last for the project offers its settings, and whichever group
    -- decides offers the same
    have hsome : ((env.dumpRuns pairs).reverse.findSome? (Batch.offer? id)).isSome := by
      refine List.findSome?_isSome_iff.2
        ⟨_, List.mem_reverse.2 (List.mem_map_of_mem hfile.mem), ?_⟩
      rw [hoffer, if_pos rfl, hlast]
      rfl
    obtain ⟨found, hfound⟩ := Option.isSome_iff_exists.1 hsome
    obtain ⟨run, hrun, hoffers⟩ := List.exists_of_findSome?_eq_some hfound
    obtain ⟨pair, -, rfl⟩ := List.mem_map.1 (List.mem_reverse.1 hrun)
    rw [hoffer, hlast] at hoffers
    rw [hfound, ← hoffers]
    split at hoffers
    next hproject => rw [if_pos hproject]
    next => cases hoffers

/-- Arguments for the project that stand behind with the same file change nothing, since it is the
last file that counts and not the last argument. -/
theorem lastFile_of_repeated {before after : List (String × Path)} {project : String} {path : Path}
    (h : ∀ p ∈ after, p.1 = project → p.2 = path) :
    LastFile (before ++ (project, path) :: after) project path := by
  rw [← lookup_reverse_eq_some_iff, List.reverse_append, List.reverse_cons, List.append_assoc,
    List.lookup_append]
  cases hlater : after.reverse.lookup project with
  | none =>
    rw [Option.none_or, List.singleton_append, List.lookup_cons_self]
  | some later =>
    have hmem : (project, later) ∈ after := List.mem_reverse.1 (Dictionary.mem_of_lookup hlater)
    rw [Option.some_or]
    exact congrArg some (h _ hmem rfl)

/-- A file whose bytes are those of a text, and whose text is that of records, is read to these
records. -/
theorem readDump_of_text {path : Path} {text : String} {records : List DumpRecord}
    (hbytes : env.files.readBytes path = .ok text.toUTF8)
    (hread : DumpRecord.allOfText text = .ok records) : env.readDump path = .ok records := by
  have htext : String.fromUTF8? text.toUTF8 = some text := dif_pos text.isValidUTF8
  rw [readDump, readDocument, FileTree.readText, hbytes]
  dsimp only
  rw [htext]
  dsimp only
  rw [hread]

/-- **Dumps**: if all files that arguments name can be read there is a batch. It has the settings of
a target from the last file for its project, and from no other; so it has settings for every record
of the file of an argument unless an argument behind it names another file for the project. -/
theorem loadDumps_arguments (hsign : ∀ p ∈ pairs, '=' ∉ p.1.toList) (hread : env.Readable pairs) :
    ∃ batch, env.loadDumps (pairs.map dumpArgument) = .ok batch ∧
      (∀ id settings, batch.find? id = some settings ↔
        ∃ path records, LastFile pairs id.project path ∧ env.readDump path = .ok records ∧
          (DumpRecord.grouped records).get? id.name = some settings) ∧
      ∀ before project path after, pairs = before ++ (project, path) :: after →
        (∀ p ∈ after, p.1 = project → p.2 = path) →
        ∃ records, env.readDump path = .ok records ∧
          ∀ r ∈ records, (batch.find? ⟨project, r.target⟩).isSome := by
  obtain ⟨batch, hbatch⟩ := exists_loadInto_eq_ok hread
  have hfind : ∀ id settings, batch.find? id = some settings ↔
      ∃ path records, LastFile pairs id.project path ∧ env.readDump path = .ok records ∧
        (DumpRecord.grouped records).get? id.name = some settings := by
    intro id settings
    rw [find?_of_dumpRuns hbatch, lastSettings?_eq_some_iff]
  refine ⟨batch, ?_, hfind, ?_⟩
  · rw [loadDumps_eq hsign, hbatch]
    rfl
  · rintro before project path after rfl hafter
    obtain ⟨records, hrecords⟩ := hread (project, path) (List.mem_append_right _ List.mem_cons_self)
    refine ⟨records, hrecords, fun r hr => ?_⟩
    obtain ⟨settings, hget⟩ := Option.isSome_iff_exists.1 <|
      DumpRecord.isSome_get?_grouped.2 ⟨r, hr, rfl⟩
    exact Option.isSome_iff_exists.2 ⟨settings, (hfind _ _).2
      ⟨path, records, lastFile_of_repeated hafter, hrecords, hget⟩⟩

/-- A dump of one target, as a document. -/
def oneTarget (target : String) : Json :=
  .array [.object [("target", .text target), ("action", .text "build"),
    ("buildSettings", .object [("SDKROOT", .text "iphoneos")])]]

/-- The record in such a dump. -/
def oneRecord (target : String) : DumpRecord :=
  ⟨target, "build", .ofList [("SDKROOT", .text "iphoneos")]⟩

/-- Two files, one with a dump of `App` and one with a dump of `Lib`. -/
def twoDumps : Environment where
  files := ⟨.directory [("a.json", .file (oneTarget "App").compact.toUTF8),
    ("b=2.json", .file (oneTarget "Lib").compact.toUTF8)], []⟩
  home := none
  developerDir := none

theorem allOfText_oneTarget (target : String) :
    DumpRecord.allOfText (oneTarget target).compact = .ok [oneRecord target] := by
  refine (Json.readText_print _ Json.Layout.isBlank_compact ?_).trans rfl
  simp [oneTarget, Json.maxDepth]

/-- What the two files hold. -/
theorem readDump_twoDumps :
    twoDumps.readDump ⟨"a.json"⟩ = .ok [oneRecord "App"] ∧
    twoDumps.readDump ⟨"b=2.json"⟩ = .ok [oneRecord "Lib"] := by
  constructor
  · exact readDump_of_text rfl (allOfText_oneTarget "App")
  · exact readDump_of_text rfl (allOfText_oneTarget "Lib")

/-- The arguments for both files. -/
def twoArguments (first second : String) : List (String × Path) :=
  [(first, ⟨"a.json"⟩), (second, ⟨"b=2.json"⟩)]

/-- Both files can be read, for whatever projects they are named. -/
theorem readable_twoArguments (first second : String) :
    twoDumps.Readable (twoArguments first second) := by
  simp [Readable, twoArguments, readDump_twoDumps]

/-- Each project has the settings of its own file. The name of one of the files has an equals sign.
-/
theorem loadDumps_arguments_two :
    ∃ batch, twoDumps.loadDumps ["/w/A.xcodeproj=a.json", "/w/B.xcodeproj=b=2.json"] = .ok batch ∧
      (batch.find? ⟨"/w/A.xcodeproj", "App"⟩).isSome ∧
      (batch.find? ⟨"/w/B.xcodeproj", "Lib"⟩).isSome := by
  have hsign : ∀ p ∈ twoArguments "/w/A.xcodeproj" "/w/B.xcodeproj", '=' ∉ p.1.toList := by decide
  obtain ⟨batch, hbatch, -, hfind⟩ := loadDumps_arguments hsign (readable_twoArguments _ _)
  refine ⟨batch, hbatch, ?_, ?_⟩
  · obtain ⟨records, hrecords, hentries⟩ := hfind [] _ _ _ rfl (by decide)
    obtain rfl := Except.ok.inj (readDump_twoDumps.1.symm.trans hrecords)
    exact hentries _ List.mem_cons_self
  · obtain ⟨records, hrecords, hentries⟩ := hfind [_] _ _ _ rfl (by decide)
    obtain rfl := Except.ok.inj (readDump_twoDumps.2.symm.trans hrecords)
    exact hentries _ List.mem_cons_self

/-- With both files for one project the batch is there, but `App` is not in it: its file was
replaced before anything was read, and no error says so. -/
theorem loadDumps_forgets :
    twoDumps.Readable (twoArguments "/w/A.xcodeproj" "/w/A.xcodeproj") ∧
    twoDumps.readDump ⟨"a.json"⟩ = .ok [oneRecord "App"] ∧
    ∃ batch, twoDumps.loadDumps ["/w/A.xcodeproj=a.json", "/w/A.xcodeproj=b=2.json"] = .ok batch ∧
      batch.find? ⟨"/w/A.xcodeproj", (oneRecord "App").target⟩ = none := by
  have hsign : ∀ p ∈ twoArguments "/w/A.xcodeproj" "/w/A.xcodeproj", '=' ∉ p.1.toList := by decide
  have hread := readable_twoArguments "/w/A.xcodeproj" "/w/A.xcodeproj"
  refine ⟨hread, readDump_twoDumps.1, ?_⟩
  obtain ⟨batch, hbatch⟩ := exists_loadInto_eq_ok hread
  have hloaded := twoDumps.loadDumps_eq hsign
  rw [hbatch] at hloaded
  refine ⟨batch, hloaded, ?_⟩
  -- what is read for the project is the dump of `Lib`
  rw [find?_of_dumpRuns hbatch, Option.eq_none_iff_forall_not_mem]
  intro settings hsettings
  obtain ⟨path, records, hlast, hrecords, hget⟩ := lastSettings?_eq_some_iff.1 hsettings
  rw [← lookup_reverse_eq_some_iff] at hlast
  obtain rfl : (⟨"b=2.json"⟩ : Path) = path := Option.some.inj hlast
  obtain rfl := Except.ok.inj (readDump_twoDumps.2.symm.trans hrecords)
  cases hget

end BuildSettings.CommandLine.Environment
