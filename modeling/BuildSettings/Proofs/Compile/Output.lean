import BuildSettings.Compile.Files
import BuildSettings.Proofs.Compile.SearchPaths
import BuildSettings.Proofs.Path.FileName

/-!
# Outputs of files

A file is compiled to an object file, and the index knows the result by the name of a unit, which is
the path of the object file as it is seen from the directory of all intermediate files. Of the
source file only the stem of its name goes into these two: the directory of objects is that of the
target. So files with different stems never share an object or a unit, and files with the same stem
always do, wherever they are and whatever their extensions.

* `isEntry_object` — a stem makes the name of an object file.
* `fileName?_unitPath` — the unit has the name of its object file, unless the object file is taken
  for the directory of intermediate files.
* `output_of_stems` — the outputs of two files of a target.
-/

namespace BuildSettings

/-! ### Stems -/

namespace Path

/-- The stem of a name is its front, up to the last dot or up to the end. -/
theorem splitExtension_isPrefix (name : List Char) : (splitExtension name).1 <+: name := by
  unfold splitExtension
  split
  next before after hcut =>
    split
    next => exact List.prefix_refl name
    next => exact ⟨'.' :: after, (Text.eq_of_cutLast? hcut).symm⟩
  next => exact List.prefix_refl name

/-- The stem of a file makes the name of an object file: it has no slash, and the letter at its end
tells it from the pieces that take no step or lead up. -/
theorem isEntry_object {file : Path} {stem : String} (h : file.fileStem? = some stem) :
    IsEntry (stem ++ ".o").toList := by
  obtain ⟨name, hname, rfl⟩ := Option.map_eq_some_iff.1 h
  have hslash : '/' ∉ (splitExtension name).1 :=
    fun hmem => (isEntry_of_fileName? hname).1 ((splitExtension_isPrefix name).subset hmem)
  rw [String.toList_append, String.toList_ofList]
  have hlast : ((splitExtension name).1 ++ ".o".toList).getLast? = some 'o' := by
    rw [List.getLast?_append]
    rfl
  refine isEntry_of_getLast? ?_ hlast (by decide)
  rw [List.mem_append]
  exact not_or.2 ⟨hslash, by decide⟩

end Path

namespace Compile

open BuildSettings.Path

variable {ctx other : CompileContext} {directory object : Path} {stem stem' : String}

/-! ### Objects and units -/

/-- The directory of the object files of a target. -/
def objectDirectory? (ctx : CompileContext) : Option Path :=
  ctx.arch?.bind fun arch =>
    ((ctx.settings.filled? "TARGET_TEMP_DIR").or
      (ctx.settings.filled? "CONFIGURATION_TEMP_DIR")).map fun temp =>
        Path.mk temp / "Objects-normal" / arch

/-- The object file and the index unit of the file. -/
def HasOutput (ctx : CompileContext) (object unit : Path) : Prop :=
  output.arguments ctx = ["-o", object.text, "-index-unit-output-path", unit.text]

instance (ctx : CompileContext) (object unit : Path) : Decidable (HasOutput ctx object unit) :=
  inferInstanceAs (Decidable (_ = _))

/-- Where there is output, it is made of the stem of the file and the directory of objects, and of
nothing else about the file. -/
theorem exists_hasOutput (h : output.arguments ctx ≠ []) :
    ∃ file stem directory, ctx.file = some file ∧ file.fileStem? = some stem ∧
      objectDirectory? ctx = some directory ∧
      HasOutput ctx (directory / (stem ++ ".o"))
        ⟨unitPath (directory / (stem ++ ".o")) (intermediates ctx)⟩ := by
  unfold HasOutput
  unfold output at h ⊢
  dsimp only at h ⊢
  split at h
  next stem arch temp hstem harch htemp =>
    obtain ⟨file, hfile, hstem⟩ := Option.bind_eq_some_iff.1 hstem
    refine ⟨file, stem, Path.mk temp / "Objects-normal" / arch, hfile, hstem, ?_, rfl⟩
    rw [objectDirectory?, harch, htemp]
    rfl
  next => exact absurd rfl h

/-- The directory of the object files is never empty, for the architecture at its end is not. So the
object file is put behind a slash. -/
theorem objectDirectory?_ne_nil (h : objectDirectory? ctx = some directory) :
    directory.text.toList ≠ [] := by
  obtain ⟨arch, harch, hdirectory⟩ := Option.bind_eq_some_iff.1 h
  obtain ⟨temp, -, rfl⟩ := Option.map_eq_some_iff.1 hdirectory
  have hfilled : 0 < arch.length := by
    rcases Option.or_eq_some_iff.1 harch with hcurrent | ⟨-, hnative⟩
    · exact Settings.length_pos_of_filled? hcurrent
    · exact Settings.length_pos_of_filled? hnative
  refine join_ne_nil fun hnil => ?_
  rw [String.toList_eq_nil_iff.1 hnil] at hfilled
  cases hfilled

/-- The object file has its name behind the last slash, since its directory is not empty and the
name does not start at the root. -/
theorem exists_object_eq (hdirectory : directory.text.toList ≠ [])
    (hobject : IsEntry (stem ++ ".o").toList) :
    ∃ front, (directory / (stem ++ ".o")).text.toList = front ++ '/' :: (stem ++ ".o").toList :=
  exists_join_eq hdirectory fun hhead => hobject.1 (List.mem_of_head? hhead)

/-- The unit has the name of its object file, unless no step of the object file is left. That
happens if the object file is the directory of intermediate files itself. -/
theorem fileName?_unitPath {front name : List Char} (h : IsEntry name)
    (htext : object.text.toList = front ++ '/' :: name) (intermediates : Path) :
    (intermediates.components = object.components ∧ unitPath object intermediates = "/") ∨
      fileName? ⟨unitPath object intermediates⟩ = some name := by
  unfold unitPath
  split
  next relative hafter =>
    rcases text_after h htext hafter with ⟨hsame, rfl⟩ | ⟨front', hrelative⟩
    · exact .inl ⟨hsame, rfl⟩
    · have hunit : ("/" ++ relative.text).toList = front' ++ '/' :: name := by
        rw [String.toList_append, ← hrelative]
        rfl
      exact .inr (fileName?_of_append h hunit)
  next => exact .inr (fileName?_of_append h htext)

/-- Different stems make different objects and different units in a directory. The names at the end
of the paths tell the objects apart, and the units as well, unless a unit is the root; then its
object is the directory of intermediate files, and the other object is not. -/
theorem components_object_ne (hdirectory : directory.text.toList ≠ [])
    (hobject : IsEntry (stem ++ ".o").toList) (hobject' : IsEntry (stem' ++ ".o").toList)
    (hne : stem ≠ stem') (intermediates : Path) :
    (directory / (stem ++ ".o")).components ≠ (directory / (stem' ++ ".o")).components ∧
      Path.components ⟨unitPath (directory / (stem ++ ".o")) intermediates⟩ ≠
        Path.components ⟨unitPath (directory / (stem' ++ ".o")) intermediates⟩ := by
  obtain ⟨front, htext⟩ := exists_object_eq hdirectory hobject
  obtain ⟨front', htext'⟩ := exists_object_eq hdirectory hobject'
  have hnames : (stem ++ ".o").toList ≠ (stem' ++ ".o").toList := by
    rw [String.toList_append, String.toList_append]
    exact fun heq => hne (String.toList_inj.1 (List.append_cancel_right heq))
  have hobjects : (directory / (stem ++ ".o")).components ≠
      (directory / (stem' ++ ".o")).components := by
    intro hsteps
    have hsame := fileName?_congr hsteps
    rw [fileName?_of_append hobject htext, fileName?_of_append hobject' htext'] at hsame
    exact hnames (Option.some.inj hsame)
  refine ⟨hobjects, fun hsteps => ?_⟩
  have hsame := fileName?_congr hsteps
  -- four cases: each unit has the name of its object or is the root
  have hroot : fileName? ⟨"/"⟩ = none := rfl
  rcases fileName?_unitPath hobject htext intermediates with ⟨hall, hunit⟩ | hunit
  · rcases fileName?_unitPath hobject' htext' intermediates with ⟨hall', -⟩ | hunit'
    · exact hobjects (hall.symm.trans hall')
    · rw [hunit, hunit', hroot] at hsame
      cases hsame
  · rcases fileName?_unitPath hobject' htext' intermediates with ⟨-, hunit'⟩ | hunit'
    · rw [hunit, hunit', hroot] at hsame
      cases hsame
    · rw [hunit, hunit'] at hsame
      exact hnames (Option.some.inj hsame)

/-! ### Two files of a target -/

/-- The directory of the object files depends on the settings alone, so it is the same for all files
of a target. -/
theorem objectDirectory?_congr (h : other.settings = ctx.settings) :
    objectDirectory? other = objectDirectory? ctx := by
  unfold objectDirectory? CompileContext.arch?
  rw [h]

theorem intermediates_congr (h : other.settings = ctx.settings)
    (hderived : other.derivedData = ctx.derivedData) : intermediates other = intermediates ctx := by
  unfold intermediates
  rw [h, hderived]

/-- **Outputs**: if two files of a target have output at all, then files with different stems have
object files and index units that are different paths, and files with the same stem have the same
output. -/
theorem output_of_stems (hsettings : other.settings = ctx.settings)
    (hderived : other.derivedData = ctx.derivedData) (h : output.arguments ctx ≠ [])
    (h' : output.arguments other ≠ []) :
    ∃ file file' object object' unit unit', ctx.file = some file ∧ other.file = some file' ∧
      HasOutput ctx object unit ∧ HasOutput other object' unit' ∧
      (file.fileStem? ≠ file'.fileStem? →
        object.components ≠ object'.components ∧ unit.components ≠ unit'.components) ∧
      (file.fileStem? = file'.fileStem? → object = object' ∧ unit = unit') := by
  obtain ⟨file, stem, directory, hfile, hstem, hdirectory, houtput⟩ := exists_hasOutput h
  obtain ⟨file', stem', directory', hfile', hstem', hdirectory', houtput'⟩ := exists_hasOutput h'
  -- the stems are all that the two do not share
  rw [objectDirectory?_congr hsettings, hdirectory] at hdirectory'
  obtain rfl := Option.some.inj hdirectory'
  rw [intermediates_congr hsettings hderived] at houtput'
  refine ⟨file, file', _, _, _, _, hfile, hfile', houtput, houtput', fun hne => ?_, fun heq => ?_⟩
  · rw [hstem, hstem'] at hne
    exact components_object_ne (objectDirectory?_ne_nil hdirectory) (isEntry_object hstem)
      (isEntry_object hstem') (fun heq => hne (congrArg some heq)) (intermediates ctx)
  · rw [hstem, hstem'] at heq
    obtain rfl := Option.some.inj heq
    exact ⟨rfl, rfl⟩

/-- A target whose directory of intermediate files is one of its object files. -/
def outputTarget : CompileContext where
  settings := .ofList [("TARGET_TEMP_DIR", "/t"), ("CURRENT_ARCH", "arm64"),
    ("OBJROOT", "/t/./Objects-normal//arm64/View.o")]
  derivedData := ⟨"/dd/Hello-abc"⟩

/-- No step of the one object file is left for its unit, and all steps of the other. -/
theorem output_of_stems_view :
    let view := outputTarget.forFile ⟨"/p/a/View.m"⟩
    let model := outputTarget.forFile ⟨"/p/b/Model.swift"⟩
    ∃ object object' unit unit', HasOutput view object unit ∧ HasOutput model object' unit' ∧
      object.components ≠ object'.components ∧ unit.components ≠ unit'.components := by
  intro view model
  obtain ⟨file, file', object, object', unit, unit', hfile, hfile', hview, hmodel, hdiffer, -⟩ :=
    @output_of_stems view model rfl rfl (by decide +kernel) (by decide +kernel)
  obtain rfl := Option.some.inj hfile
  obtain rfl := Option.some.inj hfile'
  exact ⟨object, object', unit, unit', hview, hmodel, hdiffer (by decide +kernel)⟩

/-- Two files of a target in different directories have one object file and one unit. -/
theorem output_of_namesakes :
    let one := outputTarget.forFile ⟨"/p/a/Util.m"⟩
    let two := outputTarget.forFile ⟨"/p/b/Util.m"⟩
    Path.components ⟨"/p/a/Util.m"⟩ ≠ Path.components ⟨"/p/b/Util.m"⟩ ∧
      HasOutput one ⟨"/t/Objects-normal/arm64/Util.o"⟩ ⟨"/t/Objects-normal/arm64/Util.o"⟩ ∧
      HasOutput two ⟨"/t/Objects-normal/arm64/Util.o"⟩ ⟨"/t/Objects-normal/arm64/Util.o"⟩ := by
  decide +kernel

end Compile

end BuildSettings
