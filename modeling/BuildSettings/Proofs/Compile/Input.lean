import BuildSettings.Compile.Arguments

/-!
# The file that is compiled

The dialect of a file decides which compiler takes it, and the extension decides the dialect,
whatever the case of its letters, unless the dialect is known from elsewhere. Which files the
Swift compiler is given is decided once more, by the extension `swift` in small letters. So the
two tests part where the extension has capitals or where the dialect was not told by it, and there
the compiler does not get the file that the arguments are for.

* `ofPath_eq_swift_iff` — the files that go to the Swift compiler by their names.
* `input_of_file` — the file is an input of its own compilation, except for these.
-/

namespace BuildSettings

/-! ### Dialects -/

namespace Dialect

/-- No other extension stands for Swift. -/
theorem key_of_mem_extensions : ∀ e ∈ extensions, e.2 = swift → e.1 = "swift" := by
  decide

/-- An extension stands for Swift exactly if it is `swift` with its ASCII letters made small. For
any other one either the table has another dialect or the extension itself is kept. -/
theorem ofExtension_eq_swift_iff {extension : String} :
    ofExtension extension = .swift ↔ Text.asciiLower extension = "swift" := by
  constructor
  · intro h
    unfold ofExtension at h
    cases hlookup : extensions.lookup (Text.asciiLower extension) with
    | none => simp [hlookup] at h
    | some dialect =>
      obtain ⟨before, after, hsplit, -⟩ := List.lookup_eq_some_iff.1 hlookup
      have hmem : (Text.asciiLower extension, dialect) ∈ extensions := by
        rw [hsplit]
        exact List.mem_append_right _ (List.mem_cons_self ..)
      refine key_of_mem_extensions _ hmem ?_
      simpa [hlookup] using h
  · intro h
    simp only [ofExtension, h]
    rfl

/-- A file without an extension is not Swift. -/
theorem ofPath_eq_swift_iff {path : Path} :
    ofPath path = .swift ↔
      ∃ extension, path.extension? = some extension ∧ Text.asciiLower extension = "swift" := by
  unfold ofPath
  cases path.extension? with
  | none => simp
  | some extension => simp [ofExtension_eq_swift_iff]

/-- One dialect is for the Swift compiler, all others are for the compiler of the C family. -/
theorem compiler_eq_swift_iff {dialect : Dialect} : dialect.compiler = .swift ↔ dialect = .swift := by
  unfold compiler
  cases dialect <;> simp [isSwift]

end Dialect

/-! ### Contexts of files -/

namespace CompileContext

open Compile

/-- The context of a file. Its name tells its dialect, unless that is known from elsewhere. -/
def about (ctx : CompileContext) (file : Path) (known : Option Dialect) : CompileContext :=
  match known with
  | none => ctx.forFile file
  | some dialect => (ctx.forFile file).withDialect dialect

variable {ctx : CompileContext}

theorem isSwift_eq_true_iff : ctx.isSwift = true ↔ ctx.compiler = .swift :=
  beq_iff_eq

/-- A dialect that is known does not touch the file. -/
theorem file_about (file : Path) (known : Option Dialect) :
    (ctx.about file known).file = some file := by
  cases known <;> rfl

/-- The Swift compiler takes the files with this extension, unless something else is known: the
context for a file has the compiler of the dialect that its name tells, whatever it had before. -/
theorem compiler_forFile_eq_swift_iff {file : Path} :
    (ctx.forFile file).compiler = .swift ↔
      ∃ extension, file.extension? = some extension ∧ Text.asciiLower extension = "swift" :=
  Dialect.compiler_eq_swift_iff.trans Dialect.ofPath_eq_swift_iff

/-- The arguments of a provider stand together, somewhere among all arguments. -/
theorem isInfix_arguments {p : ArgumentProvider} (hp : p ∈ providers) :
    p.arguments ctx <:+: ctx.arguments := by
  have hmem : p.arguments ctx ∈ providers.map fun q => q.arguments ctx := List.mem_map_of_mem hp
  exact List.infix_of_mem_flatten hmem

end CompileContext

/-! ### Swift files -/

namespace Compile

theorem mem_of_mem_distinctPaths {seen ps : List Path} {p : Path} (h : p ∈ distinctPaths seen ps) :
    p ∈ ps := by
  fun_induction distinctPaths seen ps with
  | case1 seen => exact h
  | case2 seen q ps hseen ih => exact List.mem_cons_of_mem _ (ih h)
  | case3 seen q ps hnew ih =>
    rcases List.mem_cons.1 h with rfl | h
    · exact List.mem_cons_self ..
    · exact List.mem_cons_of_mem _ (ih h)

/-- The first path of a list has no path before it, so it is kept. -/
theorem head?_distinctPaths (ps : List Path) : (distinctPaths [] ps).head? = ps.head? := by
  cases ps <;> rfl

variable {ctx : CompileContext} {file : Path}

/-- A Swift file that is asked for comes first: it stands in front of the sources and passes the
test for Swift files. -/
theorem head?_swiftFiles (hswift : ctx.compiler = .swift) (hfile : ctx.file = some file)
    (hextension : file.extension? = some "swift") :
    (swiftFiles.arguments ctx).head? = some file.text := by
  have hkept : isSwiftFile file = true := by
    rw [isSwiftFile, hextension]
    rfl
  simp only [swiftFiles, CompileContext.isSwift_eq_true_iff.2 hswift, if_true, hfile,
    Option.toList_some, List.singleton_append, List.filter_cons_of_pos hkept, List.head?_map,
    head?_distinctPaths, List.head?_cons, Option.map_some]

/-- Only Swift files are listed, and of a path its text tells the extension. -/
theorem extension?_of_mem_swiftFiles (h : file.text ∈ swiftFiles.arguments ctx) :
    file.extension? = some "swift" := by
  unfold swiftFiles at h
  dsimp only at h
  split at h
  · obtain ⟨p, hp, htext⟩ := List.mem_map.1 h
    have hkept := (List.mem_filter.1 (mem_of_mem_distinctPaths hp)).2
    obtain rfl : p = file := by
      cases p
      cases file
      exact congrArg Path.mk htext
    exact eq_of_beq hkept
  · cases h

end Compile

/-! ### The input -/

namespace CompileContext

open Compile

/-- A target with Swift files, two of which are the same. -/
def swiftTarget : CompileContext where
  settings := Dictionary.ofList [("PRODUCT_MODULE_NAME", "Hello")]
  derivedData := ⟨"/dd/Hello-abc"⟩
  sources := [⟨"/p/A.swift"⟩, ⟨"/p//B.swift"⟩, ⟨"/p/Bridge.h"⟩]

/-- **Inputs**: the compiler of the C family is given the file behind `-c`. The Swift compiler is
given the file as the first one of the list, if the extension is `swift`, and not at all
otherwise. By its name a file goes there if the extension is `swift` in any case of its letters. -/
theorem input_of_file (ctx : CompileContext) (file : Path) (known : Option Dialect) :
    let c := ctx.about file known
    (c.compiler = .clang →
      clangInput.arguments c = ["-c", file.text] ∧ ["-c", file.text] <:+: c.arguments) ∧
    (c.compiler = .swift →
      swiftFiles.arguments c <:+: c.arguments ∧
        (file.extension? = some "swift" →
          (swiftFiles.arguments c).head? = some file.text) ∧
        (file.extension? ≠ some "swift" → file.text ∉ swiftFiles.arguments c)) ∧
    ((ctx.forFile file).compiler = .swift ↔
      ∃ extension, file.extension? = some extension ∧
        Text.asciiLower extension = "swift") := by
  intro c
  have hfile : c.file = some file := file_about file known
  refine ⟨fun hclang => ?_, fun hswift => ?_, compiler_forFile_eq_swift_iff⟩
  · have hnot : ¬ c.isSwift = true := by
      rw [isSwift_eq_true_iff, hclang]
      decide
    have hinput : clangInput.arguments c = ["-c", file.text] := by
      simp only [clangInput, if_neg hnot, hfile]
      rfl
    have hprovider : clangInput ∈ providers := by simp [providers]
    exact ⟨hinput, hinput ▸ isInfix_arguments hprovider⟩
  · have hprovider : swiftFiles ∈ providers := by simp [providers]
    refine ⟨isInfix_arguments hprovider, fun hextension => ?_, fun hextension hmem => ?_⟩
    · exact head?_swiftFiles hswift hfile hextension
    · exact hextension (extension?_of_mem_swiftFiles hmem)

/-- `B.swift` is asked for in another spelling than that of the sources; the header takes the
dialect that is known of it and not the one of its name. -/
theorem input_of_file_sources :
    (swiftFiles.arguments (swiftTarget.about ⟨"/p/B.swift"⟩ none)).head? = some "/p/B.swift" ∧
      ["-c", "/p/Bridge.h"] <:+:
        (swiftTarget.about ⟨"/p/Bridge.h"⟩ (some .objectiveCpp)).arguments := by
  obtain ⟨-, hswift, -⟩ := input_of_file swiftTarget ⟨"/p/B.swift"⟩ none
  obtain ⟨hclang, -, -⟩ := input_of_file swiftTarget ⟨"/p/Bridge.h"⟩ (some .objectiveCpp)
  exact ⟨(hswift (by decide)).2.1 (by decide), (hclang (by decide)).2⟩

/-- A file whose extension is written in capitals is Swift and no input, and neither is one that
is known to be Swift by another extension. -/
theorem not_input_of_capitals :
    let capitals := swiftTarget.about ⟨"/p/Main.SWIFT"⟩ none
    let other := swiftTarget.about ⟨"/p/Main.inc"⟩ (some .swift)
    capitals.compiler = .swift ∧ "/p/Main.SWIFT" ∉ capitals.arguments ∧
      other.compiler = .swift ∧ "/p/Main.inc" ∉ other.arguments := by
  decide

end CompileContext

end BuildSettings
