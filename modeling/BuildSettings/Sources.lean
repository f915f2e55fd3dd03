import BuildSettings.FileTree
import BuildSettings.Project.Basic

/-!
# Source files of a target

A target names files and directories. A directory stands for all files below it whose names, and
those of the directories on the way, do not start with a dot; they come in the order of names.

Notes on how the functions mirror a program that does the same:
- A program walks a directory with a cursor that sorts the entries of each directory and drops the
  hidden ones with all that is below them. Here the walk is a recursion over the node, and the
  sorting is that of a dictionary: `Dictionary` orders its keys as the bytes of the names are
  ordered (`utf8Bytes_lt_iff`).
- The directory that a target names is walked even if its own name starts with a dot. In a program
  that is a test of the depth; here `isHiddenName` is asked about entries alone.
- Names are texts. A name on a disk that is no text counts as not hidden in a program; there is no
  such name here (see the notes in `FileTree`).
- Entries that cannot be read are logged and passed over in a program. No entry of a tree is one.
-/

namespace BuildSettings

/-- What a source entry names. -/
inductive SourceKind where
  | file
  | directory
deriving DecidableEq, Inhabited, Repr

/-- The name of a kind. -/
def SourceKind.name : SourceKind → String
  | .file => "file"
  | .directory => "directory"

/-- A file or directory that a target names. -/
structure SourceItem where
  path : Path
  kind : SourceKind
deriving DecidableEq, Inhabited, Repr

/-- Whether the name of a directory entry hides it. -/
def isHiddenName (name : String) : Bool :=
  name.toList.head? == some '.'

mutual

/-- The files at and below a node that was reached by the path. -/
def FileNode.filesBelow (path : Path) : FileNode → List Path
  | .file _ => [path]
  | .directory entries => (Dictionary.ofList (filesOfEntries path entries)).entries.flatMap (·.2)

/-- The files below each entry of a directory that is not hidden. -/
def filesOfEntries (path : Path) : List (String × FileNode) → List (String × List Path)
  | [] => []
  | (name, node) :: rest =>
    if isHiddenName name then filesOfEntries path rest
    else (name, node.filesBelow (path / name)) :: filesOfEntries path rest

end

namespace SourceItem

/-- The entry for a reference, seen from the project's folder. -/
def ofReference (files : FileTree) (project : Project) (reference : String) : SourceItem :=
  let path := project.folder / reference
  ⟨path, if files.isDirectory path then .directory else .file⟩

/-- The entries of a target. -/
def ofTarget (files : FileTree) (project : Project) (target : Target) : List SourceItem :=
  target.sourceFiles.map (ofReference files project)

/-- The files that an entry stands for. -/
def files (tree : FileTree) (item : SourceItem) : List Path :=
  match item.kind with
  | .file => [item.path]
  | .directory =>
    match tree.find item.path with
    | .ok node => node.filesBelow item.path
    | .error _ => []

/-- The files that entries stand for, entry by entry. -/
def expand (tree : FileTree) (items : List SourceItem) : List Path :=
  items.flatMap (files tree)

end SourceItem

end BuildSettings
