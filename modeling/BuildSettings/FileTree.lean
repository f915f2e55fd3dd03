import BuildSettings.Dictionary
import BuildSettings.Path

/-!
# Trees of files

What a program can see of a disk, as a value: files with their bytes and directories with their
entries, under one root, and the working directory from which relative paths start. There are no
links. Looking a path up walks its pieces from left to right: a piece after a file fails, `..`
leads back, and `.` and empty pieces stay where they are but ask for a directory.

Notes on how the trees mirror a disk:
- Names and paths are texts. On a disk a name is a sequence of bytes that need not be a text, and a
  program that asks for the text of a name has a branch for the name that is none: such an entry is
  not hidden, is passed over as an SDK, and has no stem and no extension. No name here takes these
  branches, so nothing in this project speaks of them.
- There are no links, no other kinds of files, and no limits on who may read what. A read fails
  for one of the four reasons in `FileError` only.
- The entries of a directory are a list, and a look-up takes the first entry with the name. The
  trees that `place` makes have no two entries of one name.
- A tree does not change while a program looks at it, so a path that names a directory when it is
  asked about still names one when it is read.
-/

namespace BuildSettings

/-- A file or a directory. -/
inductive FileNode where
  | file (content : ByteArray)
  | directory (entries : List (String × FileNode))

namespace FileNode

instance : Inhabited FileNode := ⟨.directory []⟩

/-- Whether the node is a directory. -/
def isDirectory : FileNode → Bool
  | .file _ => false
  | .directory _ => true

/-- The entries of a directory; a file has none. -/
def entries : FileNode → List (String × FileNode)
  | .file _ => []
  | .directory entries => entries

/-- The directory with the node at the end of the given names replaced by its image. Directories on
the way, and at the end, are made when they are missing, and a file on the way gives room to one. -/
def alter (f : FileNode → FileNode) : List String → FileNode → FileNode
  | [], node => f node
  | name :: names, node =>
    let below := (node.entries.lookup name).getD (.directory [])
    .directory (node.entries.filter (·.1 != name) ++ [(name, alter f names below)])

/-- The directory with a leaf at the end of the given names. -/
def place (leaf : FileNode) : List String → FileNode → FileNode :=
  alter fun _ => leaf

/-- The directory with a directory at the end of the given names; one that is there stays as it
is. -/
def makeDirectory : List String → FileNode → FileNode :=
  alter fun node => .directory node.entries

end FileNode

/-- Why a path could not be read. -/
inductive FileError where
  | missing
  | notDirectory
  | isDirectory
  | notText
deriving DecidableEq, Repr

/-- The wording of the operating system. -/
def FileError.message : FileError → String
  | .missing => "No such file or directory (os error 2)"
  | .notDirectory => "Not a directory (os error 20)"
  | .isDirectory => "Is a directory (os error 21)"
  | .notText => "stream did not contain valid UTF-8"

/-- A disk with its root and the names that lead to the working directory. -/
structure FileTree where
  root : FileNode
  working : List String

namespace FileTree

/-- Walks the pieces of a path. `trail` holds the directories passed, nearest first, and ends
above `here`. -/
def walk (trail : List FileNode) (here : FileNode) : List String → Except FileError FileNode
  | [] => .ok here
  | piece :: pieces =>
    match here with
    | .file _ => .error .notDirectory
    | .directory entries =>
      if piece = "" ∨ piece = "." then walk trail here pieces
      else if piece = ".." then
        match trail with
        | [] => walk [] here pieces
        | above :: rest => walk rest above pieces
      else
        match entries.lookup piece with
        | some node => walk (here :: trail) node pieces
        | none => .error .missing

/-- The pieces that lead to a path from the root. -/
def piecesTo (tree : FileTree) (path : Path) : List String :=
  let pieces := (Text.pieces '/' path.text.toList).map String.ofList
  if path.isAbsolute then pieces else tree.working ++ pieces

/-- The node that a path names. -/
def find (tree : FileTree) (path : Path) : Except FileError FileNode :=
  if path.text = "" then .error .missing else walk [] tree.root (tree.piecesTo path)

/-- Whether the path names a file or directory. -/
def contains (tree : FileTree) (path : Path) : Bool :=
  (tree.find path).isOk

/-- Whether the path names a directory. -/
def isDirectory (tree : FileTree) (path : Path) : Bool :=
  match tree.find path with
  | .ok node => node.isDirectory
  | .error _ => false

/-- The bytes of a file. -/
def readBytes (tree : FileTree) (path : Path) : Except FileError ByteArray :=
  match tree.find path with
  | .ok (.file content) => .ok content
  | .ok (.directory _) => .error .isDirectory
  | .error e => .error e

/-- The text of a file. -/
def readText (tree : FileTree) (path : Path) : Except FileError String :=
  match tree.readBytes path with
  | .error e => .error e
  | .ok content =>
    match String.fromUTF8? content with
    | some text => .ok text
    | none => .error .notText

end FileTree

end BuildSettings
