import BuildSettings.Text.Cut

/-!
# POSIX paths

A path is kept as it was spelled. What it denotes is its list of components: repeated slashes,
inner `.` pieces and trailing slashes do not count. Operations that shorten a path keep the
spelling of what is left.

Notes on how paths mirror those of a program:
- A path is a text. Paths of a system are sequences of bytes, and stem and extension may then be no
  text, which a program treats as if they were not there. Here they are texts whenever they are
  there.
- Equality of paths in a program compares their steps, so `a//b` and `a/./b` are equal. Here `=`
  compares the spelling, and `same` the steps. Where a program compares paths, or keeps them in a
  set, the functions of this project use `same`.
- An operation of a program cuts the bytes of a path without copying. Here `Spelling` takes the path
  apart and `toPath` puts it together, and `toPath_spelling` says that nothing is lost in between.
- Only POSIX is meant: no prefix for drives, and one separator.
-/

namespace BuildSettings

/-- A POSIX path in its spelling. -/
structure Path where
  text : String
deriving DecidableEq, Inhabited, Repr

/-- One step of a path. -/
inductive Component where
  /-- The slash at the start of an absolute path. -/
  | root
  /-- A `.` at the start of a relative path. -/
  | here
  /-- The directory above. -/
  | up
  /-- An entry of the directory reached so far. -/
  | name (name : List Char)
deriving DecidableEq, Repr

namespace Path

/-- Pieces between slashes that take no step. -/
def isFiller (piece : List Char) : Bool :=
  piece == [] || piece == ['.']

/-- What a path starts with (`/`, `.` or nothing) and its pieces after that. -/
structure Spelling where
  lead : List Char
  body : List (List Char)

/-- Splits the text of a path into its start and its pieces. -/
def spelling (p : Path) : Spelling :=
  match p.text.toList with
  | '/' :: rest => ⟨['/'], Text.pieces '/' rest⟩
  | ['.'] => ⟨['.'], []⟩
  | '.' :: '/' :: rest => ⟨['.'], [] :: Text.pieces '/' rest⟩
  | chars => ⟨[], Text.pieces '/' chars⟩

/-- The text of a spelling. -/
def Spelling.toPath (s : Spelling) : Path :=
  ⟨String.ofList (s.lead ++ Text.joinPieces '/' s.body)⟩

/-- The step that a piece takes. -/
def stepOf (piece : List Char) : Component :=
  if piece = ['.', '.'] then .up else .name piece

/-- The step that the start of a path takes. -/
def leadSteps (lead : List Char) : List Component :=
  if lead = ['/'] then [.root] else if lead = ['.'] then [.here] else []

/-- The steps of a path from left to right. -/
def components (p : Path) : List Component :=
  leadSteps p.spelling.lead ++
    (p.spelling.body.filter fun piece => !isFiller piece).map stepOf

/-- Whether two paths take the same steps. -/
def same (p q : Path) : Bool :=
  p.components == q.components

/-- Whether a path starts at the root. -/
def isAbsolute (p : Path) : Bool :=
  p.text.toList.head? == some '/'

/-- The path of `child` seen from `base`: an absolute child stands for itself, any other follows
the base after one slash. -/
def join (base : Path) (child : String) : Path :=
  if child.toList.head? = some '/' then ⟨child⟩
  else if base.text.toList.getLast? = none ∨ base.text.toList.getLast? = some '/' then
    ⟨base.text ++ child⟩
  else ⟨base.text ++ "/" ++ child⟩

instance : HDiv Path String Path := ⟨join⟩

/-- Without the pieces at the end that take no step. -/
def trimBody (body : List (List Char)) : List (List Char) :=
  (body.reverse.dropWhile isFiller).reverse

/-- The path without its last step; a path of no step, or of the root alone, has none. -/
def parent? (p : Path) : Option Path :=
  match trimBody p.spelling.body with
  | [] => if p.spelling.lead = ['.'] then some ⟨""⟩ else none
  | body => some (Spelling.toPath ⟨p.spelling.lead, trimBody body.dropLast⟩)

/-- The path `levels` steps up, when there is one. -/
def ancestor? (p : Path) : Nat → Option Path
  | 0 => some p
  | levels + 1 => p.parent?.bind (·.ancestor? levels)

/-- The name in the last step. -/
def fileName? (p : Path) : Option (List Char) :=
  match p.components.getLast? with
  | some (.name n) => some n
  | _ => none

/-- A file name before and after its last dot; a dot at its start does not count. -/
def splitExtension (name : List Char) : List Char × Option (List Char) :=
  match Text.cutLast? '.' name with
  | some (before, after) => if before.isEmpty then (name, none) else (before, some after)
  | none => (name, none)

/-- The file name without its extension. -/
def fileStem? (p : Path) : Option String :=
  p.fileName?.map fun name => String.ofList (splitExtension name).1

/-- The extension of the file name, without the dot. -/
def extension? (p : Path) : Option String :=
  p.fileName?.bind fun name => (splitExtension name).2.map String.ofList

/-- Whether the steps of `ending` are the last steps of `p`. -/
def endsWith (p ending : Path) : Bool :=
  ending.components.isSuffixOf p.components

/-- Drops pieces up to and including the one that takes the `count`th step. -/
def dropSteps : Nat → List (List Char) → List (List Char)
  | 0, body => body
  | _ + 1, [] => []
  | count + 1, piece :: body =>
    if isFiller piece then dropSteps (count + 1) body else dropSteps count body

/-- What follows `base` in `p`, when the steps of `p` start with those of `base`. -/
def after? (p base : Path) : Option Path :=
  if base.components.isPrefixOf p.components then
    if base.components.isEmpty then
      some (Spelling.toPath ⟨p.spelling.lead, trimBody p.spelling.body⟩)
    else
      let steps := base.components.length - (leadSteps p.spelling.lead).length
      some (Spelling.toPath
        ⟨[], trimBody ((dropSteps steps p.spelling.body).dropWhile isFiller)⟩)
  else none

end Path

end BuildSettings
