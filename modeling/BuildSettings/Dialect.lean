import BuildSettings.Path
import BuildSettings.Text.Identifier

/-!
# Dialects of source files

The language of a source file, by its tag in a file index or by the extension of the file. Of the
two compilers, one takes the Swift files and the other all the rest.
-/

namespace BuildSettings

/-- The language of a source file. -/
inductive Dialect where
  | c
  | cpp
  | swift
  | objectiveC
  | objectiveCpp
  | metal
  | interfaceBuilder
  | other (tag : String)
deriving DecidableEq, Inhabited, Repr

/-- The two compilers. -/
inductive Compiler where
  | swift
  | clang
deriving DecidableEq, Inhabited, Repr

namespace Dialect

/-- The tag of a dialect. -/
def tag : Dialect → String
  | c => "Xcode.SourceCodeLanguage.C"
  | cpp => "Xcode.SourceCodeLanguage.C-Plus-Plus"
  | swift => "Xcode.SourceCodeLanguage.Swift"
  | objectiveC => "Xcode.SourceCodeLanguage.Objective-C"
  | objectiveCpp => "Xcode.SourceCodeLanguage.Objective-C-Plus-Plus"
  | metal => "Xcode.SourceCodeLanguage.Metal"
  | interfaceBuilder => "Xcode.SourceCodeLanguage.InterfaceBuilder"
  | other tag => tag

/-- The dialects with a tag of their own. -/
def known : List Dialect :=
  [c, cpp, swift, objectiveC, objectiveCpp, metal, interfaceBuilder]

/-- The dialect with this tag; a tag that is not known is kept. -/
def ofTag (tag : String) : Dialect :=
  (known.find? fun d => d.tag == tag).getD (other tag)

/-- The extensions of each dialect. -/
def extensions : List (String × Dialect) :=
  [("swift", swift), ("c", c), ("cpp", cpp), ("cc", cpp), ("cxx", cpp), ("c++", cpp),
    ("hpp", cpp), ("hh", cpp), ("hxx", cpp), ("m", objectiveC), ("h", objectiveC),
    ("mm", objectiveCpp), ("metal", metal), ("storyboard", interfaceBuilder),
    ("xib", interfaceBuilder)]

/-- The dialect of files with this extension; the case of ASCII letters does not count. -/
def ofExtension (extension : String) : Dialect :=
  let small := Text.asciiLower extension
  (extensions.lookup small).getD (other small)

/-- The dialect of a file by its name. -/
def ofPath (path : Path) : Dialect :=
  (path.extension?.map ofExtension).getD (other "")

/-- Whether the dialect is Swift. -/
def isSwift : Dialect → Bool
  | swift => true
  | _ => false

/-- Whether the dialect is of the C family. -/
def isCFamily : Dialect → Bool
  | c | cpp | objectiveC | objectiveCpp => true
  | _ => false

/-- Whether the dialect is compiled as C++. -/
def isCpp : Dialect → Bool
  | cpp | objectiveCpp => true
  | _ => false

/-- Whether the dialect is Objective-C, with or without C++. -/
def isObjectiveC : Dialect → Bool
  | objectiveC | objectiveCpp => true
  | _ => false

/-- The name of the language for the compiler of the C family. -/
def clangLanguage? : Dialect → Option String
  | c => some "c"
  | cpp => some "c++"
  | objectiveC => some "objective-c"
  | objectiveCpp => some "objective-c++"
  | _ => none

/-- The compiler of a dialect. -/
def compiler (dialect : Dialect) : Compiler :=
  if dialect.isSwift then .swift else .clang

/-- Reading a tag and writing it back gives the same text. -/
@[simp] theorem tag_ofTag (s : String) : (ofTag s).tag = s := by
  unfold ofTag
  cases h : known.find? fun d => d.tag == s with
  | none => rfl
  | some d => simpa using List.find?_some h

end Dialect

end BuildSettings
