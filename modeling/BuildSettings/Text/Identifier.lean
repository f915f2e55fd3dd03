/-!
# Identifiers

Two ways to make an identifier of any text: the form that C99 compilers accept and the form of
RFC 1034 labels. Both look at ASCII letters and digits only; every other character that is not
kept becomes one filler character.
-/

namespace BuildSettings.Text

/-- ASCII letters, digits and the underscore. -/
def isWordChar (c : Char) : Bool :=
  c.isAlphanum || c == '_'

/-- Letters, digits and `_` stay, any other character becomes `_`. -/
def wordChars (cs : List Char) : List Char :=
  cs.map fun c => if isWordChar c then c else '_'

/-- A C99 identifier: word characters, with a `_` before a leading digit. -/
def c99Identifier (s : String) : String :=
  match wordChars s.toList with
  | [] => ""
  | c :: cs => String.ofList (if c.isDigit then '_' :: c :: cs else c :: cs)

/-- An RFC 1034 identifier: letters, digits, `-` and `.` stay, any other character becomes `-`. -/
def rfc1034Identifier (s : String) : String :=
  String.ofList (s.toList.map fun c => if c.isAlphanum || c == '-' || c == '.' then c else '-')

/-- The text with its ASCII capitals made small. -/
def asciiLower (s : String) : String :=
  String.ofList (s.toList.map Char.toLower)

end BuildSettings.Text
