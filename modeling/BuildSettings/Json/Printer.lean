import BuildSettings.Digest.Hex
import BuildSettings.Json.Basic

/-!
# JSON text

Writes a JSON value on one line, or indented by two blanks per level. Of the characters of a
text only quotes, backslashes and controls are escaped.
-/

namespace BuildSettings.Json

/-- The spelling of one character of a text. -/
def escapeChar (c : Char) : List Char :=
  if c = '"' then ['\\', '"']
  else if c = '\\' then ['\\', '\\']
  else if c = '\n' then ['\\', 'n']
  else if c = '\r' then ['\\', 'r']
  else if c = '\t' then ['\\', 't']
  else if c.toNat = 8 then ['\\', 'b']
  else if c.toNat = 12 then ['\\', 'f']
  else if c.toNat < 32 then
    ['\\', 'u', '0', '0', Digest.hexDigit (c.toNat / 16), Digest.hexDigit (c.toNat % 16)]
  else [c]

/-- A text between quotes. -/
def escape (s : String) : List Char :=
  '"' :: s.toList.flatMap escapeChar ++ ['"']

/-- An opening brace. -/
def openBrace : Char := Char.ofNat 123

/-- A closing brace. -/
def closeBrace : Char := Char.ofNat 125

/-- How a value is laid out: what stands before an item at a depth, and after the colon. -/
structure Layout where
  lineAt : Nat → List Char
  afterColon : List Char

/-- Everything on one line. -/
def Layout.compact : Layout := ⟨fun _ => [], []⟩

/-- One item per line, indented by two blanks per level. -/
def Layout.indented : Layout :=
  ⟨fun depth => '\n' :: List.replicate (2 * depth) ' ', [' ']⟩

mutual

/-- Writes a value that stands at the given depth, in front of `rest`. -/
def write (layout : Layout) (depth : Nat) (rest : List Char) : Json → List Char
  | .null => 'n' :: 'u' :: 'l' :: 'l' :: rest
  | .bool true => 't' :: 'r' :: 'u' :: 'e' :: rest
  | .bool false => 'f' :: 'a' :: 'l' :: 's' :: 'e' :: rest
  | .number n => n.toChars ++ rest
  | .text s => escape s ++ rest
  | .array [] => '[' :: ']' :: rest
  | .array (item :: items) =>
    '[' :: layout.lineAt (depth + 1) ++
      write layout (depth + 1)
        (writeItems layout (depth + 1) (layout.lineAt depth ++ ']' :: rest) items) item
  | .object [] => openBrace :: closeBrace :: rest
  | .object ((key, value) :: members) =>
    openBrace :: layout.lineAt (depth + 1) ++ escape key ++ ':' :: layout.afterColon ++
      write layout (depth + 1)
        (writeMembers layout (depth + 1) (layout.lineAt depth ++ closeBrace :: rest) members) value

/-- Writes further items, each after a comma. -/
def writeItems (layout : Layout) (depth : Nat) (rest : List Char) : List Json → List Char
  | [] => rest
  | item :: items =>
    ',' :: layout.lineAt depth ++
      write layout depth (writeItems layout depth rest items) item

/-- Writes further members, each after a comma. -/
def writeMembers (layout : Layout) (depth : Nat) (rest : List Char) :
    List (String × Json) → List Char
  | [] => rest
  | (key, value) :: members =>
    ',' :: layout.lineAt depth ++ escape key ++ ':' :: layout.afterColon ++
      write layout depth (writeMembers layout depth rest members) value

end

/-- The value on one line. -/
def compact (value : Json) : String :=
  String.ofList (write .compact 0 [] value)

/-- The value over several lines. -/
def pretty (value : Json) : String :=
  String.ofList (write .indented 0 [] value)

end BuildSettings.Json
