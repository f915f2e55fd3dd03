import BuildSettings.Dictionary
import BuildSettings.Json.Number

/-!
# JSON values

A JSON value as a tree. An object keeps its members in a list; the functions that build objects
keep the keys apart, and look-ups take the first member with the key.
-/

namespace BuildSettings

/-- A JSON value. -/
inductive Json where
  | null
  | bool (value : Bool)
  | number (value : Json.Number)
  | text (value : String)
  | array (items : List Json)
  | object (members : List (String × Json))
deriving Inhabited

namespace Json

/-- The value of a member of an object. -/
def field? (key : String) : Json → Option Json
  | .object members => members.lookup key
  | _ => none

/-- The value behind a sequence of member names. -/
def at? (value : Json) (path : List String) : Option Json :=
  path.foldl (fun v key => v.bind (field? key)) (some value)

/-- The content of a text. -/
def asText? : Json → Option String
  | .text s => some s
  | _ => none

/-- The content of a truth value. -/
def asBool? : Json → Option Bool
  | .bool b => some b
  | _ => none

/-- The items of an array; anything else has none. -/
def items : Json → List Json
  | .array items => items
  | _ => []

/-- The members of an object; anything else has none. -/
def members : Json → List (String × Json)
  | .object members => members
  | _ => []

/-- Whether the value is a text. -/
def isText (value : Json) : Bool :=
  value.asText?.isSome

/-- The text in a field. -/
def textAt? (value : Json) (key : String) : Option String :=
  (value.field? key).bind asText?

/-- The text in a field, empty when there is none. -/
def textAt (value : Json) (key : String) : String :=
  (value.textAt? key).getD ""

/-- The items of the array in a field. -/
def itemsAt (value : Json) (key : String) : List Json :=
  ((value.field? key).map items).getD []

/-- The texts of an array. -/
def texts (value : Json) : List String :=
  value.items.filterMap asText?

/-- The members of the object in a field. -/
def membersAt (value : Json) (key : String) : List (String × Json) :=
  ((value.field? key).map members).getD []

/-- A list of texts as an array. -/
def ofTexts (values : List String) : Json :=
  .array (values.map .text)

/-- A missing text is `null`. -/
def ofText? : Option String → Json
  | some s => .text s
  | none => .null

/-- The member for a value that may be missing: one or none. -/
def optionalMember {α : Type} (key : String) (f : α → Json) (value : Option α) :
    List (String × Json) :=
  value.toList.map fun v => (key, f v)

/-- A dictionary as an object with its keys in order. -/
def ofDictionary {α : Type} (f : α → Json) (d : Dictionary α) : Json :=
  .object (d.entries.map fun e => (e.1, f e.2))

/-- A dictionary of texts as an object. -/
def ofSettings (d : Dictionary String) : Json :=
  ofDictionary .text d

/-- The members of an object as a dictionary of texts; the last of equal keys counts, and members
that are no texts do not. -/
def toSettings (value : Json) : Dictionary String :=
  .ofList (value.members.filterMap fun m => m.2.asText?.map (m.1, ·))

end Json

end BuildSettings
