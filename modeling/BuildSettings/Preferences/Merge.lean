import BuildSettings.Json.Basic
import BuildSettings.Text.Blank
import BuildSettings.Text.Cut
import BuildSettings.Text.Quoted

/-!
# Merging preferences

Preferences come in layers, each a JSON value. Where two layers have an object in the same
place, the objects are merged member by member; anything else of the higher layer replaces. The
highest layer may be given as texts `dotted.key=value`.
-/

namespace BuildSettings.Preferences

mutual

/-- Lays a value over another. -/
def merge (base : Json) : Json → Json
  | .object above =>
    match base with
    | .object members => .object (mergeMembers members above)
    | _ => .object above
  | above => above

/-- Lays members over those of an object, which are in order. -/
def mergeMembers (members : List (String × Json)) : List (String × Json) → List (String × Json)
  | [] => members
  | (key, value) :: rest =>
    let merged := match members.lookup key with
      | some below => merge below value
      | none => value
    mergeMembers (Dictionary.insertEntry key merged members) rest

end

/-- Lays layers over each other, the first lowest. -/
def mergeLayers (layers : List Json) : Json :=
  layers.foldl merge .null

/-! ### Overrides -/

/-- Why a text is no override. -/
inductive OverrideError where
  | noEquals (text : String)
  | emptyKey (text : String)
deriving DecidableEq, Repr

/-- The wording of an error. -/
def OverrideError.message : OverrideError → String
  | .noEquals text => "override " ++ Text.quoted text ++ " is not key=value"
  | .emptyKey text => "override " ++ Text.quoted text ++ " has an empty key"

/-- The items of a list between brackets. -/
def bracketed? (cs : List Char) : Option (List Char) :=
  (Text.afterStart? ['['] cs).bind (Text.beforeEnd? [']'])

/-- The value that a text gives: a truth value, a list of texts between brackets, or the text. -/
def overrideValue (cs : List Char) : Json :=
  if cs = "true".toList then .bool true
  else if cs = "false".toList then .bool false
  else match bracketed? cs with
    | some items =>
      let parts := (Text.pieces ',' items).map Text.trimChars
      .ofTexts ((parts.filter fun part => !part.isEmpty).map String.ofList)
    | none => .text (String.ofList cs)

/-- The value under a path of keys. -/
def nest (keys : List String) (value : Json) : Json :=
  keys.foldr (fun key inner => .object [(key, inner)]) value

/-- Reads an override: its path of keys and its value. -/
def readOverride (text : String) : Except OverrideError (List String × Json) :=
  match Text.cutFirst? '=' text.toList with
  | none => .error (.noEquals text)
  | some (path, value) =>
    let keys := Text.pieces '.' (Text.trimChars path)
    if keys.any List.isEmpty then .error (.emptyKey text)
    else .ok (keys.map String.ofList, overrideValue (Text.trimChars value))

/-- Lays overrides over an object, from left to right. -/
def overridesOver (base : Json) : List String → Except OverrideError Json
  | [] => .ok base
  | text :: texts =>
    match readOverride text with
    | .error e => .error e
    | .ok (keys, value) => overridesOver (merge base (nest keys value)) texts

/-- The object that overrides make. -/
def overrides (texts : List String) : Except OverrideError Json :=
  overridesOver (.object []) texts

end BuildSettings.Preferences
