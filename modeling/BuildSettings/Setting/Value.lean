import BuildSettings.Json.Decoder
import BuildSettings.Text.TokenList

/-!
# Values of settings

Documents give the value of a setting as one text or as a list of texts. All later work is on one
text: a list becomes its entries with one blank between them. `Settings` maps names to texts.
-/

namespace BuildSettings

/-- The value of a setting in a document. -/
inductive SettingValue where
  | text (value : String)
  | list (entries : List String)
deriving DecidableEq, Inhabited, Repr

namespace SettingValue

/-- The value as one text. -/
def flat : SettingValue → String
  | text value => value
  | list entries => " ".intercalate entries

/-- Reads a value. -/
def decode : Json.Decoder SettingValue :=
  Json.Decoder.textOrTexts text list

/-- Writes a value in the form it has. -/
def toJson : SettingValue → Json
  | text value => .text value
  | list entries => .ofTexts entries

end SettingValue

/-- Settings as texts by name. -/
abbrev Settings := Dictionary String

namespace Settings

/-- The value of a setting that has a character other than blanks. -/
def filled? (settings : Settings) (key : String) : Option String :=
  (settings.get? key).filter fun value => !Text.isBlankText value

/-- Whether the value is `YES`. -/
def isYes (settings : Settings) (key : String) : Bool :=
  settings.get? key == some "YES"

/-- The tokens of a list-valued setting. -/
def list (settings : Settings) (key : String) : List String :=
  ((settings.get? key).map Text.splitList).getD []

end Settings

end BuildSettings
