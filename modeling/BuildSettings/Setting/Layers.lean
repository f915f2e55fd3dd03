import BuildSettings.Setting.Key
import BuildSettings.Setting.Value

/-!
# Layers of settings

A setting gets its value from five layers. From the highest: the request, the configurations of
the target, those of the project, custom defaults and built-in defaults. The first three are
explicit, the other two stand in for them.

`Layers.resolve` folds the layers from the lowest up. A value with the inherit macro takes what
was folded so far in its place; among explicit layers a further value is added to the list; any
other value replaces.

Notes on how the functions mirror a program that does the same:
- A program looks at the five layers in an array and folds a state over it. `values` is the array,
  with a truth value for the two kinds of layers, and `Folded.layer` is the step.
- Where a value cannot be joined to the lower one, a program falls out of two nested conditions to
  the plain replacement behind them. Here each branch of `Folded.layer` says its own result, and the
  replacement is the default for a `joinAdditive` that gives nothing.
- A program keeps the names in a set. Here they are the keys of a dictionary without values.
-/

namespace BuildSettings.Setting

/-- The built-in defaults. -/
def builtinDefaults : List (String × String) :=
  [("SDKROOT", "iphonesimulator"), ("PLATFORM_NAME", "iphonesimulator"), ("ARCHS", "arm64"),
    ("IPHONEOS_DEPLOYMENT_TARGET", "16.0"), ("MACOSX_DEPLOYMENT_TARGET", "13.0"),
    ("SWIFT_VERSION", "5.0"), ("TOOLCHAINS", "com.apple.dt.toolchain.XcodeDefault"),
    ("BUILD_VARIANTS", "normal")]

/-- The built-in default of a setting. -/
def builtinDefault? (key : String) : Option String :=
  builtinDefaults.lookup key

/-! ### The inherit macro -/

/-- The inherit macro in parentheses. -/
def inheritMacro : String := "$(inherited)"

/-- The inherit macro in braces. -/
def inheritMacroBraced : String := "$\x7binherited\x7d"

/-- Whether a value has the inherit macro, in either spelling. -/
def hasInherited (value : String) : Bool :=
  Text.contains value inheritMacro || Text.contains value inheritMacroBraced

/-- The value with `parent` for the inherit macro, without blanks at its ends. -/
def substituteInherited (value parent : String) : String :=
  Text.trim
    (Text.replaceAll inheritMacroBraced parent (Text.replaceAll inheritMacro parent value))

/-! ### Folding -/

/-- The value folded so far, and whether an explicit layer gave it. -/
structure Folded where
  value : Option String
  explicit : Bool
deriving DecidableEq, Inhabited, Repr

/-- Before the first layer. -/
def Folded.start : Folded := ⟨none, false⟩

/-- Two explicit values as one list, the lower first, when both are parts of a list: the setting
is no scalar and neither is a truth value. A part that the other already has is not repeated. -/
def joinAdditive (key lower upper : String) : Option String :=
  let upper := Text.trim upper
  let lower := Text.trim lower
  if upper.isEmpty || isScalarKey key || isBooleanLiteral upper || isBooleanLiteral lower then none
  else if Text.contains upper lower then none
  else if Text.contains lower upper then some lower
  else some (lower ++ " " ++ upper)

/-- What a layer's value makes of the value folded so far. -/
def Folded.layer (key : String) (lower : Folded) (explicit : Bool) : Option String → Folded
  | none => lower
  | some value =>
    if hasInherited value then
      ⟨some (substituteInherited value (lower.value.getD "")), explicit || lower.explicit⟩
    else if explicit && lower.explicit then
      match lower.value.filter fun v => !Text.isBlankText v with
      | some parent => ⟨some ((joinAdditive key parent value).getD value), true⟩
      | none => ⟨some value, true⟩
    else ⟨some value, explicit⟩

/-- The value that a list of configurations chooses: the first that is not blank, else the
first. -/
def chosen? (configurations : List Settings) (key : String) : Option String :=
  let values := configurations.filterMap (·.get? key)
  (values.find? fun v => !Text.isBlankText v).or values.head?

/-- The layers above the built-in defaults. -/
structure Layers where
  request : Settings := ∅
  target : List Settings := []
  project : List Settings := []
  custom : Settings := ∅

namespace Layers

/-- The value of each layer for a setting, the lowest first, and whether the layer is explicit. -/
def values (layers : Layers) (key : String) : List (Bool × Option String) :=
  [(false, builtinDefault? key),
    (false, layers.custom.get? key),
    (true, chosen? layers.project key),
    (true, chosen? layers.target key),
    (true, layers.request.get? key)]

/-- The value of a setting over all layers. -/
def resolve (layers : Layers) (key : String) : Option String :=
  ((layers.values key).foldl (fun lower v => Folded.layer key lower v.1 v.2) Folded.start).value

/-- The names in any layer, in order and without repetition. -/
def keys (layers : Layers) : List String :=
  let all := builtinDefaults.map (·.1) ++ layers.custom.keys ++ layers.project.flatMap (·.keys) ++
    layers.target.flatMap (·.keys) ++ layers.request.keys
  (Dictionary.ofList (all.map fun key => (key, ()))).keys

/-- The value of every setting, references included. -/
def merged (layers : Layers) : Settings :=
  .ofList (layers.keys.filterMap fun key => (layers.resolve key).map (key, ·))

end Layers

end BuildSettings.Setting
