import BuildSettings.Setting.Layers
import BuildSettings.Setting.Reference

/-!
# Expansion of references

Settings refer to each other. Expansion goes in rounds: settings without references are settled,
and each round puts settled values into the others, in the order of their names, where a setting
that gets settled counts at once. The rounds end when one changes nothing, and after `rounds` of
them at the latest; then the references that are left are dropped. A setting never refers to
itself.

Notes on how the functions mirror a program that does the same:
- A program splits a map into the settings without references and the others. Here both parts are
  filters of the settings; the second is walked as the list of its entries, in the order of names.
- A program keeps a flag that tells whether a round got anywhere. `sweeps` compares the open
  settings before and after: they are the same exactly if no setting was settled and no value
  changed.
- A program leaves the loop also when nothing is open. A round over no settings changes nothing, so
  `sweeps` stops there by the same test.
- The last pass of a program writes into the map that it reads. `flush` hands the settings on in
  the same way, so a setting sees those before it as they are when their turn has passed.
-/

namespace BuildSettings.Setting

/-- The greatest number of rounds. -/
def rounds : Nat := 10

/-- What a reference in the setting `key` stands for when the settings `known` are settled. -/
def Reference.expand (key : String) (known : Settings) (dropUnknown : Bool) (r : Reference) :
    List Char :=
  let name := String.ofList r.name
  match (known.get? name).filter fun _ => name != key with
  | some found => (r.apply found).toList
  | none => if dropUnknown then [] else r.spelling

/-- What a piece of the setting `key` stands for. -/
def Piece.expand (key : String) (known : Settings) (dropUnknown : Bool) : Piece → List Char
  | .char c => [c]
  | .reference r => r.expand key known dropUnknown

/-- The value of the setting `key` with the references to settled settings replaced. References
to other settings stay or are dropped. A value without references stays as it is; any other
loses the blanks at its ends. -/
def expandOnce (key value : String) (known : Settings) (dropUnknown : Bool) : String :=
  if hasReference value then
    String.ofList (Text.trimChars ((pieces value).flatMap (·.expand key known dropUnknown)))
  else value

/-- One round over the settings that are not settled, in their order: those settled after it and
those still open. -/
def sweep (settled : Settings) : List (String × String) → Settings × List (String × String)
  | [] => (settled, [])
  | (key, value) :: rest =>
    let expanded := expandOnce key value settled false
    if hasReference expanded then
      let after := sweep settled rest
      (after.1, (key, expanded) :: after.2)
    else sweep (settled.insert key expanded) rest

/-- Several rounds. A round that leaves all open settings as they are is the last one. -/
def sweeps : Nat → Settings → List (String × String) → Settings × List (String × String)
  | 0, settled, pending => (settled, pending)
  | n + 1, settled, pending =>
    let after := sweep settled pending
    if after.2 = pending then after else sweeps n after.1 after.2

/-- Settles what is open after the last round by dropping the references that are left. -/
def flush (settled : Settings) : List (String × String) → Settings
  | [] => settled
  | (key, value) :: rest =>
    flush (settled.insert key (expandOnce key value settled true)) rest

/-- The settings with their references expanded. -/
def expandReferences (settings : Settings) : Settings :=
  let settled := settings.filter fun _ value => !hasReference value
  let pending := settings.filter fun _ value => hasReference value
  let after := sweeps rounds settled pending.entries
  flush after.1 after.2

/-- All settings of the layers with their references expanded. -/
def Layers.resolveAll (layers : Layers) : Settings :=
  expandReferences layers.merged

end BuildSettings.Setting
