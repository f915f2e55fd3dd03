import BuildSettings.Json.Basic
import BuildSettings.Timestamp

/-!
# Tables of TOML

A TOML document builds its tables piece by piece. What may still be added to a table depends on
how it came to be: inline, by a header of its own, on the way to another table, or by a dotted
key. `Entry.update` walks along a path of keys and makes the tables on the way. The entries of a
table stay in the order in which their keys came up, and a table whose first key is
`timestampKey` spells a timestamp.
-/

namespace BuildSettings.Toml

/-- What stands under a key or in an array. -/
inductive Entry where
  | text (content : String)
  /-- A number, a truth value or a timestamp, by its value. -/
  | scalar (value : Json)
  | array (items : List Entry)
  /-- A table in braces, which takes no further entries. -/
  | inline (entries : List (String × Entry))
  /-- A table. It is implicit until a header names it, and dotted when a dotted key made it. -/
  | table (implicit dotted : Bool) (entries : List (String × Entry))
  /-- An array of tables, the last of which is still open, and comes first here. -/
  | tables (elements : List (List (String × Entry)))

/-- The entries of a table. -/
abbrev Entries := List (String × Entry)

namespace Entry

/-- The entries with another one under the key, which they have. -/
def replace (key : String) (entry : Entry) (entries : Entries) : Entries :=
  entries.map fun e => if e.1 == key then (key, entry) else e

/-- Applies `f` to the table at the end of a path, telling it whether that table is dotted. Tables
that are missing on the way are made. A dotted path does not go through tables that a header
named. -/
def update (dotted : Bool) (f : Bool → Entries → Option Entries) :
    List String → Bool → Entries → Option Entries
  | [], isDotted, entries => f isDotted entries
  | key :: path, _, entries =>
    match entries.lookup key with
    | none =>
      (update dotted f path dotted []).map fun below =>
        entries ++ [(key, .table true dotted below)]
    | some (.table implicit isDotted below) =>
      if dotted && !implicit then none
      else (update dotted f path isDotted below).map fun below =>
        replace key (.table implicit isDotted below) entries
    | some (.tables (last :: earlier)) =>
      (update dotted f path false last).map fun last =>
        replace key (.tables (last :: earlier)) entries
    | some _ => none

/-- Enters a new key at the end of a dotted path; a path of several keys has to end in a dotted
table. -/
def enter (path : List String) (key : String) (entry : Entry) (entries : Entries) :
    Option Entries :=
  update true
    (fun isDotted entries =>
      if isDotted == path.isEmpty then none
      else if (entries.lookup key).isSome then none
      else some (entries ++ [(key, entry)]))
    path false entries

/-- Names a table by a header; a table that was made on the way to another one moves to the end. -/
def nameTable (key : String) (entries : Entries) : Option Entries :=
  match entries.lookup key with
  | none => some (entries ++ [(key, .table false false [])])
  | some (.table true false below) =>
    some (entries.filter (·.1 != key) ++ [(key, .table false false below)])
  | some _ => none

/-- Opens a further table of an array by a header. -/
def nameElement (key : String) (entries : Entries) : Option Entries :=
  match entries.lookup key with
  | none => some (entries ++ [(key, .tables [[]])])
  | some (.tables elements) => some (replace key (.tables ([] :: elements)) entries)
  | some _ => none

/-! ### Values -/

/-- The key of a table that spells a timestamp, as its first entry. -/
def timestampKey : String := "$__toml_private_datetime"

/-- The text of a timestamp that an entry spells. -/
def timestamp? : Entry → Option Json
  | .text content => (Timestamp.ofText? content).map fun t => .text t.toText
  | _ => none

mutual

/-- The value of an entry. -/
def toJson? : Entry → Option Json
  | .text content => some (.text content)
  | .scalar value => some value
  | .array items => (valuesOf? items).map .array
  | .inline entries => tableToJson? entries
  | .table _ _ entries => tableToJson? entries
  | .tables elements => (tablesToJson? elements).map fun values => .array values.reverse

/-- The values of the items of an array. -/
def valuesOf? : List Entry → Option (List Json)
  | [] => some []
  | item :: rest => do
    let value ← item.toJson?
    let values ← valuesOf? rest
    return value :: values

/-- The value of a table: a timestamp if its first key says so, and then the other entries do not
count; else an object. -/
def tableToJson? : List (String × Entry) → Option Json
  | [] => some (.object [])
  | (key, entry) :: rest =>
    if key = timestampKey then entry.timestamp?
    else do
      let value ← entry.toJson?
      let members ← membersOf? rest
      return .object (Dictionary.ofList ((key, value) :: members)).entries

/-- The values of entries. -/
def membersOf? : List (String × Entry) → Option (List (String × Json))
  | [] => some []
  | (key, entry) :: rest => do
    let value ← entry.toJson?
    let members ← membersOf? rest
    return (key, value) :: members

/-- The values of the tables of an array. -/
def tablesToJson? : List (List (String × Entry)) → Option (List Json)
  | [] => some []
  | entries :: rest => do
    let value ← tableToJson? entries
    let values ← tablesToJson? rest
    return value :: values

end

end Entry

end BuildSettings.Toml
