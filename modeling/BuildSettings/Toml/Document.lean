import BuildSettings.Toml.Scalar

/-!
# TOML documents

Reads a TOML document as a JSON value. A document is a sequence of lines: headers open tables,
and every other line enters a key into the table that is open. Nested arrays and inline tables
stay below a limit of depth.
-/

namespace BuildSettings.Toml

/-! ### Values -/

/-- Behind blanks, line ends and comments. -/
def skipLines : (fuel : Nat) → List Char → List Char
  | 0, cs => cs
  | fuel + 1, cs =>
    let rest := skipComment cs
    match newline? rest with
    | some rest => skipLines fuel rest
    | none => rest

/-- Reads the items of an array behind its opening bracket or a comma. -/
def arrayItems (value? : List Char → Read Entry) : (fuel : Nat) → List Char → Read (List Entry)
  | 0, _ => none
  | fuel + 1, cs =>
    match skipLines cs.length cs with
    | ']' :: rest => some ([], rest)
    | cs =>
      match value? cs with
      | none => none
      | some (value, rest) =>
        match skipLines rest.length rest with
        | ']' :: rest => some ([value], rest)
        | ',' :: rest =>
          (arrayItems value? fuel rest).map fun (values, rest) => (value :: values, rest)
        | _ => none

/-- Splits a key into the path to its table and its last part. -/
def splitKey (key : List String) : List String × String :=
  (key.dropLast, key.getLast?.getD "")

/-- Reads the members of an inline table behind its opening brace or a comma. -/
def inlineMembers (value? : List Char → Read Entry) (entries : Entries) :
    (fuel : Nat) → List Char → Option (Entries × List Char)
  | 0, _ => none
  | fuel + 1, cs => do
    let (key, rest) ← key? cs
    let rest ← expect? '=' (skipSpaces rest)
    let (value, rest) ← value? (skipSpaces rest)
    let (path, last) := splitKey key
    let entries ← Entry.enter path last value entries
    match skipSpaces rest with
    | ',' :: rest => inlineMembers value? entries fuel rest
    | c :: rest => if c.toNat = 125 then some (entries, rest) else none
    | [] => none

/-- Reads an inline table behind its opening brace. -/
def inlineTable (value? : List Char → Read Entry) (cs : List Char) : Read Entry :=
  let entries :=
    match skipSpaces cs with
    | c :: rest =>
      if c.toNat = 125 then some ([], rest) else inlineMembers value? [] cs.length cs
    | [] => none
  entries.map fun (entries, rest) => (.inline entries, rest)

/-- Reads a value with at most `room` levels of arrays and inline tables. -/
def value? : (room : Nat) → List Char → Read Entry
  | 0, cs =>
    match cs with
    | [] => none
    | c :: _ => if c = '[' ∨ c.toNat = 123 then none else scalar? cs
  | room + 1, cs =>
    match cs with
    | [] => none
    | c :: rest =>
      if c = '[' then
        (arrayItems (value? room) cs.length rest).map fun (items, rest) => (.array items, rest)
      else if c.toNat = 123 then inlineTable (value? room) rest
      else scalar? cs

/-! ### Lines -/

/-- A line of a document. -/
inductive Line where
  | table (path : List String) (key : String)
  | element (path : List String) (key : String)
  | entry (path : List String) (key : String) (value : Entry)

/-- Reads a header behind its first bracket. -/
def header? (cs : List Char) : Option (Line × List Char) :=
  match cs with
  | '[' :: cs => do
    let (key, rest) ← key? cs
    let rest ← expect? ']' rest
    let rest ← expect? ']' rest
    let (path, last) := splitKey key
    return (.element path last, rest)
  | cs => do
    let (key, rest) ← key? cs
    let rest ← expect? ']' rest
    let (path, last) := splitKey key
    return (.table path last, rest)

/-- Reads a key with its value. -/
def entry? (cs : List Char) : Option (Line × List Char) := do
  let (key, rest) ← key? cs
  let rest ← expect? '=' rest
  let (value, rest) ← value? (depthLimit - 1) (skipSpaces rest)
  let (path, last) := splitKey key
  return (.entry path last value, rest)

/-- Reads a header or a key with its value, to the end of the line. -/
def line? (cs : List Char) : Option (Line × List Char) := do
  let (line, rest) ← match cs with
    | '[' :: rest => header? rest
    | cs => entry? cs
  let rest ← endLine? rest
  return (line, rest)

/-- Reads all lines; blank lines and comments have nothing to say. -/
def lines? : (fuel : Nat) → List Char → Option (List Line)
  | 0, _ => none
  | fuel + 1, cs =>
    match skipComment cs with
    | [] => some []
    | rest =>
      match newline? rest with
      | some rest => lines? fuel rest
      | none =>
        -- a comment has to end its line
        if (skipSpaces cs).head? = some '#' then none
        else (line? rest).bind fun (line, rest) => (lines? fuel rest).map (line :: ·)

/-! ### Documents -/

/-- A document that is being read: its tables, and the path to the one that is open. -/
structure Reading where
  root : Entries
  openPath : List String

/-- Takes a line. -/
def Reading.take (s : Reading) : Line → Option Reading
  | .table path key =>
    (Entry.update false (fun _ => Entry.nameTable key) path false s.root).map
      (⟨·, path ++ [key]⟩)
  | .element path key =>
    (Entry.update false (fun _ => Entry.nameElement key) path false s.root).map
      (⟨·, path ++ [key]⟩)
  | .entry path key value =>
    (Entry.update false (fun _ => Entry.enter path key value) s.openPath false
      s.root).map (⟨·, s.openPath⟩)

/-- Takes lines. -/
def Reading.takeAll (s : Reading) : List Line → Option Reading
  | [] => some s
  | line :: lines => (s.take line).bind (·.takeAll lines)

/-- The text without a byte order mark at its start. -/
def withoutMark : List Char → List Char
  | c :: cs => if c.toNat = 0xFEFF then cs else c :: cs
  | [] => []

/-- Reads a document. -/
def parse? (s : String) : Option Json := do
  let cs := withoutMark s.toList
  let lines ← lines? (cs.length + 1) cs
  let reading ← Reading.takeAll ⟨[], []⟩ lines
  Entry.tableToJson? reading.root

end BuildSettings.Toml
