import BuildSettings.Json.Document

/-!
# Decoders

A `Decoder α` reads a value of `α` from a document. Decoders walk the document in the order of
its text, so of several faults the first one counts. A record is read from an object, whose
unknown members are passed over, or from an array that gives its fields in order.
-/

namespace BuildSettings.Json

/-- Reads a value of `α` from a document. -/
abbrev Decoder (α : Type) := Document → Except Fault α

/-- The fault of a document that is of another kind than the one asked for. A scalar has to be
read to know that it is one. -/
def Document.refusal : Document → Fault
  | .number (.error fault) => fault
  | .text (.error fault) => fault
  | .broken reading _ => reading
  | _ => .mismatch

namespace Decoder

variable {α β σ : Type}

/-- Reads a text. -/
def text : Decoder String
  | .text reading => reading
  | document => .error document.refusal

/-- Reads a truth value. -/
def flag : Decoder Bool
  | .bool b => .ok b
  | document => .error document.refusal

/-- Reads with `decode`, then turns the result into a value of another type, if it denotes one. -/
def andThen (decode : Decoder α) (f : α → Option β) : Decoder β := fun document =>
  match decode document with
  | .error fault => .error fault
  | .ok a =>
    match f a with
    | some b => .ok b
    | none => .error .mismatch

/-- Reads with `decode` and applies a function. -/
def map (f : α → β) (decode : Decoder α) : Decoder β := fun document =>
  (decode document).map f

/-- Reads a value that may be `null`. -/
def optional (decode : Decoder α) : Decoder (Option α)
  | .null => .ok none
  | document => (decode document).map some

/-- Reads the items of an array. -/
def items (decode : Decoder α) : Items → Except Fault (List α)
  | .close => .ok []
  | .cut fault => .error fault
  | .item value rest => do return (← decode value) :: (← items decode rest)

/-- Reads an array. -/
def list (decode : Decoder α) : Decoder (List α)
  | .array contents => items decode contents
  | .deep _ => .error .malformed
  | document => .error document.refusal

/-- Reads the members of an object. -/
def members (decode : Decoder α) : Members → Except Fault (List (String × α))
  | .close => .ok []
  | .cut fault => .error fault
  | .member key value rest => do
    return (← key, ← decode value) :: (← members decode rest)

/-- Reads an object as a dictionary; the last of equal keys counts. -/
def dictionary (decode : Decoder α) : Decoder (Dictionary α)
  | .object contents => (members decode contents).map Dictionary.ofList
  | .deep _ => .error .malformed
  | document => .error document.refusal

/-- Reads one of the named values, given as its name or as an object with the name as its one key
and `null` under it. -/
def choice (names : List (String × α)) : Decoder α
  | .text (.ok name) => (names.lookup name).elim (.error .mismatch) .ok
  | .object (.member (.ok name) .null .close) =>
    (names.lookup name).elim (.error .mismatch) .ok
  | document => .error document.refusal

/-- The items of an array of which all are texts. -/
def textItems? : Items → Option (List String)
  | .close => some []
  | .item (.text (.ok s)) rest => (textItems? rest).map (s :: ·)
  | _ => none

/-- Reads a text with `ofText` or an array of texts with `ofTexts`. The whole document is read
before its kind is looked at. -/
def textOrTexts (ofText : String → α) (ofTexts : List String → α) : Decoder α := fun document =>
  match document.toJson with
  | .error fault => .error fault
  | .ok _ =>
    match document with
    | .text (.ok s) => .ok (ofText s)
    | .array contents => ((textItems? contents).map ofTexts).elim (.error .mismatch) .ok
    | _ => .error .mismatch

end Decoder

/-- A field of a record `σ`: how its value is read and put into the record. -/
structure RecordField (σ : Type) where
  name : String
  /-- Whether the field has to be there; otherwise the record comes with a value for it. -/
  required : Bool
  read : Document → Except Fault (σ → σ)

namespace RecordField

variable {α σ : Type}

/-- A field that has to be there. -/
def needed (name : String) (decode : Decoder α) (put : σ → α → σ) : RecordField σ :=
  ⟨name, true, fun document => (decode document).map fun a r => put r a⟩

/-- A field that may be missing. -/
def defaulted (name : String) (decode : Decoder α) (put : σ → α → σ) : RecordField σ :=
  ⟨name, false, fun document => (decode document).map fun a r => put r a⟩

end RecordField

namespace Decoder

variable {σ : Type}

/-- Reads the members of a record. `seen` holds the names of the fields that were read. -/
def recordMembers (fields : List (RecordField σ)) (seen : List String) (record : σ) :
    Members → Except Fault σ
  | .close =>
    if fields.all fun f => !f.required || seen.contains f.name then .ok record
    else .error .mismatch
  | .cut fault => .error fault
  | .member key value rest => do
    let name ← key
    match fields.find? (·.name == name) with
    | some field =>
      if seen.contains name then .error .mismatch
      else
        let put ← field.read value
        recordMembers fields (name :: seen) (put record) rest
    | none =>
      value.pass
      recordMembers fields seen record rest

/-- Reads the fields of a record in order from the items of an array; there may be fewer items,
when the fields left over may be missing, but not more. -/
def recordItems (record : σ) : List (RecordField σ) → Items → Except Fault σ
  | [], .close => .ok record
  | [], .item _ _ => .error .malformed
  | _, .cut fault => .error fault
  | fields, .close => if fields.any (·.required) then .error .mismatch else .ok record
  | field :: fields, .item value rest => do
    let put ← field.read value
    recordItems (put record) fields rest

/-- Reads a record; `blank` holds the values of the fields that may be missing. -/
def record (blank : σ) (fields : List (RecordField σ)) : Decoder σ
  | .object contents => recordMembers fields [] blank contents
  | .array contents => recordItems blank fields contents
  | .deep _ => .error .malformed
  | document => .error document.refusal

end Decoder

end BuildSettings.Json
