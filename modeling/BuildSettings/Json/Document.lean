import BuildSettings.Json.Basic
import BuildSettings.Json.Token

/-!
# JSON documents

A `Document` is the tree of a JSON text with its faults left in place: a reader that walks it in
the order of the text meets the first fault exactly where a reader of the text would, and a part
that a reader passes over can only fail where passing over it fails. A document nests at most
`maxDepth` containers that are read; deeper ones can still be passed over.

Main definitions: `Document.ofText` builds the tree of a text, `Document.ofJson` the tree of a
value, `Document.toJson` reads a whole tree, and `Json.parse` a whole text.
-/

namespace BuildSettings.Json

mutual

/-- The tree of a JSON text, with faults where the text has them. -/
inductive Document where
  | null
  | bool (value : Bool)
  | number (reading : Except Fault Number)
  | text (reading : Except Fault String)
  | array (items : Items)
  | object (members : Members)
  /-- A container that is nested too deeply to be read. -/
  | deep (content : Document)
  /-- No value: the fault of reading it and the fault of passing over it. -/
  | broken (reading passing : Fault)

/-- The items of an array up to its end or to a fault between items. -/
inductive Items where
  | close
  | cut (fault : Fault)
  | item (value : Document) (rest : Items)

/-- The members of an object up to its end or to a fault between members. -/
inductive Members where
  | close
  | cut (fault : Fault)
  | member (key : Except Fault String) (value : Document) (rest : Members)

end

/-- The number of containers that may be nested in each other. -/
def maxDepth : Nat := 127

/-- A tree and the tokens behind it, of which there are at most `bound`. -/
structure Parsed (α : Type) (bound : Nat) where
  tree : α
  rest : List Token
  length_rest : rest.length ≤ bound

/-- A tree with nothing behind it. -/
def Parsed.last {α : Type} {bound : Nat} (tree : α) : Parsed α bound :=
  ⟨tree, [], Nat.zero_le bound⟩

/-- The same tree for a larger bound. -/
def Parsed.weaken {α : Type} {bound larger : Nat} (p : Parsed α bound) (h : bound ≤ larger) :
    Parsed α larger :=
  ⟨p.tree, p.rest, Nat.le_trans p.length_rest h⟩

/-- The fault of meeting this token, or the end, where something else has to come. -/
def faultAt (tokens : List Token) : Fault :=
  if tokens.isEmpty then .unfinished else .malformed

/-- A container, marked when there is no room for it. -/
def Document.inRoom (room : Nat) (container : Document) : Document :=
  if room = 0 then .deep container else container

/-- What is left after a value and what follows it is shorter than what both came from. -/
theorem le_of_value {more behind tokens whole : Nat} (first : behind ≤ tokens - 1)
    (second : more ≤ behind) (part : tokens ≤ whole) : more ≤ whole := by
  omega

/-- Behind a value there are fewer tokens. -/
theorem lt_of_value {behind tokens whole : Nat} (first : behind ≤ tokens - 1)
    (part : tokens ≤ whole) (some_token : 0 < whole) : behind < whole := by
  omega

mutual

/-- The value at the start of the tokens. `room` counts the containers that may still be nested. -/
def valueOf (room : Nat) (ts : List Token) : Parsed Document (ts.length - 1) :=
  match ts with
  | .null :: rest => ⟨.null, rest, Nat.le_refl _⟩
  | .bool b :: rest => ⟨.bool b, rest, Nat.le_refl _⟩
  | .number r :: rest => ⟨.number r, rest, Nat.le_refl _⟩
  | .text r :: rest => ⟨.text r, rest, Nat.le_refl _⟩
  | .arrayStart :: rest =>
    match itemsOf (room - 1) true rest with
    | ⟨items, behind, h⟩ => ⟨.inRoom room (.array items), behind, h⟩
  | .objectStart :: rest =>
    match membersOf (room - 1) true rest with
    | ⟨members, behind, h⟩ => ⟨.inRoom room (.object members), behind, h⟩
  | .broken _ reading passing :: _ => .last (.broken reading passing)
  | ts => .last (.broken (faultAt ts) (faultAt ts))
termination_by (ts.length, 0)
decreasing_by
  · exact Prod.Lex.left _ _ (Nat.lt_succ_self _)
  · exact Prod.Lex.left _ _ (Nat.lt_succ_self _)

/-- The items of an array; before all but the first there has to be a comma. -/
def itemsOf (room : Nat) (first : Bool) (ts : List Token) : Parsed Items ts.length :=
  match ts with
  | [] => .last (.cut .unfinished)
  | .arrayEnd :: rest => ⟨.close, rest, Nat.le_succ _⟩
  | .comma :: rest =>
    if first then .last (.item (.broken .malformed .malformed) (.cut .malformed))
    else
      match valueOf room rest with
      | ⟨value, behind, h⟩ =>
        match itemsOf room false behind with
        | ⟨items, more, h'⟩ => ⟨.item value items, more, le_of_value h h' (Nat.le_succ _)⟩
  | t :: rest =>
    if first then
      match valueOf room (t :: rest) with
      | ⟨value, behind, h⟩ =>
        match itemsOf room false behind with
        | ⟨items, more, h'⟩ => ⟨.item value items, more, le_of_value h h' (Nat.le_refl _)⟩
    else .last (.cut .malformed)
termination_by (ts.length, 1)
decreasing_by
  · exact Prod.Lex.left _ _ (Nat.lt_succ_self _)
  · exact Prod.Lex.left _ _ (lt_of_value h (Nat.le_succ _) (Nat.succ_pos _))
  · exact Prod.Lex.right _ Nat.zero_lt_one
  · exact Prod.Lex.left _ _ (lt_of_value h (Nat.le_refl _) (Nat.succ_pos _))

/-- The members of an object; before all but the first there has to be a comma. -/
def membersOf (room : Nat) (first : Bool) (ts : List Token) : Parsed Members ts.length :=
  match ts with
  | [] => .last (.cut .unfinished)
  | .objectEnd :: rest => ⟨.close, rest, Nat.le_succ _⟩
  | .comma :: rest =>
    if first then .last (.cut .malformed) else (memberOf room rest).weaken (Nat.le_succ _)
  | t :: rest =>
    if first then memberOf room (t :: rest) else .last (.cut .malformed)
termination_by (ts.length, 2)
decreasing_by
  · exact Prod.Lex.left _ _ (Nat.lt_succ_self _)
  · exact Prod.Lex.right _ (Nat.lt_succ_self _)

/-- A member, which starts with a text, and those behind it. -/
def memberOf (room : Nat) (ts : List Token) : Parsed Members ts.length :=
  match ts with
  | .text key :: .colon :: rest =>
    match valueOf room rest with
    | ⟨value, behind, h⟩ =>
      match membersOf room false behind with
      | ⟨members, more, h'⟩ =>
        ⟨.member key value members, more, le_of_value h h' (Nat.le_add_right _ 2)⟩
  | .text key :: rest =>
    .last (.member key (.broken (faultAt rest) (faultAt rest)) (.cut (faultAt rest)))
  | .broken true reading passing :: _ =>
    .last (.member (.error reading) (.broken passing passing) (.cut passing))
  | ts => .last (.cut (faultAt ts))
termination_by (ts.length, 1)
decreasing_by
  · exact Prod.Lex.left _ _ (Nat.lt_add_of_pos_right Nat.two_pos)
  · exact Prod.Lex.left _ _ (lt_of_value h (Nat.le_add_right _ 2) (Nat.succ_pos _))

end

/-- The tree of a text, and whether the text goes on behind its value. -/
def Document.ofText (s : String) : Document × Bool :=
  let parsed := valueOf maxDepth (Token.scan s.toList)
  (parsed.tree, !parsed.rest.isEmpty)

mutual

/-- The tree of a value. -/
def Document.ofJson : Json → Document
  | .null => .null
  | .bool b => .bool b
  | .number n => .number (.ok n)
  | .text s => .text (.ok s)
  | .array items => .array (Items.ofList items)
  | .object members => .object (Members.ofList members)

/-- The items of a list. -/
def Items.ofList : List Json → Items
  | [] => .close
  | value :: rest => .item (.ofJson value) (Items.ofList rest)

/-- The members of a list. -/
def Members.ofList : List (String × Json) → Members
  | [] => .close
  | (key, value) :: rest => .member (.ok key) (.ofJson value) (Members.ofList rest)

end

mutual

/-- The value of a tree; the last of equal keys counts, and keys are put in order. -/
def Document.toJson : Document → Except Fault Json
  | .null => .ok .null
  | .bool b => .ok (.bool b)
  | .number r => r.map .number
  | .text r => r.map .text
  | .array items => items.toList.map .array
  | .object members => members.toList.map fun ms => .object (Dictionary.ofList ms).entries
  | .deep _ => .error .malformed
  | .broken reading _ => .error reading

/-- The values of items. -/
def Items.toList : Items → Except Fault (List Json)
  | .close => .ok []
  | .cut fault => .error fault
  | .item value rest => do return (← value.toJson) :: (← rest.toList)

/-- The keys and values of members. -/
def Members.toList : Members → Except Fault (List (String × Json))
  | .close => .ok []
  | .cut fault => .error fault
  | .member key value rest => do return (← key, ← value.toJson) :: (← rest.toList)

end

mutual

/-- The fault of passing over a tree. -/
def Document.pass : Document → Except Fault Unit
  | .null | .bool _ | .number _ | .text _ => .ok ()
  | .array items => items.pass
  | .object members => members.pass
  | .deep content => content.pass
  | .broken _ passing => .error passing

/-- The fault of passing over items. -/
def Items.pass : Items → Except Fault Unit
  | .close => .ok ()
  | .cut fault => .error fault
  | .item value rest => do value.pass; rest.pass

/-- The fault of passing over members. -/
def Members.pass : Members → Except Fault Unit
  | .close => .ok ()
  | .cut fault => .error fault
  | .member _ value rest => do value.pass; rest.pass

end

/-- Reads a text with the given reader; nothing may follow the value. -/
def Document.readText {α : Type} (read : Document → Except Fault α) (s : String) :
    Except Fault α :=
  let (document, goesOn) := Document.ofText s
  match read document with
  | .error fault => .error fault
  | .ok value => if goesOn then .error .malformed else .ok value

/-- Reads a text as a JSON value. -/
def parse (s : String) : Except Fault Json :=
  Document.readText Document.toJson s

end BuildSettings.Json
