import BuildSettings.Decimal.Power
import BuildSettings.PropertyList.Base64
import BuildSettings.PropertyList.Markup
import BuildSettings.PropertyList.Moment
import BuildSettings.Text.Blank
import BuildSettings.Text.Cut

/-!
# Events

The markup of a property list tells a sequence of events: scalars, and where collections start
and stop. The outermost element and the ends of scalars that hold nothing tell none. Of real
numbers and truth values only that they are well written is kept.
-/

namespace BuildSettings.PropertyList

/-- A part of a property list, in the order of the text. -/
inductive Event where
  | text (content : String)
  | bytes (content : List UInt8)
  | integer (value : Int)
  | scalar
  | startArray
  | startDictionary
  | stop
deriving DecidableEq, Repr

/-! ### Numbers -/

/-- The value of a digit below the base. -/
def digit? (base : Nat) (c : Char) : Option Nat :=
  let value :=
    if c.isDigit then c.toNat - 48
    else if 'a' ≤ c ∧ c ≤ 'f' then c.toNat - 87
    else if 'A' ≤ c ∧ c ≤ 'F' then c.toNat - 55
    else base
  if value < base then some value else none

/-- The number that digits make. -/
def number? (base : Nat) (cs : List Char) : Option Nat :=
  if cs.isEmpty then none
  else cs.foldl (fun acc c => acc.bind fun n => (digit? base c).map (n * base + ·)) (some 0)

/-- The text behind a plus sign, if it starts with one. -/
def withoutPlus : List Char → List Char
  | '+' :: cs => cs
  | cs => cs

/-- The text behind a sign, if it starts with one. -/
def withoutSign : List Char → List Char
  | '-' :: cs => cs
  | cs => withoutPlus cs

/-- The text behind the marks of the base sixteen at its start. -/
def withoutBase : List Char → List Char
  | '0' :: 'x' :: cs => withoutBase cs
  | cs => cs

/-- A number without a sign, of 64 bits. -/
def unsigned? (base : Nat) (cs : List Char) : Option Int :=
  ((number? base (withoutPlus cs)).filter (· < Decimal.twoTo 64)).map (↑·)

/-- The value of an integer: decimal with a sign, or hexadecimal, within 64 bits. -/
def integer? (cs : List Char) : Option Int :=
  match cs with
  | '0' :: 'x' :: digits => unsigned? 16 (withoutBase digits)
  | '-' :: digits => ((number? 10 digits).filter (· ≤ Decimal.twoTo 63)).map fun n => -(n : Int)
  | cs => unsigned? 10 cs

/-- The text behind a point and digits, if it starts with a point. -/
def withoutFraction : List Char → List Char
  | '.' :: cs => cs.dropWhile Char.isDigit
  | cs => cs

/-- Whether the text is an exponent or nothing. -/
def isExponent : List Char → Bool
  | [] => true
  | e :: cs =>
    (e == 'e' || e == 'E') && !(withoutSign cs).isEmpty && (withoutSign cs).all Char.isDigit

/-- Whether the text is a decimal number, or names infinity or no number. -/
def isReal (cs : List Char) : Bool :=
  let cs := withoutSign cs
  let startsWithDigit := fun (cs : List Char) => cs.head?.any Char.isDigit
  let digits := startsWithDigit cs || (cs.head? == some '.' && startsWithDigit (cs.drop 1))
  (digits && isExponent (withoutFraction (cs.dropWhile Char.isDigit))) ||
    ["inf", "infinity", "nan"].contains (String.ofList (cs.map Char.toLower))

/-! ### References -/

/-- The character with a code point; zero has none. -/
def charOfCode? (n : Nat) : Option Char :=
  if n = 0 then none else if n.isValidChar then some (Char.ofNat n) else none

/-- The character that a reference by number stands for, from the number behind `#`. -/
def numbered? : List Char → Option Char
  | 'x' :: digits => (number? 16 digits).bind charOfCode?
  | digits => (number? 10 digits).bind charOfCode?

/-- The characters that a reference stands for. A reference by number needs its character; names
that are not known stand for nothing. -/
def image? (name : List Char) : Option (List Char) :=
  match name with
  | '#' :: number => (numbered? number).map ([·])
  | name =>
    some <| ([("amp", '&'), ("lt", '<'), ("gt", '>'), ("quot", '"'), ("apos", Char.ofNat 39)].lookup
      (String.ofList name)).toList

/-- Whether a reference may stand between elements: it gives the number of a blank. -/
def isBlankReference : List Char → Bool
  | '#' :: number => (numbered? number).any Text.isBlank
  | _ => false

/-! ### Elements -/

/-- An element's name without its namespace. -/
def localName (name : List Char) : String :=
  match Text.cutFirst? ':' name with
  | some (_, rest) => String.ofList rest
  | none => String.ofList name

/-- The blanks that may stand anywhere in base 64. -/
def isDataSpace (c : Char) : Bool :=
  c.isWhitespace || c.toNat == 12

/-- The event of a scalar element with this content, if it is well written. -/
def Event.ofContent? (element : String) (content : List Char) : Option Event :=
  match element with
  | "key" | "string" => some (.text (String.ofList content))
  | "integer" => (integer? content).map .integer
  | "real" => if isReal content then some .scalar else none
  | "date" => (Timestamp.moment? content).map fun t => .text t.toText
  | "data" => (base64? (content.filter fun c => !isDataSpace c)).map .bytes
  | _ => none

/-- Where a reader is: the elements that are open, and the content of the scalar that is being
read. -/
structure Reading where
  names : List (List Char)
  content : Option (List Char)

namespace Reading

/-- Opens an element. -/
def start (s : Reading) (name : List Char) : Option (Reading × List Event) :=
  let opened := { s with names := name :: s.names }
  if s.content.isSome then none
  else match localName name with
    | "plist" => some (opened, [])
    | "array" => some (opened, [.startArray])
    | "dict" => some (opened, [.startDictionary])
    | "true" | "false" => some (opened, [.scalar])
    | "key" | "string" | "integer" | "real" | "date" | "data" =>
      some ({ opened with content := some [] }, [])
    | _ => none

/-- Closes the innermost element. -/
def finish (s : Reading) (name : List Char) : Option (Reading × List Event) :=
  match s.names with
  | [] => none
  | innermost :: names =>
    if innermost != name then none
    else match s.content with
      | some content =>
        (Event.ofContent? (localName name) content).map fun event => (⟨names, none⟩, [event])
      | none =>
        match localName name with
        | "array" | "dict" => some (⟨names, none⟩, [.stop])
        | _ => some (⟨names, none⟩, [])

/-- Takes text between tags; outside of scalars it has to be blank. -/
def text (s : Reading) (content : List Char) : Option Reading :=
  match s.content with
  | some before => some { s with content := some (before ++ content) }
  | none => if content.all Text.isBlank then some s else none

/-- Takes a reference; outside of scalars it has to stand for a blank. -/
def reference (s : Reading) (name : List Char) : Option Reading :=
  match s.content with
  | some before => (image? name).map fun image => { s with content := some (before ++ image) }
  | none => if isBlankReference name then some s else none

/-- One step of a reader, with the events it tells. -/
def step (s : Reading) : Markup → Option (Reading × List Event)
  | .start name => s.start name
  | .finish name => s.finish name
  | .text content => (s.text content).map (·, [])
  | .reference name => (s.reference name).map (·, [])
  | .broken => none

/-- The events of markup; no scalar is left open at its end. -/
def events? (s : Reading) : List Markup → Option (List Event)
  | [] => if s.content.isSome then none else some []
  | m :: ms =>
    (s.step m).bind fun (s, events) => (s.events? ms).map (events ++ ·)

end Reading

/-- The events of a document. -/
def Event.ofDocument? (s : String) : Option (List Event) :=
  Reading.events? ⟨[], none⟩ (Markup.ofDocument s)

end BuildSettings.PropertyList
