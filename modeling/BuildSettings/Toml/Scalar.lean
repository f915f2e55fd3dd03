import BuildSettings.Decimal.Nearest
import BuildSettings.Json.Basic
import BuildSettings.Toml.Table

/-!
# Scalars of TOML

Reads keys, texts, numbers and timestamps of TOML. Each reader takes the characters from where its
scalar starts and gives the value with the characters behind it. Values but texts are JSON values:
a timestamp is a text in its one form, and numbers that JSON cannot write are `null`.
-/

namespace BuildSettings.Toml

/-- A value and the characters behind it, when there is one. -/
abbrev Read (α : Type) := Option (α × List Char)

/-! ### Characters -/

/-- Blanks and tabs. -/
def isSpace (c : Char) : Bool :=
  c == ' ' || c == '\t'

/-- What may stand in comments and texts: no controls except tabs. -/
def isPrintable (c : Char) : Bool :=
  c == '\t' || (32 ≤ c.toNat && c.toNat != 127)

/-- Behind blanks and tabs. -/
def skipSpaces (cs : List Char) : List Char :=
  cs.dropWhile isSpace

/-- Behind the end of a line. -/
def newline? : List Char → Option (List Char)
  | '\n' :: cs => some cs
  | '\r' :: '\n' :: cs => some cs
  | _ => none

/-- Behind blanks and a comment, if there is one; the end of the line is not passed. -/
def skipComment (cs : List Char) : List Char :=
  match skipSpaces cs with
  | '#' :: rest => rest.dropWhile isPrintable
  | rest => rest

/-- Behind the rest of a line that holds nothing more. -/
def endLine? (cs : List Char) : Option (List Char) :=
  match skipComment cs with
  | [] => some []
  | rest => newline? rest

/-- Behind the character `c`. -/
def expect? (c : Char) : List Char → Option (List Char)
  | [] => none
  | d :: cs => if d = c then some cs else none

/-! ### Texts -/

/-- An apostrophe. -/
def apostrophe : Char := Char.ofNat 39

/-- The value of hexadecimal digits. -/
def hexNumber? (cs : List Char) : Option Nat :=
  cs.foldl (fun acc c => acc.bind fun n =>
    if c.isDigit then some (n * 16 + (c.toNat - 48))
    else if 'a' ≤ c ∧ c ≤ 'f' then some (n * 16 + (c.toNat - 87))
    else if 'A' ≤ c ∧ c ≤ 'F' then some (n * 16 + (c.toNat - 55))
    else none) (some 0)

/-- The character with a code point of `count` digits. -/
def codePoint? (count : Nat) (cs : List Char) : Read Char :=
  let digits := cs.take count
  if digits.length < count then none
  else (hexNumber? digits).bind fun n =>
    if n.isValidChar then some (Char.ofNat n, cs.drop count) else none

/-- The character that an escape behind its backslash stands for. -/
def escape? : List Char → Read Char
  | [] => none
  | c :: cs =>
    if c = 'b' then some (Char.ofNat 8, cs)
    else if c = 't' then some ('\t', cs)
    else if c = 'n' then some ('\n', cs)
    else if c = 'f' then some (Char.ofNat 12, cs)
    else if c = 'r' then some ('\r', cs)
    else if c = '"' ∨ c = '\\' then some (c, cs)
    else if c = 'u' then codePoint? 4 cs
    else if c = 'U' then codePoint? 8 cs
    else none

/-- Behind blanks and line ends. -/
def skipBlankLines : List Char → List Char
  | '\r' :: '\n' :: cs => skipBlankLines cs
  | c :: cs => if isSpace c || c == '\n' then skipBlankLines cs else c :: cs
  | [] => []

/-- Behind the end of a line that follows a backslash, and all blanks and line ends after it. -/
def lineContinuation? (cs : List Char) : Option (List Char) :=
  (newline? (skipSpaces cs)).map skipBlankLines

/-- The form of a text. -/
structure TextForm where
  quote : Char
  escapes : Bool
  multiline : Bool

/-- Reads a text of one form behind its opening quotes. `fuel` bounds the number of parts. -/
def textBody (form : TextForm) : (fuel : Nat) → List Char → Read (List Char)
  | 0, _ => none
  | _, [] => none
  | fuel + 1, c :: cs =>
    if c = form.quote then
      if form.multiline then
        -- up to two quotes may stand before the closing ones
        let quotes := (c :: cs).takeWhile (· == form.quote)
        if quotes.length < 3 then
          (textBody form fuel cs).map fun (content, rest) => (c :: content, rest)
        else if quotes.length ≤ 5 then some (quotes.drop 3, (c :: cs).drop quotes.length)
        else none
      else some ([], cs)
    else if c = '\\' && form.escapes then
      match if form.multiline then lineContinuation? cs else none with
      | some rest => textBody form fuel rest
      | none =>
        match escape? cs with
        | some (image, rest) =>
          (textBody form fuel rest).map fun (content, rest) => (image :: content, rest)
        | none => none
    else if form.multiline && (newline? (c :: cs)).isSome then
      match newline? (c :: cs) with
      | some rest => (textBody form fuel rest).map fun (content, rest) => ('\n' :: content, rest)
      | none => none
    else if isPrintable c then
      (textBody form fuel cs).map fun (content, rest) => (c :: content, rest)
    else none

/-- Reads a text of one line. -/
def lineText? (cs : List Char) : Read (List Char) :=
  match cs with
  | [] => none
  | c :: rest =>
    if c = '"' then textBody ⟨'"', true, false⟩ cs.length rest
    else if c = apostrophe then textBody ⟨apostrophe, false, false⟩ cs.length rest
    else none

/-- Reads a text; three quotes open one of several lines, whose first line end does not count. -/
def text? (cs : List Char) : Read (List Char) :=
  match cs with
  | c :: d :: e :: rest =>
    if (c = '"' ∨ c = apostrophe) ∧ d = c ∧ e = c then
      textBody ⟨c, c == '"', true⟩ cs.length ((newline? rest).getD rest)
    else lineText? cs
  | cs => lineText? cs

/-! ### Keys -/

/-- Whether a key may hold the character without quotes. -/
def isKeyChar (c : Char) : Bool :=
  c.isAlphanum || c == '_' || c == '-'

/-- Reads a key without dots. -/
def simpleKey? (cs : List Char) : Read String :=
  match cs with
  | [] => none
  | c :: _ =>
    if c = '"' ∨ c = apostrophe then
      (lineText? cs).map fun (content, rest) => (String.ofList content, rest)
    else
      let name := cs.takeWhile isKeyChar
      if name.isEmpty then none else some (String.ofList name, cs.dropWhile isKeyChar)

/-- Reads keys between dots. -/
def keyParts : (fuel : Nat) → List Char → Read (List String)
  | 0, _ => none
  | fuel + 1, cs =>
    match simpleKey? (skipSpaces cs) with
    | none => none
    | some (name, rest) =>
      match skipSpaces rest with
      | '.' :: more =>
        (keyParts fuel more).map fun (names, rest) => (name :: names, rest)
      | rest => some ([name], rest)

/-- The number of levels that keys and values may not reach. -/
def depthLimit : Nat := 80

/-- Reads a key, which may have several parts. -/
def key? (cs : List Char) : Read (List String) :=
  (keyParts (cs.length + 1) cs).filter fun r => r.1.length < depthLimit

/-! ### Numbers -/

/-- Behind digits, single underscores between them; `none` at an underscore with no digit behind
it. The digits come without the underscores. -/
def digitRun (isDigit : Char → Bool) : List Char → Read (List Char)
  | [] => some ([], [])
  | '_' :: c :: cs =>
    if isDigit c then (digitRun isDigit cs).map fun (ds, rest) => (c :: ds, rest) else none
  | c :: cs =>
    if isDigit c then (digitRun isDigit cs).map fun (ds, rest) => (c :: ds, rest)
    else if c = '_' then none
    else some ([], c :: cs)

/-- Reads digits, of which there is at least one. -/
def digits? (isDigit : Char → Bool) : List Char → Read (List Char)
  | [] => none
  | c :: cs =>
    if isDigit c then (digitRun isDigit cs).map fun (ds, rest) => (c :: ds, rest) else none

/-- Whether a number is negative, and what follows its sign. -/
def sign : List Char → Bool × List Char
  | '+' :: cs => (false, cs)
  | '-' :: cs => (true, cs)
  | cs => (false, cs)

/-- Reads the digits of a decimal integer; only zero alone starts with zero. -/
def decimalDigits? (cs : List Char) : Read (List Char) :=
  match cs with
  | '0' :: rest => some (['0'], rest)
  | cs => digits? Char.isDigit cs

/-- The number that decimal digits make. -/
def decimal (ds : List Char) : Nat :=
  Timestamp.decimal ds

/-- Reads the digits behind a point, if there is one. -/
def fraction? (cs : List Char) : Read (Option (List Char)) :=
  match cs with
  | '.' :: rest => (digits? Char.isDigit rest).map fun (ds, rest) => (some ds, rest)
  | cs => some (none, cs)

/-- Reads an exponent, if there is one. -/
def exponent? (cs : List Char) : Read (Option Int) :=
  match cs with
  | [] => some (none, [])
  | c :: rest =>
    if c = 'e' ∨ c = 'E' then
      let signed := sign rest
      (digits? Char.isDigit signed.2).map fun (ds, rest) =>
        (some (if signed.1 then -(decimal ds : Int) else decimal ds), rest)
    else some (none, c :: rest)

/-- The value of a number with a fraction or an exponent. What is too small a number for a double
is not; what is too large is refused. -/
def real? (negative : Bool) (whole fraction : List Char) (exponent : Int) : Option Json :=
  let bits := Decimal.nearestBits (decimal (whole ++ fraction)) (exponent - fraction.length)
  if Decimal.infinityBits ≤ bits then (if negative then some .null else none)
  else some (.number (.real (UInt64.ofNat (if negative then Decimal.twoTo 63 + bits else bits))))

/-- An integer of 64 bits. -/
def integer? (value : Int) : Option Json :=
  if -(Decimal.twoTo 63 : Int) ≤ value ∧ value < Decimal.twoTo 63 then
    some (.number (.integer value))
  else none

/-- Reads an integer of another base behind its mark. -/
def based? (base : Nat) (cs : List Char) : Read Json :=
  let isDigit := fun c => ((hexNumber? [c]).filter (· < base)).isSome
  (digits? isDigit cs).bind fun (ds, rest) =>
    let value := ds.foldl (fun n c => n * base + (hexNumber? [c]).getD 0) 0
    (integer? value).map (·, rest)

/-- Reads infinity or no number, which become `null`. -/
def special? : List Char → Read Json
  | 'i' :: 'n' :: 'f' :: cs => some (.null, cs)
  | 'n' :: 'a' :: 'n' :: cs => some (.null, cs)
  | _ => none

/-- Reads a decimal number behind its sign. -/
def decimalNumber? (negative : Bool) (cs : List Char) : Option (Json × List Char) := do
  let (whole, rest) ← decimalDigits? cs
  let (fraction, rest) ← fraction? rest
  let (exponent, rest) ← exponent? rest
  let value ←
    if fraction.isNone ∧ exponent.isNone then
      integer? (if negative then -(decimal whole : Int) else decimal whole)
    else real? negative whole (fraction.getD []) (exponent.getD 0)
  return (value, rest)

/-- Reads a number. -/
def number? (cs : List Char) : Read Json :=
  match cs with
  | '0' :: 'x' :: rest => based? 16 rest
  | '0' :: 'o' :: rest => based? 8 rest
  | '0' :: 'b' :: rest => based? 2 rest
  | cs =>
    let signed := sign cs
    (special? signed.2).or (decimalNumber? signed.1 signed.2)

/-- Reads a number or a timestamp. -/
def numberOrTime? (cs : List Char) : Read Json :=
  match Timestamp.read? cs with
  | some (t, rest) => some (.text t.toText, rest)
  | none => number? cs

/-- Behind a word. -/
def word? (word : List Char) (cs : List Char) : Option (List Char) :=
  if word.isPrefixOf cs then some (cs.drop word.length) else none

/-- Reads a scalar. -/
def scalar? (cs : List Char) : Read Entry :=
  let scalar := fun (r : Read Json) => r.map fun (value, rest) => (Entry.scalar value, rest)
  match cs with
  | [] => none
  | c :: _ =>
    if c = '"' ∨ c = apostrophe then
      (text? cs).map fun (content, rest) => (.text (String.ofList content), rest)
    else if c = 't' then scalar ((word? "true".toList cs).map (.bool true, ·))
    else if c = 'f' then scalar ((word? "false".toList cs).map (.bool false, ·))
    else if c.isDigit ∨ c = '+' ∨ c = '-' then scalar (numberOrTime? cs)
    else scalar (special? cs)

end BuildSettings.Toml
