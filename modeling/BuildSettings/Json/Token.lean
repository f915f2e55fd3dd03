import BuildSettings.Json.Number

/-!
# Tokens of JSON text

`Token.scan` cuts a text into tokens from left to right and stops at the first place that cannot
be a token. What a place like that is called depends on whether the token is read for its value
or only passed over, so the last token carries both faults. A text with half a surrogate pair,
and a number too large for a double, can be passed over but not read.
-/

namespace BuildSettings.Json

/-- Why a JSON text is no answer to what was asked. -/
inductive Fault where
  /-- The text ends too early. -/
  | unfinished
  /-- The text is not JSON. -/
  | malformed
  /-- The value is not of the kind that is asked for. -/
  | mismatch
deriving DecidableEq, Repr

/-- A token; what cannot be read is kept as its fault. -/
inductive Token where
  | arrayStart
  | arrayEnd
  | objectStart
  | objectEnd
  | colon
  | comma
  | null
  | bool (value : Bool)
  | number (reading : Except Fault Number)
  | text (reading : Except Fault String)
  /-- The text stops being JSON here, inside a text or not. -/
  | broken (inText : Bool) (reading passing : Fault)

namespace Token

/-- A token and what follows it, which is not longer than `bound`. -/
abbrev Lexed (bound : Nat) := { r : Token × List Char // r.2.length ≤ bound }

/-- A result with a larger bound. -/
def Lexed.weaken {a b : Nat} (r : Lexed a) (h : a ≤ b) : Lexed b :=
  ⟨r.1, Nat.le_trans r.2 h⟩

/-- A token with nothing behind it. -/
def Lexed.last {bound : Nat} (t : Token) : Lexed bound :=
  ⟨(t, []), Nat.zero_le _⟩

/-- The value of a hexadecimal digit. -/
def hexValue? (c : Char) : Option Nat :=
  if c.isDigit then some (c.toNat - 48)
  else if 'a' ≤ c ∧ c ≤ 'f' then some (c.toNat - 87)
  else if 'A' ≤ c ∧ c ≤ 'F' then some (c.toNat - 55)
  else none

/-- The value of four hexadecimal digits. -/
def hexQuad? (a b c d : Char) : Option Nat :=
  match hexValue? a, hexValue? b, hexValue? c, hexValue? d with
  | some a, some b, some c, some d => some (((a * 16 + b) * 16 + c) * 16 + d)
  | _, _, _, _ => none

/-- The character that a backslash and a letter stand for. -/
def escaped? (c : Char) : Option Char :=
  if c = '"' ∨ c = '\\' ∨ c = '/' then some c
  else if c = 'b' then some (Char.ofNat 8)
  else if c = 'f' then some (Char.ofNat 12)
  else if c = 'n' then some '\n'
  else if c = 'r' then some '\r'
  else if c = 't' then some '\t'
  else none

/-- The content read so far, last character first, the first half of a surrogate pair that waits
for the second, and whether a half went without its partner. -/
structure TextState where
  content : List Char
  waiting : Option Nat
  unpaired : Bool

namespace TextState

/-- After one more character. -/
def push (s : TextState) (c : Char) : TextState :=
  ⟨c :: s.content, none, s.unpaired || s.waiting.isSome⟩

/-- After one more code unit of UTF-16. -/
def pushUnit (s : TextState) (unit : Nat) : TextState :=
  match s.waiting with
  | some high =>
    if 0xDC00 ≤ unit ∧ unit ≤ 0xDFFF then
      ⟨Char.ofNat (0x10000 + (high - 0xD800) * 0x400 + (unit - 0xDC00)) :: s.content, none,
        s.unpaired⟩
    else ⟨s.content, none, true⟩
  | none =>
    if 0xDC00 ≤ unit ∧ unit ≤ 0xDFFF then ⟨s.content, none, true⟩
    else if 0xD800 ≤ unit ∧ unit ≤ 0xDBFF then ⟨s.content, some unit, s.unpaired⟩
    else s.push (Char.ofNat unit)

/-- The text token at the closing quote. -/
def close (s : TextState) : Token :=
  if s.unpaired || s.waiting.isSome then .text (.error .malformed)
  else .text (.ok (String.ofList s.content.reverse))

/-- The last token, at a place that fails with `fault`; a half without its partner came first. -/
def cut (s : TextState) (fault : Fault) : Token :=
  .broken true (if s.unpaired then .malformed else fault) fault

end TextState

/-- The bytes of the next characters, as far as four of them are there. -/
def fewBytes (cs : List Char) : Bool :=
  (cs.take 4).foldl (fun bytes c => bytes + c.utf8Size) 0 < 4

/-- Reads a text behind its opening quote. -/
def lexText (s : TextState) : (cs : List Char) → Lexed cs.length
  | [] => .last (s.cut .unfinished)
  | '"' :: cs => ⟨(s.close, cs), by simp⟩
  | '\\' :: 'u' :: a :: b :: c :: d :: cs =>
    match hexQuad? a b c d with
    | some unit => (lexText (s.pushUnit unit) cs).weaken (by simp only [List.length_cons]; omega)
    | none => .last (s.cut .malformed)
  | '\\' :: 'u' :: cs => .last (s.cut (if fewBytes cs then .unfinished else .malformed))
  | ['\\'] => .last (s.cut .unfinished)
  | '\\' :: c :: cs =>
    match escaped? c with
    | some image => (lexText (s.push image) cs).weaken (by simp only [List.length_cons]; omega)
    | none => .last (s.cut .malformed)
  | c :: cs =>
    if c.toNat < 32 then .last (s.cut .malformed)
    else (lexText (s.push c) cs).weaken (by simp)

/-- The values of the digits at the start, and the rest. -/
def digits : List Char → List Nat × List Char
  | [] => ([], [])
  | c :: cs =>
    if c.isDigit then ((c.toNat - 48) :: (digits cs).1, (digits cs).2)
    else ([], c :: cs)

theorem length_digits (cs : List Char) : (digits cs).2.length ≤ cs.length := by
  induction cs with
  | nil => simp [digits]
  | cons c cs ih =>
    rw [digits]
    split
    · exact Nat.le_trans ih (by simp)
    · simp

/-- A number that lacks digits before `rest`. -/
def missingDigits (rest : List Char) : Token :=
  .broken false (if rest.isEmpty then .unfinished else .malformed) .malformed

/-- The token of a literal. -/
def ofLiteral (l : Literal) : Token :=
  match l.number? with
  | some n => .number (.ok n)
  | none => .number (.error .malformed)

/-- Whether an exponent is negative, and what follows its sign. -/
def exponentSign : List Char → Bool × List Char
  | '+' :: cs => (false, cs)
  | '-' :: cs => (true, cs)
  | cs => (false, cs)

theorem length_exponentSign (cs : List Char) : (exponentSign cs).2.length ≤ cs.length := by
  unfold exponentSign
  split <;> simp

/-- Reads the exponent of a number, if there is one. -/
def lexExponent (negative : Bool) (whole : List Nat) (fraction : Option (List Nat))
    (cs : List Char) : Lexed cs.length :=
  match cs with
  | [] => ⟨(ofLiteral ⟨negative, whole, fraction, none⟩, []), by simp⟩
  | c :: rest =>
    if c = 'e' ∨ c = 'E' then
      let signed := exponentSign rest
      let ds := (digits signed.2).1
      let more := (digits signed.2).2
      if ds.isEmpty then .last (missingDigits more)
      else
        ⟨(ofLiteral ⟨negative, whole, fraction, some (signed.1, ds)⟩, more),
          Nat.le_succ_of_le
            (Nat.le_trans (length_digits signed.2) (length_exponentSign rest))⟩
    else ⟨(ofLiteral ⟨negative, whole, fraction, none⟩, c :: rest), by simp⟩

/-- Reads the fraction of a number, if there is one, and what follows. -/
def lexFraction (negative : Bool) (whole : List Nat) (cs : List Char) : Lexed cs.length :=
  match cs with
  | '.' :: rest =>
    let ds := (digits rest).1
    let more := (digits rest).2
    if ds.isEmpty then .last (missingDigits more)
    else (lexExponent negative whole (some ds) more).weaken
      (Nat.le_succ_of_le (length_digits rest))
  | cs => lexExponent negative whole none cs

/-- Reads a number behind its first digit; only a zero alone starts with zero. -/
def lexWhole (negative : Bool) (first : Nat) (cs : List Char) : Lexed cs.length :=
  let ds := (digits cs).1
  if first = 0 ∧ !ds.isEmpty then .last (.broken false .malformed .malformed)
  else (lexFraction negative (first :: ds) (digits cs).2).weaken (length_digits cs)

/-- Reads a number behind its minus sign. -/
def lexNegative (cs : List Char) : Lexed cs.length :=
  match cs with
  | [] => .last (missingDigits [])
  | c :: rest =>
    if c.isDigit then (lexWhole true (c.toNat - 48) rest).weaken (by simp)
    else .last (missingDigits (c :: rest))

/-- Reads the rest of a word. -/
def lexWord (token : Token) : (word : List Char) → (cs : List Char) → Lexed cs.length
  | [], cs => ⟨(token, cs), by simp⟩
  | _ :: _, [] => .last (.broken false .unfinished .unfinished)
  | w :: ws, c :: cs =>
    if c = w then (lexWord token ws cs).weaken (by simp)
    else .last (.broken false .malformed .malformed)

/-- Reads the token that starts with `c`. -/
def lex (c : Char) (cs : List Char) : Lexed cs.length :=
  if c = '[' then ⟨(.arrayStart, cs), by simp⟩
  else if c = ']' then ⟨(.arrayEnd, cs), by simp⟩
  else if c.toNat = 123 then ⟨(.objectStart, cs), by simp⟩
  else if c.toNat = 125 then ⟨(.objectEnd, cs), by simp⟩
  else if c = ':' then ⟨(.colon, cs), by simp⟩
  else if c = ',' then ⟨(.comma, cs), by simp⟩
  else if c = '"' then lexText ⟨[], none, false⟩ cs
  else if c = '-' then lexNegative cs
  else if c.isDigit then lexWhole false (c.toNat - 48) cs
  else if c = 'n' then lexWord .null ['u', 'l', 'l'] cs
  else if c = 't' then lexWord (.bool true) ['r', 'u', 'e'] cs
  else if c = 'f' then lexWord (.bool false) ['a', 'l', 's', 'e'] cs
  else .last (.broken false .malformed .malformed)

/-- The four blanks of JSON. -/
def isSpace (c : Char) : Bool :=
  c == ' ' || c == '\n' || c == '\t' || c == '\r'

/-- The tokens of a text. -/
def scan : List Char → List Token
  | [] => []
  | c :: cs =>
    if isSpace c then scan cs
    else
      let lexed := lex c cs
      lexed.1.1 :: scan lexed.1.2
termination_by cs => cs.length
decreasing_by
  · exact Nat.lt_succ_self _
  · exact Nat.lt_succ_of_le (lex c cs).2

end Token

end BuildSettings.Json
