import BuildSettings.Decimal.Shortest

/-!
# Numbers of JSON

A number is an integer of 64 bits (with or without a sign) or a finite double. A literal without
fraction and exponent that fits is an integer; minus zero and everything else is a double. The
digits of a literal are gathered in 64 bits and scaled by one power of ten.
-/

namespace BuildSettings.Json

/-- A number, a double by its bits. -/
inductive Number where
  | integer (value : Int)
  | real (bits : UInt64)
deriving DecidableEq, Inhabited, Repr

/-- The parts of a literal; digits are given by their values. -/
structure Literal where
  negative : Bool
  whole : List Nat
  fraction : Option (List Nat)
  /-- Whether the exponent is negative, and its digits. -/
  exponent : Option (Bool × List Nat)

namespace Literal

/-- Gathers digits behind `acc` while they fit in 64 bits: the number, how many digits it took
and the digits left over. -/
def gather (acc : Nat) : List Nat → Nat × Nat × List Nat
  | [] => (acc, 0, [])
  | d :: ds =>
    if acc * 10 + d < Decimal.twoTo 64 then
      let (n, taken, rest) := gather (acc * 10 + d) ds
      (n, taken + 1, rest)
    else (acc, 0, d :: ds)

/-- `f · 10 ^ exponent` by multiplying or dividing by powers of ten up to 308; `none` when it is
too large for a double. -/
def scale : Nat → Float → Int → Option Float
  | 0, _, _ => some 0
  | steps + 1, f, exponent =>
    if exponent.natAbs ≤ 308 then
      let power := Float.ofScientific 1 false exponent.natAbs
      if 0 ≤ exponent then
        let scaled := f * power
        if scaled.isInf then none else some scaled
      else some (f / power)
    else if f == 0 then some f
    else if 0 ≤ exponent then none
    else scale steps (f / Float.ofScientific 1 false 308) (exponent + 308)

/-- The value of exponent digits as long as it stays below `2 ^ 31`. -/
def exponentValue (digits : List Nat) : Option Nat :=
  digits.foldl
    (fun acc d => acc.bind fun n =>
      if n * 10 + d < Decimal.twoTo 31 then some (n * 10 + d) else none)
    (some 0)

/-- The double `± significand · 10 ^ exponent`. -/
def real (negative : Bool) (significand : Nat) (exponent : Int) : Option Number :=
  (scale 4 (UInt64.ofNat significand).toFloat exponent).map fun f =>
    .real (if negative then -f else f).toBits

/-- The number of a literal; `none` when it is too large. -/
def number? (l : Literal) : Option Number :=
  let (whole, _, left) := gather 0 l.whole
  let (significand, taken, _) := gather whole (l.fraction.getD [])
  let exponent : Int := left.length - taken
  match l.exponent with
  | some (negativeExponent, digits) =>
    match exponentValue digits with
    | some e => real l.negative significand (if negativeExponent then exponent - e else exponent + e)
    | none =>
      if significand != 0 && !negativeExponent then none else real l.negative 0 0
  | none =>
    if l.fraction.isNone && left.isEmpty then
      if !l.negative then some (.integer whole)
      else if whole = 0 ∨ Decimal.twoTo 63 < whole then real true whole 0
      else some (.integer (-(whole : Int)))
    else real l.negative significand exponent

end Literal

namespace Number

/-- The digits of a natural number. -/
def digitChars (n : Nat) : List Char :=
  Nat.toDigits 10 n

/-- Positional notation from `0.00001` up to below `10 ^ 16`, always with a point; otherwise one
digit, a point before further ones, and the exponent. -/
def writeDigits (d : Decimal.Digits) : List Char :=
  let digits := digitChars d.coefficient
  let point : Int := digits.length + d.exponent
  if 0 ≤ d.exponent ∧ point ≤ 16 then
    digits ++ List.replicate d.exponent.toNat '0' ++ ['.', '0']
  else if 0 < point ∧ point ≤ 16 then
    digits.take point.toNat ++ '.' :: digits.drop point.toNat
  else if -5 < point ∧ point ≤ 0 then
    '0' :: '.' :: List.replicate (-point).toNat '0' ++ digits
  else
    let exponent := (if point - 1 < 0 then ['-'] else []) ++ digitChars (point - 1).natAbs
    match digits with
    | [c] => c :: 'e' :: exponent
    | c :: cs => c :: '.' :: cs ++ 'e' :: exponent
    | [] => []

/-- The text of a number. -/
def toChars : Number → List Char
  | .integer value =>
    (if value < 0 then ['-'] else []) ++ digitChars value.natAbs
  | .real bits =>
    let n := bits.toNat
    let size := n % Decimal.twoTo 63
    (if Decimal.twoTo 63 ≤ n then ['-'] else []) ++
      if size = 0 then ['0', '.', '0'] else writeDigits (Decimal.shortest size)

end Number

end BuildSettings.Json
