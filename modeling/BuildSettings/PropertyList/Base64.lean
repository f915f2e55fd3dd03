/-!
# Base 64

Bytes written with an alphabet of 64 characters, six bits each: three bytes are four characters,
and what is left at the end is filled up with `=` to four. The bits that fill the last character
have to be zero, so that every sequence of bytes has one form.
-/

namespace BuildSettings.PropertyList

/-- The six bits of a character. -/
def sextet? (c : Char) : Option Nat :=
  if c.isUpper then some (c.toNat - 65)
  else if c.isLower then some (c.toNat - 71)
  else if c.isDigit then some (c.toNat + 4)
  else if c = '+' then some 62
  else if c = '/' then some 63
  else none

/-- The bytes of six bits each. -/
def bytesOfSextets? : List Nat → Option (List UInt8)
  | a :: b :: c :: d :: rest =>
    (bytesOfSextets? rest).map fun bytes =>
      UInt8.ofNat (a * 4 + b / 16) :: UInt8.ofNat (b % 16 * 16 + c / 4) ::
        UInt8.ofNat (c % 4 * 64 + d) :: bytes
  | [a, b, c] =>
    if c % 4 = 0 then some [UInt8.ofNat (a * 4 + b / 16), UInt8.ofNat (b % 16 * 16 + c / 4)]
    else none
  | [a, b] => if b % 16 = 0 then some [UInt8.ofNat (a * 4 + b / 16)] else none
  | [_] => none
  | [] => some []

/-- The bytes of a text in base 64. -/
def base64? (cs : List Char) : Option (List UInt8) :=
  let body := (cs.reverse.dropWhile (· == '=')).reverse
  if cs.length % 4 = 0 ∧ cs.length - body.length ≤ 2 then
    (body.mapM sextet?).bind bytesOfSextets?
  else none

end BuildSettings.PropertyList
