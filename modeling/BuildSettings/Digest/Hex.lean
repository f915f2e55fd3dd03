/-!
# Bytes of text and bytes as text

Digests work on the UTF-8 bytes of a text and are written as small hexadecimal digits.
-/

namespace BuildSettings.Digest

/-- The UTF-8 bytes of a text. -/
def utf8 (s : String) : List UInt8 :=
  s.toUTF8.toList

/-- The hexadecimal digit of a number below 16. -/
def hexDigit (n : Nat) : Char :=
  if n < 10 then Char.ofNat (48 + n) else Char.ofNat (87 + n)

/-- Two small hexadecimal digits per byte. -/
def hex (bytes : List UInt8) : String :=
  String.ofList (bytes.flatMap fun b => [hexDigit (b.toNat / 16), hexDigit (b.toNat % 16)])

/-- The number whose base 256 digits are the bytes, first byte highest. -/
def bigEndian (bytes : List UInt8) : Nat :=
  bytes.foldl (fun acc b => acc * 256 + b.toNat) 0

/-- The number whose base 256 digits are the bytes, first byte lowest. -/
def littleEndian (bytes : List UInt8) : Nat :=
  bytes.foldr (fun b acc => acc * 256 + b.toNat) 0

/-- The lowest `count` bytes of a number, lowest first. -/
def bytesLow (count : Nat) (n : Nat) : List UInt8 :=
  match count with
  | 0 => []
  | count + 1 => UInt8.ofNat n :: bytesLow count (n / 256)

/-- The lowest `count` bytes of a number, highest first. -/
def bytesHigh (count : Nat) (n : Nat) : List UInt8 :=
  (bytesLow count n).reverse

/-- The message, a one bit, zero bits and its length in bits, in whole blocks of 64 bytes. -/
def pad (lengthField : Nat → List UInt8) (message : List UInt8) : List UInt8 :=
  let zeros := (119 - message.length % 64) % 64
  message ++ 0x80 :: List.replicate zeros 0 ++ lengthField (8 * message.length)

/-- Pieces of `size` elements; `count` bounds their number. -/
def chunks (size : Nat) : Nat → List UInt8 → List (List UInt8)
  | 0, _ => []
  | count + 1, bytes => bytes.take size :: chunks size count (bytes.drop size)

/-- The blocks of a padded message. -/
def blocks (padded : List UInt8) : List (List UInt8) :=
  chunks 64 (padded.length / 64) padded

/-- Rotation of a word to the left. -/
def rotateLeft (x : UInt32) (n : UInt32) : UInt32 :=
  (x <<< n) ||| (x >>> (32 - n))

/-- Rotation of a word to the right. -/
def rotateRight (x : UInt32) (n : UInt32) : UInt32 :=
  (x >>> n) ||| (x <<< (32 - n))

end BuildSettings.Digest
