import BuildSettings.Digest.Md5
import BuildSettings.Path

/-!
# Derived data

The build keeps what it makes of a project in a directory that is named after the project and
the path of its project file. The path enters as its MD5 digest, whose two halves are written in
base 26 with letters for digits.

Notes on how the functions mirror a program that does the same:
- A program fills an array of letters from its end while it divides. `letters` puts the last letter
  behind those of the quotient, which writes the same digits.
- A half of the digest is a number of 64 bits in a program. Here it is a natural number, and that
  fourteen letters are enough for it is what `lettersPerHalf` says.
-/

namespace BuildSettings.DerivedData

/-- The number of letters for a number of 64 bits; `26 ^ 14` is larger than `2 ^ 64`. -/
def lettersPerHalf : Nat := 14

/-- The letter for a digit of base 26. -/
def letter (digit : Nat) : Char :=
  Char.ofNat (97 + digit)

/-- The last `count` digits of a number in base 26, as letters. -/
def letters : (count : Nat) → (value : Nat) → List Char
  | 0, _ => []
  | count + 1, value => letters count (value / 26) ++ [letter (value % 26)]

/-- The letters of a digest of 16 bytes, half by half. -/
def digestLetters (digest : List UInt8) : List Char :=
  letters lettersPerHalf (Digest.bigEndian (digest.take 8)) ++
    letters lettersPerHalf (Digest.bigEndian (digest.drop 8))

/-- The letters for the path of a project file. -/
def pathHash (path : String) : String :=
  String.ofList (digestLetters (Digest.Md5.digest (Digest.utf8 path)))

/-- The directory of a project below a home directory. -/
def directory (home : Path) (name path : String) : Path :=
  home / "Library/Developer/Xcode/DerivedData" / (name ++ "-" ++ pathHash path)

end BuildSettings.DerivedData
