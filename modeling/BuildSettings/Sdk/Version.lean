import BuildSettings.Decimal.Power
import BuildSettings.Text.Cut

/-!
# Versions

A version is a list of numbers between dots. Parts that are no numbers of 32 bits do not count,
so every text is a version. `compare` goes part by part; a version that runs out first is older.
-/

namespace BuildSettings.Version

/-- The value of a part: digits, perhaps behind a plus sign. -/
def part? (cs : List Char) : Option Nat :=
  let digits := match cs with
    | '+' :: rest => rest
    | cs => cs
  let value := digits.foldl (fun n c => n * 10 + (c.toNat - 48)) 0
  if !digits.isEmpty && digits.all Char.isDigit && value < Decimal.twoTo 32 then some value else none

/-- The parts of a version that count. -/
def parts (version : String) : List Nat :=
  (Text.pieces '.' version.toList).filterMap part?

/-- Compares lists of parts. -/
def compareParts : List Nat → List Nat → Ordering
  | [], [] => .eq
  | [], _ :: _ => .lt
  | _ :: _, [] => .gt
  | a :: as, b :: bs =>
    if a < b then .lt else if b < a then .gt else compareParts as bs

/-- Compares two versions. -/
def compare (a b : String) : Ordering :=
  compareParts (parts a) (parts b)

/-- The entry with the newest version; of several, the last. -/
def newest? {α : Type} (version : α → String) : List α → Option α
  | [] => none
  | x :: xs =>
    match newest? version xs with
    | none => some x
    | some y => if compare (version x) (version y) = .gt then some x else some y

end BuildSettings.Version
