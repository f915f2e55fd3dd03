import BuildSettings.Text.CaseTable

/-!
# Small letters and capitals

The full case mappings of a text: a character may become several, and a capital sigma at the end
of a word becomes the final sigma.
-/

namespace BuildSettings.Text

/-- Whether the code point lies in one of the ranges. -/
def inRanges (ranges : List (Nat × Nat)) (n : Nat) : Bool :=
  ranges.any fun r => decide (r.1 ≤ n) && decide (n ≤ r.2)

/-- The image of a code point of the run. -/
def CaseRun.image? (run : CaseRun) (n : Nat) : Option Nat :=
  if run.first ≤ n ∧ n ≤ run.last ∧ (n - run.first) % run.step = 0 then
    some (n + run.shift).toNat
  else none

/-- The image of a character under a case mapping; one that is in no table stays. -/
def mapCase (runs : List CaseRun) (expansions : List (Nat × List Nat)) (c : Char) : List Char :=
  match expansions.lookup c.toNat with
  | some image => image.map Char.ofNat
  | none =>
    match runs.findSome? (·.image? c.toNat) with
    | some n => [Char.ofNat n]
    | none => [c]

/-- Letters, and what counts as a letter for the ends of words. -/
def isCased (c : Char) : Bool :=
  inRanges casedRanges c.toNat

/-- Characters that are passed over when the ends of words are looked for. -/
def isCaseIgnorable (c : Char) : Bool :=
  inRanges caseIgnorableRanges c.toNat

/-- Whether the first character that counts is a letter. -/
def meetsCased (cs : List Char) : Bool :=
  match cs.dropWhile isCaseIgnorable with
  | [] => false
  | c :: _ => isCased c

/-- The capital sigma. -/
def capitalSigma : Char := Char.ofNat 0x3A3

/-- The small form of each character; `before` holds the characters already passed, nearest
first. A capital sigma after a letter and not before one takes its final form. -/
def lowerFrom (before : List Char) : List Char → List Char
  | [] => []
  | c :: cs =>
    let image :=
      if c = capitalSigma then
        if meetsCased before && !meetsCased cs then [Char.ofNat 0x3C2] else [Char.ofNat 0x3C3]
      else mapCase lowerRuns lowerExpansions c
    image ++ lowerFrom (c :: before) cs

/-- The text in small letters. -/
def lower (s : String) : String :=
  String.ofList (lowerFrom [] s.toList)

/-- The text in capitals. -/
def upper (s : String) : String :=
  String.ofList (s.toList.flatMap (mapCase upperRuns upperExpansions))

end BuildSettings.Text
