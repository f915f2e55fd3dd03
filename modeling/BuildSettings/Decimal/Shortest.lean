import BuildSettings.Decimal.Power

/-!
# The shortest decimal that reads back

A finite binary number `m · 2 ^ q` stands for the reals that round to it. `shortest` gives the
decimal with the fewest digits among them, the nearest one if there are several, and the one with
an even last digit if two are equally near. Everything is exact arithmetic on natural numbers.
-/

namespace BuildSettings.Decimal

/-- A positive rational number. -/
structure Ratio where
  num : Nat
  den : Nat

/-- The number `n · 2 ^ q`. -/
def Ratio.ofBinary (n : Nat) (q : Int) : Ratio :=
  if 0 ≤ q then ⟨n * twoTo q.toNat, 1⟩ else ⟨n, twoTo (-q).toNat⟩

/-- The number `c · 10 ^ k`. -/
def Ratio.ofDecimal (c : Nat) (k : Int) : Ratio :=
  if 0 ≤ k then ⟨c * tenTo k.toNat, 1⟩ else ⟨c, tenTo (-k).toNat⟩

/-- Whether `a` is at most `b`. -/
def Ratio.le (a b : Ratio) : Bool :=
  a.num * b.den ≤ b.num * a.den

/-- Whether `a` is less than `b`. -/
def Ratio.lt (a b : Ratio) : Bool :=
  a.num * b.den < b.num * a.den

/-- The distance of two numbers. -/
def Ratio.distance (a b : Ratio) : Ratio :=
  ⟨a.num * b.den - b.num * a.den + (b.num * a.den - a.num * b.den), a.den * b.den⟩

/-- The whole part of `r / 10 ^ k`. -/
def Ratio.wholeOver (r : Ratio) (k : Int) : Nat :=
  if 0 ≤ k then r.num / (r.den * tenTo k.toNat) else r.num * tenTo (-k).toNat / r.den

/-- The exponent of the first digit of a number between `10 ^ -324` and `10 ^ 309`. -/
def Ratio.leading (r : Ratio) : Int :=
  match (List.range 633).find? fun (i : Nat) => r.lt (.ofDecimal 1 ((i : Int) - 323)) with
  | some i => (i : Int) - 324
  | none => 308

/-- Digits as a number, and the exponent of the last of them. -/
structure Digits where
  coefficient : Nat
  exponent : Int
deriving DecidableEq, Repr

/-- The reals that round to one binary number. -/
structure Interval where
  low : Ratio
  value : Ratio
  high : Ratio
  /-- Whether the ends belong to it. -/
  closed : Bool

/-- Whether a real rounds to the number. -/
def Interval.holds (i : Interval) (r : Ratio) : Bool :=
  if i.closed then i.low.le r && r.le i.high else i.low.lt r && r.lt i.high

/-- The best decimal with last exponent `k` in the interval: the nearest of the two neighbours of
the value, the even one on a tie. -/
def Interval.onGrid? (i : Interval) (k : Int) : Option Digits :=
  let down := i.value.wholeOver k
  let candidates := [down, down + 1].filter fun c => i.holds (.ofDecimal c k)
  match candidates with
  | [] => none
  | [c] => some ⟨c, k⟩
  | c :: d :: _ =>
    let toC := (Ratio.ofDecimal c k).distance i.value
    let toD := (Ratio.ofDecimal d k).distance i.value
    if toC.lt toD then some ⟨c, k⟩
    else if toD.lt toC then some ⟨d, k⟩
    else if c % 2 = 0 then some ⟨c, k⟩ else some ⟨d, k⟩

/-- The upper neighbour may be a power of ten, with one digit more than the grid asks for. -/
def Digits.withoutZero (d : Digits) : Digits :=
  if d.coefficient % 10 = 0 then ⟨d.coefficient / 10, d.exponent + 1⟩ else d

/-- The shortest digits in the interval; seventeen always suffice. -/
def Interval.shortest (i : Interval) : Digits :=
  let first := i.value.leading
  match (List.range 17).findSome? fun (n : Nat) => i.onGrid? (first - (n : Int)) with
  | some digits => digits.withoutZero
  | none => ⟨i.value.wholeOver (first - 16), first - 16⟩

/-- The interval of `m · 2 ^ q`; below a power of two the neighbours are closer, unless the
exponent is the least one. -/
def Interval.ofBinary (m : Nat) (q : Int) (atLeast : Bool) : Interval :=
  let below := if m = twoTo 52 ∧ !atLeast then 1 else 2
  { low := .ofBinary (4 * m - below) (q - 2)
    value := .ofBinary m q
    high := .ofBinary (4 * m + 2) (q - 2)
    closed := m % 2 == 0 }

/-- The shortest digits of the positive double with these bits, the sign bit apart. -/
def shortest (bits : Nat) : Digits :=
  let exponent : Nat := bits / twoTo 52 % twoTo 11
  let fraction : Nat := bits % twoTo 52
  if exponent = 0 then (Interval.ofBinary fraction (-1074) true).shortest
  else (Interval.ofBinary (twoTo 52 + fraction) ((exponent : Int) - 1075) (exponent == 1)).shortest

end BuildSettings.Decimal
