import BuildSettings.Decimal.Power

/-!
# The nearest double

The double nearest to a decimal number, by exact arithmetic on natural numbers: the number is
divided by the step of doubles of its size, and the quotient is rounded to the nearest whole
number, a half to the even one. A double is given by its bits without the sign, which for
`s · 2 ^ q` with `q ≥ -1074` are `(q + 1074) · 2 ^ 52 + s`.
-/

namespace BuildSettings.Decimal

/-- The bits of infinity; those of every finite double are smaller. -/
def infinityBits : Nat := 0x7FF * twoTo 52

/-- `num / den`, rounded to the nearest whole number, a half to the even one. -/
def roundDiv (num den : Nat) : Nat :=
  let quotient := num / den
  let twice := 2 * (num % den)
  if den < twice ∨ (den = twice ∧ quotient % 2 = 1) then quotient + 1 else quotient

/-- The bits of the double nearest to `num / den`, where the step between doubles is taken to be
`2 ^ (step - 1074)`. -/
def bitsAtStep (num den step : Nat) : Nat :=
  let significand :=
    if 1074 ≤ step then roundDiv num (den * twoTo (step - 1074))
    else roundDiv (num * twoTo (1074 - step)) den
  step * twoTo 52 + significand

/-- The step of doubles of the size of `num / den`, counted from the smallest: the quotient by it
has 53 binary digits, or fewer at the smallest step. -/
def stepOf (num den : Nat) : Nat :=
  let guess := 1074 + num.log2 - den.log2 - 52
  let tooSmall :=
    if 1074 ≤ guess then num < den * twoTo (guess - 1074) * twoTo 52
    else num * twoTo (1074 - guess) < den * twoTo 52
  if tooSmall then guess - 1 else guess

/-- The bits of the double nearest to `coefficient · 10 ^ exponent`; too large numbers give
`infinityBits` or more. Exponents far outside the range of doubles are cut short. -/
def nearestBits (coefficient : Nat) (exponent : Int) : Nat :=
  let size := (Nat.toDigits 10 coefficient).length + exponent
  if coefficient = 0 ∨ size < -400 then 0
  else if 400 < size then infinityBits
  else
    let num := coefficient * tenTo exponent.toNat
    let den := tenTo (-exponent).toNat
    bitsAtStep num den (stepOf num den)

end BuildSettings.Decimal
