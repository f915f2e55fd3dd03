/-!
# Powers of two and ten

Both are `Nat.pow` itself, so that they mean the same whatever instances for powers are in scope.
-/

namespace BuildSettings.Decimal

/-- The power of two with this exponent. -/
abbrev twoTo (exponent : Nat) : Nat :=
  Nat.pow 2 exponent

/-- The power of ten with this exponent. -/
abbrev tenTo (exponent : Nat) : Nat :=
  Nat.pow 10 exponent

end BuildSettings.Decimal
