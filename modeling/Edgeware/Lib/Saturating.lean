import Mathlib.Algebra.Group.Nat.Defs

/-!
# Saturating arithmetic

Unsigned words of width `w` where a multiplication that does not fit gives the largest word,
`2 ^ w - 1`, in place of wrapping. The law gives its value as a natural number, the exact product
when it fits and the largest word otherwise.
-/

namespace Saturating

variable {w : Nat}

/-- Saturating multiplication. -/
def mul (a b : BitVec w) : BitVec w :=
  if a.toNat * b.toNat < 2 ^ w then a * b else BitVec.allOnes w

/-- A saturating multiplication is the product, capped at the largest word. -/
theorem toNat_mul (a b : BitVec w) : (mul a b).toNat = min (a.toNat * b.toNat) (2 ^ w - 1) := by
  unfold mul
  split
  case isTrue fits =>
    rw [BitVec.toNat_mul, Nat.mod_eq_of_lt fits]
    omega
  case isFalse overflows =>
    rw [BitVec.toNat_allOnes]
    omega

end Saturating
