import Simulator.Foundation.Double

/-!
# Laws of the square root

A distance between two points is a square root, and a program that steers something over a
plane divides by it, compares it with a range, or walks a part of it.  How much such a program
needs to know of the root is little, and it is worth saying how little, since the numbers a
model runs on may not have roots at all.

## Two laws

`ExactSquareRoot` asks that the root of `a * a` is `a`, for an `a` that is not negative.  That
is what a statement about the length of a way needs: what has been walked, measured as the
square root of a sum of squares, is the number the way was meant to have.

`PositiveSquareRoot` asks only that the root of something positive is positive.  That is what
a division by a distance needs, and a comparison with a range that is zero.

The rationals have both, by `Rat.sqrt`, which is exact on squares and answers something near
the root elsewhere.  So a statement under these laws can be evaluated on concrete inputs, and
it is no statement about the reals in disguise.  A function with neither law is still a
`SquareRoot`; most of the development asks for no more than that.
-/

namespace Simulator
namespace Foundation

/-- The square root is exact on squares. -/
class ExactSquareRoot (K : Type) [Mul K] [Zero K] [LE K] [SquareRoot K] : Prop where
  sqrt_mul_self : ∀ x : K, 0 ≤ x → SquareRoot.sqrt (x * x) = x

instance : ExactSquareRoot ℚ := ⟨fun x hx => (Rat.sqrt_eq x).trans (abs_of_nonneg hx)⟩

/-- The square root of what is positive is positive. -/
class PositiveSquareRoot (K : Type) [Zero K] [LT K] [SquareRoot K] : Prop where
  sqrt_pos : ∀ x : K, 0 < x → 0 < SquareRoot.sqrt x

instance : PositiveSquareRoot ℚ where
  sqrt_pos x hx := by
    have hnum : 0 < x.num := Rat.num_pos.mpr hx
    have hroot : 0 < Int.sqrt x.num := Int.natCast_pos.mpr (Nat.sqrt_pos.mpr (by omega))
    show 0 < Rat.sqrt x
    rw [Rat.sqrt, Rat.mkRat_eq_div]
    exact div_pos (by exact_mod_cast hroot) (by exact_mod_cast Nat.sqrt_pos.mpr x.den_pos)

namespace Double

theorem sqrt_mul_self {K : Type} [Field K] [LinearOrder K] [IsStrictOrderedRing K] [SquareRoot K]
    [ExactSquareRoot K] {x : K} (hx : 0 ≤ x) : (num (x * x)).sqrt = num x := by
  rw [sqrt, if_neg (not_lt.mpr (mul_self_nonneg x)), ExactSquareRoot.sqrt_mul_self x hx]

end Double

end Foundation
end Simulator
