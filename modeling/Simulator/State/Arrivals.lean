import Simulator.Foundation.SquareRoots
import Simulator.State.Paths
import Mathlib.Algebra.Order.Floor.Semifield

/-!
# The way of a soldier

A soldier that has a destination goes towards it, a step in every turn, and each step is computed
anew from where the soldier is.  Nothing in the code says that the steps make up a straight line,
or that it takes the number of turns one would expect; that is what this module is about.

## The position after some turns

Where the distance is a number, the positions on the way to a destination are told apart
by how far it still is from them: `ahead r` is the position of the segment at distance `r`
from its end.  A step of the path planner takes `ahead r` to `ahead (r - speed)`, or to the
destination when that is within reach (`getNextPosition_ahead`), so the whole way is
`walk_eq_ahead`.

The distance between two positions is a square root, and the way is exact only where that is the
number whose square it should be.  This is the one law of the root that is used, and it is used of
squares only, since what is left of the way is a part of a distance that had a root.

## The arrival

From the closed form follows what a caller wants to know: the way stays on the segment
(`walk_mem_segment`), each step covers the speed until the destination is within a step
(`distance_walk_succ`), and the destination is reached after `⌈D / speed⌉` steps, not earlier, and
not left again (`walk_eq_iff`).
-/

namespace Simulator

open Foundation

namespace SimplePathPlanner

variable {K : Type} [Field K] [LinearOrder K] [SquareRoot K]

/-- The position after `n` steps. -/
def walk (source dest : Vector K) (speed : ℤ) (n : ℕ) : Vector K :=
  (fun position => getNextPosition position dest speed)^[n] source

theorem walk_succ (source dest : Vector K) (speed : ℤ) (n : ℕ) :
    walk source dest speed (n + 1) = getNextPosition (walk source dest speed n) dest speed :=
  Function.iterate_succ_apply' ..

section Way

variable [IsStrictOrderedRing K]

/-- The position of the way from `(x, y)` to `(x', y')`, which are `D` apart, from which the
end is `r` away. -/
def ahead (x y x' y' D r : K) : Vector K :=
  ⟨.num (between (1 - r / D) x x'), .num (between (1 - r / D) y y')⟩

variable {x y x' y' D r : K}

omit [SquareRoot K] in
theorem between_sub (r D a a' : K) : between (1 - r / D) a a' - a' = -(r / D * (a' - a)) := by
  rw [between]
  ring

section Exact

variable [ExactSquareRoot K] (hD : D * D = (x' - x) * (x' - x) + (y' - y) * (y' - y))

omit [ExactSquareRoot K] [LinearOrder K] [SquareRoot K] [IsStrictOrderedRing K] in
theorem ahead_zero (x y x' y' D : K) : ahead x y x' y' D 0 = ⟨.num x', .num y'⟩ := by
  simp [ahead, between]

omit [ExactSquareRoot K] [LinearOrder K] [SquareRoot K] [IsStrictOrderedRing K] in
theorem ahead_self (hpos : D ≠ 0) : ahead x y x' y' D D = ⟨.num x, .num y⟩ := by
  simp [ahead, between, hpos]

omit [ExactSquareRoot K] [SquareRoot K] in
theorem left_le (hnonneg : 0 ≤ D) {speed : ℤ} (hspeed : 0 ≤ speed) (n : ℕ) :
    max (D - n * speed) 0 ≤ D := by
  have hcast : (0 : K) ≤ (speed : K) := by exact_mod_cast hspeed
  exact max_le (sub_le_self D (mul_nonneg (Nat.cast_nonneg n) hcast)) hnonneg

include hD

omit [ExactSquareRoot K] [SquareRoot K] in
theorem square_ahead (hr : 0 ≤ r) (hle : r ≤ D) :
    (between (1 - r / D) x x' - x') * (between (1 - r / D) x x' - x') +
      (between (1 - r / D) y y' - y') * (between (1 - r / D) y y' - y') = r * r := by
  have hscale : r / D * D = r := by
    rcases eq_or_ne D 0 with hzero | hne
    · rw [hzero, mul_zero]
      exact le_antisymm hr (hle.trans hzero.le)
    · exact div_mul_cancel₀ r hne
  calc _ = r / D * (r / D) * ((x' - x) * (x' - x) + (y' - y) * (y' - y)) := by
        rw [between_sub, between_sub]
        ring
    _ = r / D * D * (r / D * D) := by rw [← hD]; ring
    _ = r * r := by rw [hscale]

theorem distance_ahead (hr : 0 ≤ r) (hle : r ≤ D) :
    (ahead x y x' y' D r).distance ⟨.num x', .num y'⟩ = .num r := by
  show (Double.num (_ * _ + _ * _)).sqrt = _
  rw [square_ahead hD hr hle, Double.sqrt_mul_self hr]

theorem magnitude_ahead (hr : 0 ≤ r) (hle : r ≤ D) :
    ((⟨.num x', .num y'⟩ : Vector K) - ahead x y x' y' D r).magnitude = .num r := by
  have hswap : ∀ a b : K, (b - a) * (b - a) = (a - b) * (a - b) := fun a b => by ring
  show (Double.num ((x' - _) * (x' - _) + (y' - _) * (y' - _))).sqrt = _
  rw [hswap _ x', hswap _ y', square_ahead hD hr hle, Double.sqrt_mul_self hr]

/-- **One step** covers the speed, or all that is left. -/
theorem getNextPosition_ahead (hr : 0 ≤ r) (hle : r ≤ D) {speed : ℤ} (hspeed : 0 ≤ speed) :
    getNextPosition (ahead x y x' y' D r) ⟨.num x', .num y'⟩ speed =
      ahead x y x' y' D (max (r - speed) 0) := by
  have hcast : (0 : K) ≤ (speed : K) := by exact_mod_cast hspeed
  rw [getNextPosition, distance_ahead hD hr hle]
  by_cases hreach : r ≤ (speed : K)
  · rw [if_pos (by exact hreach), max_eq_right (sub_nonpos.mpr hreach), ahead_zero]
  · have hlt := not_le.mp hreach
    have hrpos : 0 < r := hcast.trans_lt hlt
    have hDpos : 0 < D := hrpos.trans_le hle
    rw [if_neg (by exact hreach), max_eq_left (sub_nonneg.mpr hlt.le)]
    simp only [magnitude_ahead hD hr hle]
    have hunit : ∀ z : K, (Double.num z / Double.num r : Double K) = .num (z / r) := fun z =>
      if_neg hrpos.ne'
    have hstep : ∀ a a' : K, between (1 - r / D) a a' +
        (a' - between (1 - r / D) a a') / r * (speed : K) = between (1 - (r - speed) / D) a a' := by
      intro a a'
      simp only [between]
      field_simp
      ring
    show (⟨_ + (Double.num (x' - _) / Double.num r) * _,
      _ + (Double.num (y' - _) / Double.num r) * _⟩ : Vector K) = _
    simp only [ahead, ← hstep]
    rw [hunit, hunit]
    rfl

/-- **The whole way.** -/
theorem walk_eq_ahead (hnonneg : 0 ≤ D) {speed : ℤ} (hspeed : 0 ≤ speed) (n : ℕ) :
    walk ⟨.num x, .num y⟩ ⟨.num x', .num y'⟩ speed n =
      ahead x y x' y' D (max (D - n * speed) 0) := by
  have hcast : (0 : K) ≤ (speed : K) := by exact_mod_cast hspeed
  induction n with
  | zero =>
    rw [Nat.cast_zero, zero_mul, sub_zero, max_eq_left hnonneg]
    rcases eq_or_ne D 0 with hzero | hne
    · -- the two ends are the same position
      rw [hzero, mul_zero] at hD
      obtain ⟨hx, hy⟩ := (add_eq_zero_iff_of_nonneg (mul_self_nonneg _) (mul_self_nonneg _)).mp
        hD.symm
      rw [hzero, ahead_zero, sub_eq_zero.mp (mul_self_eq_zero.mp hx),
        sub_eq_zero.mp (mul_self_eq_zero.mp hy)]
      rfl
    · exact (ahead_self hne).symm
  | succ n ih =>
    have hsteps : (0 : K) ≤ n * speed := mul_nonneg (Nat.cast_nonneg n) hcast
    rw [walk_succ, ih, getNextPosition_ahead hD (le_max_right _ _)
      (max_le (sub_le_self D hsteps) hnonneg) hspeed]
    have hnext : D - (n + 1 : ℕ) * speed = D - n * speed - speed := by
      push_cast
      ring
    rw [hnext]
    rcases le_total (D - n * speed) 0 with hdone | hleft
    · rw [max_eq_right hdone, max_eq_right (by linarith), max_eq_right (by linarith)]
    · rw [max_eq_left hleft]

/-- The way stays on the segment. -/
theorem walk_mem_segment (hnonneg : 0 ≤ D) {speed : ℤ} (hspeed : 0 ≤ speed) (n : ℕ) :
    ∃ t ∈ Set.Icc (0 : K) 1, walk ⟨.num x, .num y⟩ ⟨.num x', .num y'⟩ speed n =
      ⟨.num (between t x x'), .num (between t y y')⟩ := by
  have hle := left_le hnonneg hspeed n
  refine ⟨1 - max (D - n * speed) 0 / D, ⟨?_, ?_⟩, walk_eq_ahead hD hnonneg hspeed n⟩
  · exact sub_nonneg.mpr (div_le_one_of_le₀ hle hnonneg)
  · exact sub_le_self 1 (div_nonneg (le_max_right _ _) hnonneg)

theorem distance_walk (hnonneg : 0 ≤ D) {speed : ℤ} (hspeed : 0 ≤ speed) (n : ℕ) :
    (walk ⟨.num x, .num y⟩ ⟨.num x', .num y'⟩ speed n).distance ⟨.num x', .num y'⟩ =
      .num (max (D - n * speed) 0) := by
  rw [walk_eq_ahead hD hnonneg hspeed,
    distance_ahead hD (le_max_right _ _) (left_le hnonneg hspeed n)]

/-- A step covers the speed while that does not reach the destination. -/
theorem distance_walk_succ (hnonneg : 0 ≤ D) {speed : ℤ} (hspeed : 0 ≤ speed) (n : ℕ)
    (hfar : Double.ofInt speed <
      (walk ⟨.num x, .num y⟩ ⟨.num x', .num y'⟩ speed n).distance ⟨.num x', .num y'⟩) :
    (walk ⟨.num x, .num y⟩ ⟨.num x', .num y'⟩ speed (n + 1)).distance ⟨.num x', .num y'⟩ =
      (walk ⟨.num x, .num y⟩ ⟨.num x', .num y'⟩ speed n).distance ⟨.num x', .num y'⟩ -
        Double.ofInt speed := by
  have hcast : (0 : K) ≤ (speed : K) := by exact_mod_cast hspeed
  rw [distance_walk hD hnonneg hspeed] at hfar ⊢
  rw [distance_walk hD hnonneg hspeed]
  have hlt : (speed : K) < max (D - n * speed) 0 := hfar
  have hleft : (speed : K) < D - n * speed :=
    (lt_max_iff.mp hlt).resolve_right (not_lt.mpr hcast)
  have hnext : D - (n + 1 : ℕ) * speed = D - n * speed - speed := by
    push_cast
    ring
  rw [hnext, max_eq_left (by linarith), max_eq_left (by linarith)]
  rfl

/-- **The destination is reached after `⌈D / speed⌉` steps**, and not left again. -/
theorem walk_eq_iff [FloorRing K] (hnonneg : 0 ≤ D) {speed : ℤ} (hspeed : 0 < speed) (n : ℕ) :
    walk ⟨.num x, .num y⟩ ⟨.num x', .num y'⟩ speed n = ⟨.num x', .num y'⟩ ↔
      ⌈D / speed⌉₊ ≤ n := by
  have hcast : (0 : K) < (speed : K) := by exact_mod_cast hspeed
  have hdone : ⌈D / (speed : K)⌉₊ ≤ n ↔ max (D - n * speed) 0 = 0 := by
    rw [Nat.ceil_le, div_le_iff₀ hcast, max_eq_right_iff, sub_nonpos]
  rw [hdone]
  constructor
  · intro harrived
    have hzero := distance_ahead (x := x) (y := y) hD le_rfl hnonneg
    rw [ahead_zero] at hzero
    have hleft := distance_walk hD hnonneg hspeed.le n
    rw [harrived, hzero] at hleft
    exact (Double.num.inj hleft).symm
  · intro hleft
    rw [walk_eq_ahead hD hnonneg hspeed.le, hleft, ahead_zero]

end Exact

end Way

end SimplePathPlanner

end Simulator
