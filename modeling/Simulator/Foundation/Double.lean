import Mathlib.Algebra.Order.Floor.Ring
import Mathlib.Algebra.Order.Ring.Rat
import Mathlib.Data.Rat.Floor
import Mathlib.Data.Rat.Sqrt

/-!
# Floating-point numbers in exact arithmetic, with a not-a-number

A program that computes with `double` mixes two things a proof wants apart: the
rounding, and the value that is no number.  This file keeps the second and
drops the first.  `Double K` is a field `K` of numbers with one extra point
`nan`; arithmetic on numbers is the arithmetic of `K`, every operation that
meets `nan` answers `nan`, and the comparisons follow the usual rule: an ordered
comparison with `nan` is false, and `nan` differs from everything, itself
included.

The field is a parameter.  At `ℚ` the operations run, which is what concrete
inputs are checked with; at a field with all square roots they are the exact
arithmetic that statements about distances ask for.  What the development needs
of the square root is only that it is a function, so `SquareRoot` has no laws.

The integers are the part of `Double K` on which everything is exact, and the
lemmas about `ofInt` say so: `ofInt` is injective, `floor (ofInt a / ofInt b)` is
integer division, and `toInt` undoes `ofInt`.
-/

namespace Simulator
namespace Foundation

/-- A square root on the numbers; no law is asked of it here. -/
class SquareRoot (K : Type) where
  sqrt : K → K

/-- The rationals, with the root of numerator and denominator: exact on squares. -/
instance : SquareRoot ℚ := ⟨Rat.sqrt⟩

/-- A number, or the value that is not one. -/
inductive Double (K : Type) where
  | nan
  | num (x : K)
  deriving DecidableEq

namespace Double

variable {K : Type}

/-- Lift an operation on numbers; `nan` is absorbing. -/
def lift₂ (f : K → K → K) : Double K → Double K → Double K
  | num x, num y => num (f x y)
  | _, _ => nan

@[simp] theorem lift₂_num (f : K → K → K) (x y : K) : lift₂ f (num x) (num y) = num (f x y) :=
  rfl

/-! ## Comparisons -/

/-- `a < b`; false as soon as one side is `nan`. -/
instance [LT K] : LT (Double K) where
  lt
    | num x, num y => x < y
    | _, _ => False

/-- `a <= b`; false as soon as one side is `nan`. -/
instance [LE K] : LE (Double K) where
  le
    | num x, num y => x ≤ y
    | _, _ => False

instance [LT K] [DecidableLT K] : DecidableLT (Double K)
  | num x, num y => inferInstanceAs (Decidable (x < y))
  | num _, nan => .isFalse id
  | nan, num _ => .isFalse id
  | nan, nan => .isFalse id

instance [LE K] [DecidableLE K] : DecidableLE (Double K)
  | num x, num y => inferInstanceAs (Decidable (x ≤ y))
  | num _, nan => .isFalse id
  | nan, num _ => .isFalse id
  | nan, nan => .isFalse id

/-- `a == b`: equality of numbers; `nan` is equal to nothing. -/
def Equal : Double K → Double K → Prop
  | num x, num y => x = y
  | _, _ => False

instance [DecidableEq K] : DecidableRel (Equal (K := K))
  | num x, num y => inferInstanceAs (Decidable (x = y))
  | num _, nan => .isFalse id
  | nan, num _ => .isFalse id
  | nan, nan => .isFalse id

@[simp] theorem num_lt_num [LT K] {x y : K} : (num x < num y) ↔ x < y := Iff.rfl

@[simp] theorem num_le_num [LE K] {x y : K} : (num x ≤ num y) ↔ x ≤ y := Iff.rfl

/-- A reject-if-outside test lets the numbers inside pass, and `nan`. -/
theorem not_outside_iff [LinearOrder K] {v : Double K} {a b : K} :
    ¬ (v < num a ∨ num b ≤ v) ↔ v = nan ∨ num a ≤ v ∧ v < num b := by
  cases v with
  | nan =>
    have hlt : ¬ nan < num a := id
    have hle : ¬ num b ≤ nan := id
    simp [hlt, hle]
  | num x => simp

theorem Equal.eq {x y : Double K} (h : Equal x y) : x = y := by
  cases x with
  | nan => exact h.elim
  | num x =>
    cases y with
    | nan => exact h.elim
    | num y => exact congrArg num h

@[simp] theorem equal_num {x y : K} : Equal (num x) (num y) ↔ x = y := Iff.rfl

/-- `std::max`: the first argument, unless it is less than the second. -/
def max [LT K] [DecidableLT K] (a b : Double K) : Double K := if a < b then b else a

/-- `std::min`: the first argument, unless the second is less. -/
def min [LT K] [DecidableLT K] (a b : Double K) : Double K := if b < a then b else a

/-! ## Arithmetic -/

section Arithmetic

variable [Field K]

instance : Add (Double K) := ⟨lift₂ (· + ·)⟩
instance : Sub (Double K) := ⟨lift₂ (· - ·)⟩
instance : Mul (Double K) := ⟨lift₂ (· * ·)⟩

/-- Division; there is no number to answer when the divisor is zero. -/
instance [DecidableEq K] : Div (Double K) where
  div
    | num x, num y => if y = 0 then nan else num (x / y)
    | _, _ => nan

/-- The integer `n` as a number. -/
def ofInt (n : ℤ) : Double K := num n

@[simp] theorem ofInt_add (a b : ℤ) : (ofInt a + ofInt b : Double K) = ofInt (a + b) :=
  congrArg num (Int.cast_add a b).symm

@[simp] theorem ofInt_sub (a b : ℤ) : (ofInt a - ofInt b : Double K) = ofInt (a - b) :=
  congrArg num (Int.cast_sub a b).symm

@[simp] theorem ofInt_mul (a b : ℤ) : (ofInt a * ofInt b : Double K) = ofInt (a * b) :=
  congrArg num (Int.cast_mul a b).symm

variable [LinearOrder K]

/-- `std::sqrt`; a negative number has no root. -/
def sqrt [SquareRoot K] : Double K → Double K
  | num x => if x < 0 then nan else num (SquareRoot.sqrt x)
  | nan => nan

variable [FloorRing K]

/-- `std::floor`. -/
def floor : Double K → Double K
  | num x => ofInt ⌊x⌋
  | nan => nan

/-- `std::ceil`. -/
def ceil : Double K → Double K
  | num x => ofInt ⌈x⌉
  | nan => nan

/-- Conversion to an integer type, which drops the fraction.  Converting `nan`
has no defined result; `0` stands in for it. -/
def toInt : Double K → ℤ
  | num x => if x < 0 then ⌈x⌉ else ⌊x⌋
  | nan => 0

/-- The nearest integer, and the even one of two that are equally near. -/
def roundHalfEven (x : K) : ℤ :=
  let rest := x - ⌊x⌋
  if rest < 1 / 2 ∨ rest = 1 / 2 ∧ ⌊x⌋ % 2 = 0 then ⌊x⌋ else ⌊x⌋ + 1

/-- `std::to_string`: decimal notation with six digits after the point. -/
def toString : Double K → String
  | nan => "nan"
  | num x =>
    let n := roundHalfEven ((if x < 0 then -x else x) * 10 ^ 6)
    let digits := (n % 10 ^ 6).repr
    (if x < 0 then "-" else "") ++ (n / 10 ^ 6).repr ++ "." ++
      "".pushn '0' (6 - digits.length) ++ digits

/-! ## The integers are exact -/

@[simp] theorem equal_ofInt {a b : ℤ} : Equal (ofInt a : Double K) (ofInt b) ↔ a = b :=
  Int.cast_inj (α := K)

theorem ofInt_injective : Function.Injective (ofInt : ℤ → Double K) := fun _ _ h =>
  Int.cast_injective (α := K) (by simpa [ofInt] using h)

@[simp] theorem ofInt_inj {a b : ℤ} : (ofInt a : Double K) = ofInt b ↔ a = b :=
  ofInt_injective.eq_iff

variable [IsStrictOrderedRing K]

@[simp] theorem ofInt_lt {a b : ℤ} : (ofInt a : Double K) < ofInt b ↔ a < b :=
  Int.cast_lt (R := K)

@[simp] theorem ofInt_le {a b : ℤ} : (ofInt a : Double K) ≤ ofInt b ↔ a ≤ b :=
  Int.cast_le (R := K)

@[simp] theorem floor_ofInt (a : ℤ) : floor (ofInt a : Double K) = ofInt a := by
  simp [floor, ofInt]

@[simp] theorem ceil_ofInt (a : ℤ) : ceil (ofInt a : Double K) = ofInt a := by
  simp [ceil, ofInt]

@[simp] theorem toInt_ofInt (a : ℤ) : toInt (ofInt a : Double K) = a := by
  simp [toInt, ofInt]

/-- Dividing integers and taking the floor is integer division. -/
theorem floor_ofInt_div (a : ℤ) {b : ℤ} (hb : 0 < b) :
    floor (ofInt a / ofInt b : Double K) = ofInt (a / b) := by
  have hb0 : (b : K) ≠ 0 := by exact_mod_cast hb.ne'
  have hdiv : (ofInt a / ofInt b : Double K) = num ((a : K) / (b : K)) := by
    change (if (b : K) = 0 then nan else num ((a : K) / (b : K))) = _
    rw [if_neg hb0]
  have hfloor : ⌊(a : K) / (b : K)⌋ = a / b := by
    rw [Int.floor_eq_iff, le_div_iff₀ (by exact_mod_cast hb), div_lt_iff₀ (by exact_mod_cast hb)]
    constructor
    · exact_mod_cast Int.ediv_mul_le a hb.ne'
    · exact_mod_cast Int.lt_ediv_add_one_mul_self a hb
  rw [hdiv, floor, hfloor]

end Arithmetic

end Double

end Foundation
end Simulator
