import Mathlib.Logic.Equiv.Defs
import Mathlib.Order.Basic
import Mathlib.Data.Int.Order.Basic

/-!
# Renaming what a counter has handed out

A counter hands out the numbers from `a` on.  Two users that draw from one counter, one after
the other, get other numbers when they change places: what each of them makes is the same but
for the names.  To say so one needs the renaming, as a function on all numbers that leaves
alone what was handed out before.

* `shiftFrom a k`: the user gets everything `k` later.
* `exchange a m n`: the permutation between the two orders, of a user of `m` numbers and one of
  `n` numbers.

Both leave the numbers below `a` alone, which is why things that were named before keep their
names.  `exchange` is a permutation, so that no two things get one name by being renamed, and
each of the two users sees it as a shift: the first gets its numbers `n` later
(`exchange_eq_shiftFrom`), the second gets them `m` earlier (`exchange_shiftFrom`).

A shift is easier to reason with than the permutation, since it moves the numbers by one amount.
So what a user does is first compared with what it does after a shift of the counter, and the two
comparisons are then put together along `exchange`.
-/

namespace Simulator
namespace Foundation

/-- Add `k` to the numbers from `a` on. -/
def shiftFrom (a k id : ℤ) : ℤ := if id < a then id else id + k

theorem shiftFrom_of_lt {a k id : ℤ} (h : id < a) : shiftFrom a k id = id := if_pos h

theorem shiftFrom_of_le {a k id : ℤ} (h : a ≤ id) : shiftFrom a k id = id + k :=
  if_neg (not_lt.mpr h)

/-- Nothing is moved below `a`. -/
theorem shiftFrom_eq_iff {a k : ℤ} (hk : 0 ≤ k) {id id' : ℤ} (h : id' < a) :
    shiftFrom a k id = id' ↔ id = id' := by
  unfold shiftFrom
  split <;> omega

/-- The `m` numbers from `a` on change places with the `n` numbers after them. -/
def exchange (a : ℤ) (m n : ℕ) : Equiv.Perm ℤ where
  toFun id := if id < a then id else if id < a + m then id + n else if id < a + m + n then id - m
    else id
  invFun id := if id < a then id else if id < a + n then id + m else if id < a + m + n then id - n
    else id
  left_inv id := by
    dsimp only
    split_ifs <;> omega
  right_inv id := by
    dsimp only
    split_ifs <;> omega

theorem exchange_apply (a : ℤ) (m n : ℕ) (id : ℤ) :
    exchange a m n id = if id < a then id else if id < a + m then id + n
      else if id < a + m + n then id - m else id := rfl

theorem exchange_of_lt {a : ℤ} {m n : ℕ} {id : ℤ} (h : id < a) : exchange a m n id = id := if_pos h

/-- The first user gets its numbers `n` later. -/
theorem exchange_eq_shiftFrom {a : ℤ} {m n : ℕ} {id : ℤ} (h : id < a + m) :
    exchange a m n id = shiftFrom a n id := by
  rw [exchange_apply, shiftFrom, if_pos h]

/-- The second user gets its numbers `m` earlier. -/
theorem exchange_shiftFrom {a : ℤ} {m n : ℕ} {id : ℤ} (h : id < a + n) :
    exchange a m n (shiftFrom a m id) = id := by
  rw [exchange_apply, shiftFrom]
  split_ifs <;> omega

end Foundation
end Simulator
