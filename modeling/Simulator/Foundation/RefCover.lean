import Mathlib.Data.List.Nodup
import Mathlib.Logic.Function.Basic
import Mathlib.Tactic.Ring

/-!
# Reference-counted covers

A list of objects, each of which covers a set of points, is often represented
without the objects: every point carries the number of objects that cover it and
a mark that says the number is positive.  `RefCover` is that representation.  An
object that appears *claims* its points, one that grows claims the points it did
not cover before, and one that disappears *releases* its points; releasing clears
the mark of a point whose counter reaches zero.

Two facts are proved about any sequence of these operations.

* `Consistent`: counters are not negative, and a point is marked exactly when its
  counter is positive.
* `excess`: how far the counter of a point is above the number of objects that
  really cover it.  Objects appearing and disappearing do not change it, and an
  object that is replaced by another changes it exactly at the points the old one
  covered and the new one does not.  So the counters are exact for ever when
  objects only grow, and never too small in any case.
-/

namespace Simulator
namespace Foundation

/-- Reference counters and marks on a set of points. -/
structure RefCover (κ : Type) where
  refs : κ → ℤ
  marked : κ → Bool

namespace RefCover

variable {κ α : Type} [DecidableEq κ]

omit [DecidableEq κ] in
@[ext] theorem ext {t u : RefCover κ} (hr : ∀ k, t.refs k = u.refs k)
    (hm : ∀ k, t.marked k = u.marked k) : t = u := by
  cases t
  cases u
  simp only [mk.injEq]
  exact ⟨funext hr, funext hm⟩

/-! ## The operations -/

/-- Claim one point. -/
def claimPoint (t : RefCover κ) (k : κ) : RefCover κ :=
  ⟨Function.update t.refs k (t.refs k + 1), Function.update t.marked k true⟩

/-- Release one point; the mark goes with the last reference. -/
def releasePoint (t : RefCover κ) (k : κ) : RefCover κ :=
  ⟨Function.update t.refs k (t.refs k - 1),
    Function.update t.marked k (if t.refs k - 1 = 0 then false else t.marked k)⟩

/-- Claim the points of a list, one after the other. -/
def claim (t : RefCover κ) (l : List κ) : RefCover κ := l.foldl claimPoint t

/-- Release the points of a list, one after the other. -/
def release (t : RefCover κ) (l : List κ) : RefCover κ := l.foldl releasePoint t

@[simp] theorem claim_nil (t : RefCover κ) : t.claim [] = t := rfl

@[simp] theorem release_nil (t : RefCover κ) : t.release [] = t := rfl

theorem claim_cons (t : RefCover κ) (k : κ) (l : List κ) :
    t.claim (k :: l) = (t.claimPoint k).claim l := rfl

theorem release_cons (t : RefCover κ) (k : κ) (l : List κ) :
    t.release (k :: l) = (t.releasePoint k).release l := rfl

theorem refs_claim (t : RefCover κ) {l : List κ} (hl : l.Nodup) (k : κ) :
    (t.claim l).refs k = t.refs k + if k ∈ l then 1 else 0 := by
  induction l generalizing t with
  | nil => simp
  | cons a l ih =>
    obtain ⟨ha, hl⟩ := List.nodup_cons.mp hl
    rw [claim_cons, ih _ hl]
    by_cases hk : k = a
    · subst hk
      simp [claimPoint, ha]
    · simp [claimPoint, hk]

theorem marked_claim (t : RefCover κ) (l : List κ) (k : κ) :
    (t.claim l).marked k = (t.marked k || decide (k ∈ l)) := by
  induction l generalizing t with
  | nil => simp
  | cons a l ih =>
    rw [claim_cons, ih]
    by_cases hk : k = a
    · subst hk
      simp [claimPoint]
    · simp [claimPoint, hk]

theorem refs_release (t : RefCover κ) {l : List κ} (hl : l.Nodup) (k : κ) :
    (t.release l).refs k = t.refs k - if k ∈ l then 1 else 0 := by
  induction l generalizing t with
  | nil => simp
  | cons a l ih =>
    obtain ⟨ha, hl⟩ := List.nodup_cons.mp hl
    rw [release_cons, ih _ hl]
    by_cases hk : k = a
    · subst hk
      simp [releasePoint, ha]
    · simp [releasePoint, hk]

/-- A released point is unmarked when the reference it lost was its last. -/
theorem marked_release (t : RefCover κ) {l : List κ} (hl : l.Nodup) (k : κ) :
    (t.release l).marked k = if k ∈ l ∧ t.refs k = 1 then false else t.marked k := by
  induction l generalizing t with
  | nil => simp
  | cons a l ih =>
    obtain ⟨ha, hl⟩ := List.nodup_cons.mp hl
    rw [release_cons, ih _ hl]
    by_cases hk : k = a
    · subst hk
      simp [releasePoint, ha, sub_eq_zero]
    · simp [releasePoint, hk]

/-! ## Marks -/

/-- Counters are not negative, and the marked points are those with a reference. -/
def Consistent (t : RefCover κ) : Prop :=
  ∀ k, 0 ≤ t.refs k ∧ (t.marked k = true ↔ 0 < t.refs k)

theorem Consistent.claim {t : RefCover κ} (ht : t.Consistent) {l : List κ} (hl : l.Nodup) :
    (t.claim l).Consistent := by
  intro k
  obtain ⟨h₀, hm⟩ := ht k
  rw [refs_claim t hl, marked_claim]
  by_cases hk : k ∈ l
  · simp only [hk, if_true, decide_true, Bool.or_true, true_iff]
    omega
  · simp only [hk, if_false, add_zero, decide_false, Bool.or_false]
    exact ⟨h₀, hm⟩

theorem Consistent.release {t : RefCover κ} (ht : t.Consistent) {l : List κ} (hl : l.Nodup)
    (hpos : ∀ k ∈ l, 0 < t.refs k) : (t.release l).Consistent := by
  intro k
  obtain ⟨h₀, hm⟩ := ht k
  rw [refs_release t hl, marked_release t hl]
  by_cases hk : k ∈ l
  · have := hpos k hk
    by_cases h1 : t.refs k = 1
    · simp [hk, h1]
    · simp only [hk, h1, and_false, if_false, if_true, hm]
      omega
  · simp only [hk, false_and, if_false, sub_zero]
    exact ⟨h₀, hm⟩

/-! ## How far the counters are above the truth -/

/-- The number of objects of a list that cover a point. -/
def count (covers : α → κ → Prop) [∀ x k, Decidable (covers x k)] (xs : List α) (k : κ) : ℤ :=
  xs.countP fun x => covers x k

/-- The counter of a point, less the number of objects that cover it. -/
def excess (covers : α → κ → Prop) [∀ x k, Decidable (covers x k)] (xs : List α)
    (t : RefCover κ) (k : κ) : ℤ :=
  t.refs k - count covers xs k

section Excess

variable (covers : α → κ → Prop) [∀ x k, Decidable (covers x k)] {l : List κ}

omit [DecidableEq κ] in
theorem count_pos_iff {xs : List α} {k : κ} : 0 < count covers xs k ↔ ∃ x ∈ xs, covers x k := by
  simp [count, List.countP_pos_iff]

/-- An object that appears and claims what it covers leaves the excess alone. -/
theorem excess_append {xs : List α} {x : α} (t : RefCover κ) (hl : l.Nodup)
    (hmem : ∀ k, k ∈ l ↔ covers x k) (k : κ) :
    excess covers (xs ++ [x]) (t.claim l) k = excess covers xs t k := by
  simp only [excess, count, refs_claim t hl, List.countP_append, List.countP_singleton, hmem,
    decide_eq_true_eq]
  by_cases hx : covers x k
  · simp only [hx, if_true]
    push_cast
    ring
  · simp [hx]

/-- An object that is replaced by one which claims what the old one did not cover
adds to the excess exactly what the old one covered and the new one does not. -/
theorem excess_set {xs : List α} {i : ℕ} (hi : i < xs.length) {x : α} (t : RefCover κ)
    (hl : l.Nodup) (hmem : ∀ k, k ∈ l ↔ covers x k ∧ ¬ covers xs[i] k) (k : κ) :
    excess covers (xs.set i x) (t.claim l) k =
      excess covers xs t k + if covers xs[i] k ∧ ¬ covers x k then 1 else 0 := by
  have hpos : covers xs[i] k → 0 < xs.countP fun x => covers x k := fun h =>
    List.countP_pos_iff.mpr ⟨xs[i], List.getElem_mem hi, by simpa using h⟩
  simp only [excess, count, refs_claim t hl, List.countP_set hi, hmem, decide_eq_true_eq]
  by_cases hold : covers xs[i] k
  · have := hpos hold
    by_cases hnew : covers x k
    · simp only [hold, hnew, not_true_eq_false, and_false, if_false, if_true]
      omega
    · simp only [hold, hnew, false_and, not_false_eq_true, and_true, if_false, if_true]
      omega
  · by_cases hnew : covers x k <;> simp [hold, hnew]

/-- An object that disappears and releases what it covers leaves the excess
alone. -/
theorem excess_erase {xs ys : List α} {x : α} (t : RefCover κ) (hl : l.Nodup)
    (hmem : ∀ k, k ∈ l ↔ covers x k) (k : κ) :
    excess covers (xs ++ ys) (t.release l) k = excess covers (xs ++ x :: ys) t k := by
  simp only [excess, count, refs_release t hl, List.countP_append, List.countP_cons, hmem,
    decide_eq_true_eq]
  by_cases hx : covers x k
  · simp only [hx, if_true]
    push_cast
    ring
  · simp [hx]

omit [DecidableEq κ] in
/-- With no excess below zero, a covered point has a reference. -/
theorem refs_pos_of_covers {xs : List α} {t : RefCover κ} {k : κ}
    (hex : 0 ≤ excess covers xs t k) {x : α} (hx : x ∈ xs) (hk : covers x k) : 0 < t.refs k := by
  have hcount : 0 < count covers xs k := (count_pos_iff covers).mpr ⟨x, hx, hk⟩
  rw [excess] at hex
  omega

end Excess

end RefCover

end Foundation
end Simulator
