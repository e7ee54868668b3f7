import Mathlib.Logic.Function.Basic
import Mathlib.Data.List.Nodup

/-!
# Rearranging in place

A table is turned over in place by visiting one point of every pair `k`, `σ k` of an
involution, and exchanging the two entries, each of which is rewritten on the way.  Turning a
grid by half a turn is such a program, and so is reversing an array; which of them it is depends
on `σ` only.

Two things can go wrong with a loop of this kind.  A point that is visited twice, or whose
partner is visited too, is exchanged twice and ends up where it was.  A point that is its own
partner is exchanged with itself, and then only one of the two writes is seen, so that its
entry is rewritten once like the others, but in place.

`foldl_swapPair` says what the loop does when the first of these does not happen: when the
visited points are different and none is the partner of another, every entry of a visited pair
ends up rewritten at the place of its partner, and no other entry is touched.  The points that
are their own partners are left out by the hypothesis, as none of them may be visited.
-/

namespace Simulator
namespace Foundation

variable {κ α : Type} [DecidableEq κ]

/-- Exchange the entries at `k` and `σ k`, and rewrite both with `f`. -/
def swapPair (σ : κ → κ) (f : α → α) (g : κ → α) (k : κ) : κ → α :=
  Function.update (Function.update g k (f (g (σ k)))) (σ k) (f (g k))

theorem swapPair_of_ne (σ : κ → κ) (f : α → α) (g : κ → α) {k i : κ} (hk : i ≠ k)
    (hσ : i ≠ σ k) : swapPair σ f g k i = g i := by
  rw [swapPair, Function.update_of_ne hσ, Function.update_of_ne hk]

/-- Either end of the pair receives the entry of the other. -/
theorem swapPair_of_eq {σ : κ → κ} (hσ : Function.Involutive σ) (f : α → α) (g : κ → α) {k i : κ}
    (hk : σ k ≠ k) (hi : i = k ∨ i = σ k) : swapPair σ f g k i = f (g (σ i)) := by
  rcases hi with rfl | rfl
  · rw [swapPair, Function.update_of_ne hk.symm, Function.update_self]
  · rw [swapPair, Function.update_self, hσ k]

/-- **What visiting the points of a list does.** -/
theorem foldl_swapPair {σ : κ → κ} (hσ : Function.Involutive σ) (f : α → α) {l : List κ}
    (hl : l.Nodup) (hpartner : ∀ k ∈ l, σ k ∉ l) (g : κ → α) (i : κ) :
    l.foldl (swapPair σ f) g i = if i ∈ l ∨ σ i ∈ l then f (g (σ i)) else g i := by
  induction l generalizing g with
  | nil => simp
  | cons a l ih =>
    obtain ⟨ha, hl⟩ := List.nodup_cons.mp hl
    have hσa : σ a ≠ a ∧ σ a ∉ l := by
      simpa using hpartner a (List.mem_cons_self ..)
    have hrest : ∀ k ∈ l, σ k ∉ l := fun k hk hmem =>
      hpartner k (List.mem_cons_of_mem _ hk) (List.mem_cons_of_mem _ hmem)
    rw [List.foldl_cons, ih hl hrest]
    by_cases hpair : i = a ∨ i = σ a
    · -- the pair of `a` is not visited again
      have hmem : ¬ (i ∈ l ∨ σ i ∈ l) := by
        rcases hpair with rfl | rfl
        · exact not_or.mpr ⟨ha, hσa.2⟩
        · rw [hσ a]
          exact not_or.mpr ⟨hσa.2, ha⟩
      have hmem' : i ∈ a :: l ∨ σ i ∈ a :: l := by
        rcases hpair with rfl | rfl
        · exact .inl (List.mem_cons_self ..)
        · rw [hσ a]
          exact .inr (List.mem_cons_self ..)
      rw [if_neg hmem, if_pos hmem', swapPair_of_eq hσ f g hσa.1 hpair]
    · -- another pair is visited as if `a` were not there
      obtain ⟨hia, hiσ⟩ := not_or.mp hpair
      have hσi : σ i ≠ a := fun h => hiσ (by rw [← h, hσ i])
      have hσσ : σ i ≠ σ a := fun h => hia (hσ.injective h)
      simp only [List.mem_cons, hia, hσi, false_or]
      rw [swapPair_of_ne σ f g hσi hσσ, swapPair_of_ne σ f g hia hiσ]

end Foundation
end Simulator
