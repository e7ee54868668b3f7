import Mathlib.Algebra.Order.BigOperators.Group.List
import Mathlib.Algebra.Ring.Int.Defs
import Mathlib.Data.Int.Order.Basic

/-!
# Spending from a purse

A buyer goes through a list of prices with a purse, and buys what it can pay for at
that moment.  `Affords purse prices` says that this went well: every price that is
not zero was covered by what was left.  Free items are not checked, so nothing
follows about the purse when all items are free.

The list is what a buyer has asked for in one go, in its order, and the purse is what it had at
the beginning.  A check that is made of each item as it is asked for, with what the items before
it have left, is a check of the whole list; that is how requests which are granted now can be
paid for later, all together.

* `affords_of_free`: any purse affords a list of free items.
* `affords_append`: a purse affords two lists one after the other exactly when it affords the
  first, and what the first leaves affords the second.
* `Affords.sum_le`: a purse that affords a list that is not free throughout covers the sum of it.

The exception in the last is a real one.  A purse may be in debt and still affords a list of
free items, while the sum of that, which is zero, is more than there is.
-/

namespace Simulator
namespace Foundation

/-- Every price is zero or covered by what its predecessors leave of the purse. -/
def Affords : ℤ → List ℤ → Prop
  | _, [] => True
  | purse, price :: prices => (price = 0 ∨ price ≤ purse) ∧ Affords (purse - price) prices

theorem affords_append {purse : ℤ} {prices prices' : List ℤ} :
    Affords purse (prices ++ prices') ↔
      Affords purse prices ∧ Affords (purse - prices.sum) prices' := by
  induction prices generalizing purse with
  | nil => simp [Affords]
  | cons price prices ih =>
    rw [List.cons_append, Affords, Affords, ih, List.sum_cons, and_assoc,
      sub_add_eq_sub_sub]

theorem affords_of_free {purse : ℤ} {prices : List ℤ} (h : ∀ price ∈ prices, price = 0) :
    Affords purse prices := by
  induction prices generalizing purse with
  | nil => trivial
  | cons price prices ih =>
    exact ⟨.inl (h price (List.mem_cons_self ..)), ih fun x hx => h x (List.mem_cons_of_mem _ hx)⟩

/-- **A purse covers what it affords**, unless everything is free. -/
theorem Affords.sum_le {purse : ℤ} {prices : List ℤ} (h : Affords purse prices)
    (hne : ∃ price ∈ prices, price ≠ 0) : prices.sum ≤ purse := by
  induction prices generalizing purse with
  | nil => simp at hne
  | cons price prices ih =>
    obtain ⟨hprice, hrest⟩ := h
    rw [List.sum_cons]
    by_cases hfree : ∃ price' ∈ prices, price' ≠ 0
    · have := ih hrest hfree
      omega
    · -- the last item that is not free
      have hsum : prices.sum = 0 := List.sum_eq_zero fun x hx => by
        by_contra hx0
        exact hfree ⟨x, hx, hx0⟩
      obtain ⟨x, hx, hx0⟩ := hne
      rcases List.mem_cons.mp hx with rfl | hx
      · have := hprice.resolve_left hx0
        omega
      · exact absurd ⟨x, hx, hx0⟩ hfree

end Foundation
end Simulator
