import Mathlib.Data.List.Basic

/-!
# Counting in lists that change in place

A program that works on a table of things goes through it and rewrites its entries.  The list
that models the table keeps its length, and an entry keeps its place.  What such a loop does to
a count, say to the number of entries that are marked, can then be seen entry by entry, and the
order in which the entries are rewritten does not matter.

This is not how counts are usually reasoned about.  The lemmas on `List.countP` follow the list
from its head, which is the right thing for a list that is built or taken apart; for a list
that changes in place they would ask for an induction at every use.

* `countP_congr_of_getElem?`: two lists that agree entry by entry have the same count.
* `countP_add`: the count of a disjunction that excludes itself.
* `countP_set_of_gain`: an entry that starts to count.

The first is for a loop that changes much, but nothing that counts.  The last is for a single
change, and the second for a count that is made up of several.
-/

namespace Simulator
namespace Foundation

variable {α β : Type}

/-- Two lists of one length have the same count if entries at the same place either
both count or both do not. -/
theorem countP_congr_of_getElem? {l : List α} {l' : List β} (hlength : l.length = l'.length)
    {P : α → Bool} {Q : β → Bool}
    (h : ∀ (i : ℕ) a b, l[i]? = some a → l'[i]? = some b → P a = Q b) :
    l.countP P = l'.countP Q := by
  have hmap : l.map P = l'.map Q := by
    refine List.ext_getElem (by simpa using hlength) ?_
    intro i h₁ h₂
    simp only [List.getElem_map]
    exact h i _ _ (List.getElem?_eq_getElem _) (List.getElem?_eq_getElem _)
  calc l.countP P = (l.map P).countP id := by rw [List.countP_map]; rfl
    _ = (l'.map Q).countP id := by rw [hmap]
    _ = l'.countP Q := by rw [List.countP_map]; rfl

theorem countP_add {l : List α} {P Q R : α → Bool}
    (h : ∀ a ∈ l, P a = (Q a || R a) ∧ (Q a && R a) = false) :
    l.countP P = l.countP Q + l.countP R := by
  induction l with
  | nil => rfl
  | cons a l ih =>
    obtain ⟨hor, hand⟩ := h a (List.mem_cons_self ..)
    rw [List.countP_cons, List.countP_cons, List.countP_cons,
      ih fun b hb => h b (List.mem_cons_of_mem _ hb), hor]
    cases hQ : Q a <;> cases hR : R a <;> simp_all <;> omega

theorem countP_set_of_gain {l : List α} {i : ℕ} {a b : α} {P : α → Bool} (ha : l[i]? = some a)
    (hold : P a = false) (hnew : P b = true) : (l.set i b).countP P = l.countP P + 1 := by
  obtain ⟨hi, rfl⟩ := List.getElem?_eq_some_iff.mp ha
  simp [List.countP_set hi, hold, hnew]

end Foundation
end Simulator
