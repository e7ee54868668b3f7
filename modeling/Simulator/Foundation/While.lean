import Mathlib.Order.Basic
import Mathlib.Data.Nat.Notation

/-!
# Loops with a condition

`whileLoop cond body` is the loop `while (cond) body` of an imperative program, on a state
that the body changes.  A definition of it has to say why it ends, and a program does not say
that.  So it takes a measure along with the body: as long as the condition holds, the body
makes the measure smaller.  The recursion is on the measure, and it is the only place where
the measure is used; what the loop computes does not depend on the choice.

`whileLoop_rule` is the rule of Hoare for such loops, without the two triples: an invariant
that holds before the loop and that the body keeps, as long as the condition holds, is true
after the loop, and the condition is not.  It is proved by the induction that comes with the
definition, so no proof that uses it looks at the measure again.

The rule says nothing about the number of rounds.  A loop whose rounds are to be counted has
the count in its state, and the invariant relates it to what is left of the measure.
-/

namespace Simulator
namespace Foundation

universe u

variable {σ : Type u} {cond : σ → Prop} [DecidablePred cond] {body : σ → σ} {measure : σ → ℕ}

/-- Run the body for as long as the condition holds. -/
def whileLoop (cond : σ → Prop) [DecidablePred cond] (body : σ → σ) (measure : σ → ℕ)
    (hmeasure : ∀ s, cond s → measure (body s) < measure s) (s : σ) : σ :=
  if _h : cond s then whileLoop cond body measure hmeasure (body s) else s
termination_by measure s
decreasing_by exact hmeasure s ‹_›

/-- **The rule of the loop.** -/
theorem whileLoop_rule (hmeasure : ∀ s, cond s → measure (body s) < measure s) {I : σ → Prop}
    (hbody : ∀ s, I s → cond s → I (body s)) {s : σ} (hs : I s) :
    I (whileLoop cond body measure hmeasure s) ∧
      ¬ cond (whileLoop cond body measure hmeasure s) := by
  fun_induction whileLoop cond body measure hmeasure s with
  | case1 s h ih => exact ih (hbody s hs h)
  | case2 s h => exact ⟨hs, h⟩

end Foundation
end Simulator
