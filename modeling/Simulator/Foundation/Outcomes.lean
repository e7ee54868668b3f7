import Simulator.Foundation.Loops

/-!
# How a call may end

A call of a program that may throw has two ways out, and a specification that speaks only of
one of them says too little.  That it returns the right thing *if* it returns is true of a call
that always throws; that it throws the right exception if it throws is true of one that never
does.

`Ends P E x` is a postcondition for both ways: `x` returns something with `P`, or throws
something with `E`.  With `E` false everywhere it says that the call returns.  With an `E` that
names one exception it says that the call does its work or reports that very fault.

## Sequences

`Ends.bind` is the rule for one call after another.  What has been thrown by the first is
thrown by both, so `E` is the same for the two, while the condition on what is returned changes
from `P` to `Q` on the way.

The other two lemmas are for proofs that a call does *not* end in a certain way, which have to
take a sequence apart from its beginning: a first call that is known to have returned can be
left out (`Ends.bind_ok_iff`), and one that throws what `E` does not allow decides the whole
(`Ends.not_bind_error`).
-/

namespace Simulator
namespace Foundation

universe u

variable {ε α β : Type u}

/-- The call returns something with `P` or throws something with `E`. -/
def Ends (P : α → Prop) (E : ε → Prop) : Except ε α → Prop
  | .ok a => P a
  | .error e => E e

namespace Ends

variable {P : α → Prop} {Q : β → Prop} {E : ε → Prop} {x : Except ε α}

theorem bind (h : Ends P E x) {f : α → Except ε β} (hf : ∀ a, P a → Ends Q E (f a)) :
    Ends Q E (x >>= f) := by
  cases x with
  | error e => exact h
  | ok a => exact hf a h

/-- Nothing comes after a call that throws. -/
theorem not_bind_error {e : ε} (he : ¬ E e) (f : α → Except ε β) :
    ¬ Ends Q E ((.error e : Except ε α) >>= f) := he

/-- How a call ends is how it ends after one that has returned. -/
theorem bind_ok_iff {a : α} (hx : x = .ok a) (f : α → Except ε β) :
    Ends Q E (x >>= f) ↔ Ends Q E (f a) := by
  rw [hx, ok_bind]

end Ends

end Foundation
end Simulator
