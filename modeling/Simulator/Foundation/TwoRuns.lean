import Simulator.Foundation.Loops

/-!
# Two runs side by side

A program that must not look at some part of its input can be run twice, from inputs that
differ in that part and nowhere else.  If it keeps to what it is allowed to see, the two runs
do the same.  Such a statement is about pairs of runs, and no invariant of a single run says
it.

## What is related

`EndAlike R` relates the ends of two calls: both throw, and then the same exception, or both
return, and then `R` relates what they return.  One run that throws where the other returns is
excluded, since an exception is something an onlooker sees.

`R` is a relation between two types, not within one, because the two runs may be at work on
states of different types, or on states that agree only in part.  Where it is equality, ending
alike is doing the same (`EndAlike.eq`).

## How it is put together

A program is a sequence of calls and of loops, and ending alike goes through both.
`EndAlike.bind` is for one call after another: what follows has to end alike from related
values.  `EndAlike.foldlM` is for a loop over one list in both runs, whose rounds keep the two
states related.  With these a proof about two runs follows the text of the program, and only
the calls that touch the difference need an argument of their own.
-/

namespace Simulator
namespace Foundation

universe u

variable {ε α β α' β' σ τ ι : Type u}

/-- The two runs end alike: both throw the same, or both return, and what they return is
related. -/
inductive EndAlike (R : α → β → Prop) : Except ε α → Except ε β → Prop
  | error (e : ε) : EndAlike R (.error e) (.error e)
  | ok {a : α} {b : β} (h : R a b) : EndAlike R (.ok a) (.ok b)

namespace EndAlike

variable {R : α → β → Prop} {S : α' → β' → Prop}

theorem refl {R : α → α → Prop} (h : ∀ a, R a a) (x : Except ε α) : EndAlike R x x := by
  cases x with
  | error e => exact .error e
  | ok a => exact .ok (h a)

theorem imp {x : Except ε α} {y : Except ε β} (h : EndAlike R x y) {R' : α → β → Prop}
    (hR : ∀ a b, R a b → R' a b) : EndAlike R' x y := by
  cases h with
  | error e => exact .error e
  | ok h => exact .ok (hR _ _ h)

theorem eq {x y : Except ε α} (h : EndAlike Eq x y) : x = y := by
  cases h with
  | error e => rfl
  | ok h => rw [h]

theorem bind {x : Except ε α} {y : Except ε β} (h : EndAlike R x y) {f : α → Except ε α'}
    {g : β → Except ε β'} (hfg : ∀ a b, R a b → EndAlike S (f a) (g b)) :
    EndAlike S (x >>= f) (y >>= g) := by
  cases h with
  | error e => exact .error e
  | ok h => exact hfg _ _ h

/-- **A loop** whose rounds keep the runs alike. -/
theorem foldlM {R : σ → τ → Prop} {f : σ → ι → Except ε σ} {g : τ → ι → Except ε τ} {l : List ι}
    (hround : ∀ s t, R s t → ∀ i ∈ l, EndAlike R (f s i) (g t i)) {s : σ} {t : τ} (h : R s t) :
    EndAlike R (l.foldlM f s) (l.foldlM g t) := by
  induction l generalizing s t with
  | nil => exact .ok h
  | cons i l ih =>
    rw [List.foldlM_cons, List.foldlM_cons]
    exact (hround s t h i (List.mem_cons_self ..)).bind fun s' t' h' =>
      ih (fun s t h i hi => hround s t h i (List.mem_cons_of_mem _ hi)) h'

end EndAlike

end Foundation
end Simulator
