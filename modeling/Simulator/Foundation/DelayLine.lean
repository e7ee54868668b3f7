import Mathlib.Data.List.Basic

/-!
# Delay lines of batches

A register of two slots, each of which holds a batch of values.  At every step a batch enters
the younger slot, the batch that was there moves to the older slot, and the batch of the older
slot leaves.  A program that must keep something for a fixed time after it has stopped using it,
because others still refer to it, keeps it in such a line.

## What is proved

A batch leaves two steps after the one in which it has entered (`Run.younger`, `Run.older`), and
never earlier: that is what the others rely on.  And nothing gets lost or is held twice: what has
left and what is still held are, in order, what was held at the start and what has entered
(`Run.conserved`).  The second is an equation between lists, so it speaks of order and of
multiplicity as well as of membership.

`Run` is a relation, not a function, because what enters at a step is decided elsewhere: it is
the state of a larger program, of which the line is a part, that says it.
-/

namespace Simulator
namespace Foundation

universe u

/-- Two batches, on their way out. -/
@[ext]
structure DelayLine (α : Type u) where
  older : List α
  younger : List α

namespace DelayLine

variable {α : Type u}

/-- A batch enters; the older batch leaves. -/
def shift (line : DelayLine α) (batch : List α) : DelayLine α := ⟨line.younger, batch⟩

/-- `N` steps of a delay line, and what enters in them. -/
def Run (N : ℕ) (line : ℕ → DelayLine α) (entering : ℕ → List α) : Prop :=
  ∀ n < N, line (n + 1) = (line n).shift (entering n)

section Run

variable {N : ℕ} {line : ℕ → DelayLine α} {entering : ℕ → List α}

theorem Run.younger (h : Run N line entering) {n : ℕ} (hn : n < N) :
    (line (n + 1)).younger = entering n := by rw [h n hn, shift]

/-- A step later it is held in the older slot, from which it leaves next. -/
theorem Run.older (h : Run N line entering) {n : ℕ} (hn : n + 1 < N) :
    (line (n + 2)).older = entering n := by
  rw [h (n + 1) hn, shift, h.younger (by omega)]

/-- **First in, first out.** -/
theorem Run.conserved (h : Run N line entering) :
    (List.range N).flatMap (fun n => (line n).older) ++ ((line N).older ++ (line N).younger) =
      (line 0).older ++ (line 0).younger ++ (List.range N).flatMap entering := by
  induction N with
  | zero => simp
  | succ N ih =>
    have hlast := h N (Nat.lt_succ_self N)
    have hrest := ih fun n hn => h n (Nat.lt_succ_of_lt hn)
    have holder : (line (N + 1)).older = (line N).younger := by rw [hlast, shift]
    have hyounger : (line (N + 1)).younger = entering N := by rw [hlast, shift]
    rw [List.range_succ, List.flatMap_append, List.flatMap_append, List.flatMap_singleton,
      List.flatMap_singleton, holder, hyounger,
      ← List.append_assoc ((line 0).older ++ (line 0).younger), ← hrest]
    simp only [List.append_assoc]

end Run

end DelayLine

end Foundation
end Simulator
