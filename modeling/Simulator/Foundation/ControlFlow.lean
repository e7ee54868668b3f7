import Mathlib.Algebra.Order.BigOperators.Group.List
import Mathlib.Algebra.Ring.Nat
import Mathlib.Logic.Function.Iterate
import Mathlib.Logic.Relation

/-!
# Programs of basic blocks

A function is a list of basic blocks, the first of which is its entry, and a basic block is
a list of instructions with a terminator at its end.  What an instruction does to the
memory, and what a terminator decides, are parameters (`Semantics`).  What is fixed is
where control goes: from an instruction to the next one, into a function and back out of
it, from block to block, and, when an exception is thrown, down the stack to the first
frame that waits for one.

## What a run executes

Only the instructions of some functions are counted, those that are `own`: the others are
libraries.  A run has a `Tally` of the own instructions it executed, of the own blocks it
came to the end of, and of the instructions it *abandoned*, in blocks whose end it will
never come to, because an exception went through them.  What was executed is in a block
that was finished, or was abandoned, or is pending in a block that is still open:
`Runs.balance`.
-/

namespace Simulator
namespace Foundation

/-- A basic block. -/
structure BasicBlock (I T : Type) where
  body : List I
  terminator : T

namespace BasicBlock

variable {I T : Type}

/-- The number of its instructions; the terminator is one of them. -/
def size (B : BasicBlock I T) : ℕ := B.body.length + 1

end BasicBlock

namespace ControlFlow

variable {F I T M : Type}

/-- A program has a list of blocks for each function. -/
abbrev Program (F I T : Type) := F → List (BasicBlock I T)

/-- Where a function is. -/
inductive Point where
  | before (block index : ℕ)
  /-- The terminator has called a function; control goes to the one block when that
  returns, and to the other when it throws. -/
  | invoking (normal landing : ℕ)
  deriving DecidableEq, Repr

/-- A function that has been called. -/
structure Frame (F : Type) where
  function : F
  point : Point
  deriving DecidableEq, Repr

/-- What an instruction does. -/
inductive Effect (F M : Type) where
  | next (m : M)
  | call (f : F) (m : M)
  | throws (m : M)
  /-- The program ends. -/
  | stops (m : M)

/-- What a terminator decides. -/
inductive Exit (F M : Type) where
  | jump (block : ℕ) (m : M)
  | leaves (m : M)
  | invoke (f : F) (normal landing : ℕ) (m : M)
  | throws (m : M)
  | stops (m : M)

/-- What the instructions mean. -/
structure Semantics (F I T M : Type) where
  effect : I → M → Effect F M
  exit : T → M → Exit F M

/-- How a call ends. -/
inductive Ending where
  | returned
  | thrown
  | stopped
  deriving DecidableEq, Repr

/-- A program that runs has a stack of frames, the innermost apart. -/
inductive Config (F M : Type) where
  | running (top : Frame F) (rest : List (Frame F)) (m : M)
  | ended (ending : Ending) (m : M)
  deriving DecidableEq, Repr

/-- A function is called from outside the program. -/
def call (f : F) (m : M) : Config F M := .running ⟨f, .before 0 0⟩ [] m

/-- The innermost function returns. -/
def leave : List (Frame F) → M → Config F M
  | [], m => .ended .returned m
  | ⟨f, .invoking normal _⟩ :: rest, m => .running ⟨f, .before normal 0⟩ rest m
  | ⟨f, .before block index⟩ :: rest, m => .running ⟨f, .before block index⟩ rest m

/-- The innermost function throws: the frames above the first that waits are dropped. -/
def unwind : List (Frame F) → M → Config F M
  | [], m => .ended .thrown m
  | ⟨f, .invoking _ landing⟩ :: rest, m => .running ⟨f, .before landing 0⟩ rest m
  | ⟨_, .before _ _⟩ :: rest, m => unwind rest m

/-- Control after an instruction. -/
def afterEffect (f : F) (block index : ℕ) (rest : List (Frame F)) : Effect F M → Config F M
  | .next m => .running ⟨f, .before block (index + 1)⟩ rest m
  | .call g m => .running ⟨g, .before 0 0⟩ (⟨f, .before block (index + 1)⟩ :: rest) m
  | .throws m => unwind rest m
  | .stops m => .ended .stopped m

/-- Control after a terminator. -/
def afterExit (f : F) (rest : List (Frame F)) : Exit F M → Config F M
  | .jump block m => .running ⟨f, .before block 0⟩ rest m
  | .leaves m => leave rest m
  | .invoke g normal landing m =>
    .running ⟨g, .before 0 0⟩ (⟨f, .invoking normal landing⟩ :: rest) m
  | .throws m => unwind rest m
  | .stops m => .ended .stopped m

/-- One instruction. -/
def step (P : Program F I T) (S : Semantics F I T M) : Config F M → Option (Config F M)
  | .running ⟨f, .before block index⟩ rest m =>
    match (P f)[block]? with
    | none => none
    | some B =>
      match B.body[index]? with
      | some x => some (afterEffect f block index rest (S.effect x m))
      | none =>
        if index = B.body.length then some (afterExit f rest (S.exit B.terminator m)) else none
  | .running ⟨_, .invoking _ _⟩ _ _ => none
  | .ended _ _ => none

def Next (P : Program F I T) (S : Semantics F I T M) (c c' : Config F M) : Prop :=
  step P S c = some c'

/-- A number of instructions, one after the other. -/
def Reaches (P : Program F I T) (S : Semantics F I T M) : Config F M → Config F M → Prop :=
  Relation.ReflTransGen (Next P S)

/-- What a number of steps leads to. -/
theorem reaches_of_iterate {P : Program F I T} {S : Semantics F I T M} {c c' : Config F M} (n : ℕ)
    (h : (Option.bind · (step P S))^[n] (some c) = some c') : Reaches P S c c' := by
  induction n generalizing c' with
  | zero => exact Option.some.inj h ▸ .refl
  | succ n ih =>
    rw [Function.iterate_succ_apply'] at h
    obtain ⟨d, hd, hstep⟩ := Option.bind_eq_some_iff.mp h
    exact (ih hd).tail hstep

/-! ## What is counted -/

section Tally

variable {own : F → Bool}

/-- What was executed of the own functions. -/
structure Tally (I T : Type) where
  executed : ℕ
  abandoned : ℕ
  /-- The blocks whose terminator was executed, in this order. -/
  finished : List (BasicBlock I T)

namespace Tally

def zero : Tally I T := ⟨0, 0, []⟩

def add (t t' : Tally I T) : Tally I T :=
  ⟨t.executed + t'.executed, t.abandoned + t'.abandoned, t.finished ++ t'.finished⟩

end Tally

/-- A number that counts for own functions only. -/
def charge (own : F → Bool) (f : F) (n : ℕ) : ℕ := if own f then n else 0

/-- The instructions that a frame executed of a block that it is still in. -/
def Frame.pending (own : F → Bool) : Frame F → ℕ
  | ⟨f, .before _ index⟩ => charge own f index
  | ⟨_, .invoking _ _⟩ => 0

/-- Those of a stack. -/
def pending (own : F → Bool) (frames : List (Frame F)) : ℕ :=
  (frames.map (Frame.pending own)).sum

/-- Those of the frames that an exception drops. -/
def dropped (own : F → Bool) : List (Frame F) → ℕ
  | [] => 0
  | ⟨_, .invoking _ _⟩ :: _ => 0
  | ⟨f, .before _ index⟩ :: rest => charge own f index + dropped own rest

def Config.pending (own : F → Bool) : Config F M → ℕ
  | .running top rest _ => top.pending own + ControlFlow.pending own rest
  | .ended _ _ => 0

/-- What an instruction abandons; `n` is what the block had executed, with it. -/
def Effect.abandoned (own : F → Bool) (rest : List (Frame F)) (n : ℕ) : Effect F M → ℕ
  | .next _ | .call _ _ => 0
  | .throws _ => n + dropped own rest
  | .stops _ => n + ControlFlow.pending own rest

/-- What a terminator abandons, of the blocks of other frames. -/
def Exit.abandoned (own : F → Bool) (rest : List (Frame F)) : Exit F M → ℕ
  | .jump _ _ | .leaves _ | .invoke _ _ _ _ => 0
  | .throws _ => dropped own rest
  | .stops _ => ControlFlow.pending own rest

/-- **One instruction**, and what it adds to the tally. -/
inductive Steps (own : F → Bool) (P : Program F I T) (S : Semantics F I T M) :
    Config F M → Tally I T → Config F M → Prop
  | instruction {f : F} {block index : ℕ} {rest : List (Frame F)} {m : M} {B : BasicBlock I T}
    {x : I} (hB : (P f)[block]? = some B) (hx : B.body[index]? = some x) :
    Steps own P S (.running ⟨f, .before block index⟩ rest m)
      ⟨charge own f 1, (S.effect x m).abandoned own rest (charge own f (index + 1)), []⟩
      (afterEffect f block index rest (S.effect x m))
  | terminator {f : F} {block : ℕ} {rest : List (Frame F)} {m : M} {B : BasicBlock I T}
    (hB : (P f)[block]? = some B) :
    Steps own P S (.running ⟨f, .before block B.body.length⟩ rest m)
      ⟨charge own f 1, (S.exit B.terminator m).abandoned own rest, if own f then [B] else []⟩
      (afterExit f rest (S.exit B.terminator m))

/-- A run, with its tally. -/
inductive Runs (own : F → Bool) (P : Program F I T) (S : Semantics F I T M) (c : Config F M) :
    Tally I T → Config F M → Prop
  | refl : Runs own P S c .zero c
  | tail {t t' : Tally I T} {c' c'' : Config F M} (h : Runs own P S c t c')
    (hstep : Steps own P S c' t' c'') : Runs own P S c (t.add t') c''

variable {P : Program F I T} {S : Semantics F I T M} {c c' : Config F M} {t : Tally I T}

theorem next_terminator {f : F} {block : ℕ} {B : BasicBlock I T} (hB : (P f)[block]? = some B)
    (rest : List (Frame F)) (m : M) :
    Next P S (.running ⟨f, .before block B.body.length⟩ rest m)
      (afterExit f rest (S.exit B.terminator m)) := by
  simp [Next, step, hB]

theorem Steps.next (h : Steps own P S c t c') : Next P S c c' := by
  cases h with
  | instruction hB hx => simp only [Next, step, hB, hx]
  | terminator hB => exact next_terminator hB _ _

/-- A step is an instruction of the body or the terminator. -/
theorem exists_steps_of_next (own : F → Bool) (h : Next P S c c') :
    ∃ t, Steps own P S c t c' := by
  match c with
  | .running ⟨f, .before block index⟩ rest m =>
    cases hB : (P f)[block]? with
    | none => simp [Next, step, hB] at h
    | some B =>
      cases hx : B.body[index]? with
      | some x =>
        simp only [Next, step, hB, hx, Option.some.injEq] at h
        rw [← h]
        exact ⟨_, .instruction hB hx⟩
      | none =>
        simp only [Next, step, hB, hx, Option.ite_none_right_eq_some, Option.some.injEq] at h
        obtain ⟨rfl, rfl⟩ := h
        exact ⟨_, .terminator hB⟩
  | .running ⟨_, .invoking _ _⟩ _ _ => simp [Next, step] at h
  | .ended _ _ => simp [Next, step] at h

theorem Runs.reaches (h : Runs own P S c t c') : Reaches P S c c' := by
  induction h with
  | refl => exact .refl
  | tail _ hstep ih => exact ih.tail hstep.next

theorem exists_runs_of_reaches (own : F → Bool) (h : Reaches P S c c') :
    ∃ t, Runs own P S c t c' := by
  induction h with
  | refl => exact ⟨_, .refl⟩
  | tail _ hstep ih =>
    obtain ⟨t, ih⟩ := ih
    obtain ⟨t', hstep⟩ := exists_steps_of_next own hstep
    exact ⟨_, ih.tail hstep⟩

/-! ## Where a frame can be -/

/-- A frame is before an instruction of its block, or its terminator, if there is such a
block. -/
def Frame.IsPlaced (P : Program F I T) : Frame F → Prop
  | ⟨f, .before block index⟩ => ∀ B, (P f)[block]? = some B → index ≤ B.body.length
  | ⟨_, .invoking _ _⟩ => True

def Config.IsPlaced (P : Program F I T) : Config F M → Prop
  | .running top rest _ => ∀ fr ∈ top :: rest, fr.IsPlaced P
  | .ended _ _ => True

theorem isPlaced_entry (P : Program F I T) (f : F) (block : ℕ) :
    Frame.IsPlaced P ⟨f, .before block 0⟩ := fun _ _ => Nat.zero_le _

theorem isPlaced_call (P : Program F I T) (f : F) (m : M) : (call f m).IsPlaced P := by
  intro fr hfr
  rw [List.mem_singleton.mp hfr]
  exact isPlaced_entry P f 0

theorem isPlaced_leave {rest : List (Frame F)} (h : ∀ fr ∈ rest, fr.IsPlaced P) (m : M) :
    (leave rest m).IsPlaced P := by
  match rest with
  | [] => trivial
  | ⟨_, .before _ _⟩ :: _ => exact h
  | ⟨f, .invoking normal _⟩ :: rest =>
    exact List.forall_mem_cons.mpr ⟨isPlaced_entry P f normal, (List.forall_mem_cons.mp h).2⟩

theorem isPlaced_unwind {rest : List (Frame F)} (h : ∀ fr ∈ rest, fr.IsPlaced P) (m : M) :
    (unwind rest m).IsPlaced P := by
  induction rest with
  | nil => trivial
  | cons fr rest ih =>
    match fr with
    | ⟨_, .before _ _⟩ => exact ih (List.forall_mem_cons.mp h).2
    | ⟨f, .invoking _ landing⟩ =>
      exact List.forall_mem_cons.mpr ⟨isPlaced_entry P f landing, (List.forall_mem_cons.mp h).2⟩

theorem Steps.isPlaced (h : Steps own P S c t c') (hc : c.IsPlaced P) : c'.IsPlaced P := by
  cases h with
  | @instruction f block index rest m B x hB hx =>
    obtain ⟨-, hrest⟩ := List.forall_mem_cons.mp hc
    have hnext : Frame.IsPlaced P ⟨f, .before block (index + 1)⟩ := by
      intro B' hB'
      obtain rfl := Option.some.inj (hB.symm.trans hB')
      exact (List.getElem?_eq_some_iff.mp hx).1
    cases S.effect x m with
    | next m' => exact List.forall_mem_cons.mpr ⟨hnext, hrest⟩
    | call g m' =>
      exact List.forall_mem_cons.mpr
        ⟨isPlaced_entry P g 0, List.forall_mem_cons.mpr ⟨hnext, hrest⟩⟩
    | throws m' => exact isPlaced_unwind hrest m'
    | stops m' => trivial
  | @terminator f block rest m B hB =>
    obtain ⟨-, hrest⟩ := List.forall_mem_cons.mp hc
    cases S.exit B.terminator m with
    | jump block' m' => exact List.forall_mem_cons.mpr ⟨isPlaced_entry P f block', hrest⟩
    | leaves m' => exact isPlaced_leave hrest m'
    | invoke g normal landing m' =>
      exact List.forall_mem_cons.mpr
        ⟨isPlaced_entry P g 0, List.forall_mem_cons.mpr ⟨trivial, hrest⟩⟩
    | throws m' => exact isPlaced_unwind hrest m'
    | stops m' => trivial

theorem Runs.isPlaced (h : Runs own P S c t c') (hc : c.IsPlaced P) : c'.IsPlaced P := by
  induction h with
  | refl => exact hc
  | tail _ hstep ih => exact hstep.isPlaced ih

/-! ## The balance -/

@[simp] theorem pending_nil : pending own ([] : List (Frame F)) = 0 := rfl

@[simp] theorem pending_cons (fr : Frame F) (rest : List (Frame F)) :
    pending own (fr :: rest) = fr.pending own + pending own rest := by
  simp [pending]

theorem pending_leave (own : F → Bool) (rest : List (Frame F)) (m : M) :
    (leave rest m).pending own = pending own rest := by
  match rest with
  | [] => rfl
  | ⟨_, .before _ _⟩ :: _ => simp [leave, Config.pending]
  | ⟨_, .invoking _ _⟩ :: _ => simp [leave, Config.pending, Frame.pending, charge]

/-- An exception drops what the stack has more than is left of it. -/
theorem dropped_add_pending_unwind (own : F → Bool) (rest : List (Frame F)) (m : M) :
    dropped own rest + (unwind rest m).pending own = pending own rest := by
  induction rest with
  | nil => rfl
  | cons fr rest ih =>
    match fr with
    | ⟨_, .before _ _⟩ => simp [unwind, dropped, Frame.pending, ← ih, Nat.add_assoc]
    | ⟨_, .invoking _ _⟩ => simp [unwind, dropped, Config.pending, Frame.pending, charge]

theorem charge_add (own : F → Bool) (f : F) (m n : ℕ) :
    charge own f (m + n) = charge own f m + charge own f n := by
  unfold charge
  split <;> rfl

/-- The number of instructions in a list of blocks. -/
def total (blocks : List (BasicBlock I T)) : ℕ := (blocks.map BasicBlock.size).sum

@[simp] theorem total_append (blocks blocks' : List (BasicBlock I T)) :
    total (blocks ++ blocks') = total blocks + total blocks' := by
  simp [total]

/-- What an instruction executes is pending, or abandoned, or makes up a block. -/
theorem Steps.balance (h : Steps own P S c t c') :
    t.executed + c.pending own = total t.finished + t.abandoned + c'.pending own := by
  cases h with
  | @instruction f block index rest m B x hB hx =>
    have hcharge := charge_add own f index 1
    show _ + (charge own f index + pending own rest) = _
    cases heffect : S.effect x m with
    | next m' => simp [afterEffect, Effect.abandoned, Config.pending, Frame.pending, total]; omega
    | call g m' =>
      simp [afterEffect, Effect.abandoned, Config.pending, Frame.pending, total, charge] at *
      omega
    | throws m' =>
      have hdrop := dropped_add_pending_unwind own rest m'
      simp [afterEffect, Effect.abandoned, total]
      omega
    | stops m' => simp [afterEffect, Effect.abandoned, Config.pending, total]; omega
  | @terminator f block rest m B hB =>
    have hsize : total (if own f then [B] else []) =
        charge own f B.body.length + charge own f 1 := by
      unfold charge
      split <;> simp [total, BasicBlock.size]
    show _ + (charge own f B.body.length + pending own rest) =
      total (if own f then [B] else []) + _ + _
    cases hexit : S.exit B.terminator m with
    | jump block' m' =>
      simp [afterExit, Exit.abandoned, Config.pending, Frame.pending, charge] at *
      omega
    | leaves m' =>
      have hleave := pending_leave own rest m'
      simp [afterExit, Exit.abandoned]
      omega
    | invoke g normal landing m' =>
      simp [afterExit, Exit.abandoned, Config.pending, Frame.pending, charge] at *
      omega
    | throws m' =>
      have hdrop := dropped_add_pending_unwind own rest m'
      simp [afterExit, Exit.abandoned]
      omega
    | stops m' => simp [afterExit, Exit.abandoned, Config.pending]; omega

/-- **The balance of a run.** -/
theorem Runs.balance (h : Runs own P S c t c') :
    t.executed + c.pending own = total t.finished + t.abandoned + c'.pending own := by
  induction h with
  | refl => simp [Tally.zero, total]
  | @tail t t' c' c'' _ hstep ih =>
    have hlast := hstep.balance
    simp only [Tally.add, total_append]
    omega

end Tally

end ControlFlow
end Foundation
end Simulator
