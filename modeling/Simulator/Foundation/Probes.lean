import Simulator.Foundation.ControlFlow

/-!
# Probes at the ends of basic blocks

A program is instrumented by a probe before the terminator of every block of some of its
functions.  A probe changes a log that nothing else in the program reads or writes.  To count
what is executed, a compiler pass puts an addition to a counter there; the counter is the log.

## What the probes do not change

The instrumented program takes the steps of the original one, and a step more for each block
that it comes to the end of.  So it ends as the original does, or runs on as that does, and its
log is what the finished blocks make of it, in their order.  Between a probe and the terminator
after it the log is ahead by one block, and this is the only way in which the two programs are
ever out of step (`IsAhead`).

The proof is a simulation in both directions.  From the original program to the instrumented one
a step becomes one or two (`Steps.withLog`).  In the other direction a step of the instrumented
program is a step of the original one, or a probe (`steps_of_next_probed`), and after a probe it
is the terminator that comes next.  That the instrumented program ends exactly when the original
does (`probed_ends_iff`), and comes to rest exactly when it does (`probed_halts_iff`), follows
from the two together.

The blocks of other functions have no probe, and nothing is asked of them.
-/

namespace Simulator
namespace Foundation

open ControlFlow

variable {F I T M W K : Type}

/-- The instructions of an instrumented program. -/
inductive Probed (I W : Type) where
  | source (x : I)
  | probe (w : W)

namespace BasicBlock

/-- A block with a probe before its terminator. -/
def addProbe (weight : BasicBlock I T → W) (B : BasicBlock I T) : BasicBlock (Probed I W) T where
  body := B.body.map .source ++ [.probe (weight B)]
  terminator := B.terminator

/-- A block without a probe. -/
def unprobed (B : BasicBlock I T) : BasicBlock (Probed I W) T where
  body := B.body.map .source
  terminator := B.terminator

end BasicBlock

namespace ControlFlow

/-- The own functions with probes. -/
def Program.probed (own : F → Bool) (weight : BasicBlock I T → W) (P : Program F I T) :
    Program F (Probed I W) T := fun f =>
  (P f).map (if own f then BasicBlock.addProbe weight else BasicBlock.unprobed)

/-- The log goes with the memory. -/
def Effect.withLog (k : K) : Effect F M → Effect F (M × K)
  | .next m => .next (m, k)
  | .call f m => .call f (m, k)
  | .throws m => .throws (m, k)
  | .stops m => .stops (m, k)

def Exit.withLog (k : K) : Exit F M → Exit F (M × K)
  | .jump block m => .jump block (m, k)
  | .leaves m => .leaves (m, k)
  | .invoke f normal landing m => .invoke f normal landing (m, k)
  | .throws m => .throws (m, k)
  | .stops m => .stops (m, k)

def Config.withLog (k : K) : Config F M → Config F (M × K)
  | .running top rest m => .running top rest (m, k)
  | .ended ending m => .ended ending (m, k)

/-- The instructions work on the memory, the probes on the log. -/
def Semantics.probed (S : Semantics F I T M) (tick : K → W → K) :
    Semantics F (Probed I W) T (M × K) where
  effect
    | .source x, (m, k) => (S.effect x m).withLog k
    | .probe w, (m, k) => .next (m, tick k w)
  exit := fun t (m, k) => (S.exit t m).withLog k

variable {own : F → Bool} {weight : BasicBlock I T → W} {P : Program F I T}
  {S : Semantics F I T M} {tick : K → W → K} {c c' : Config F M} {t : Tally I T} {k : K}

/-! ## The log goes along -/

theorem leave_withLog (rest : List (Frame F)) (m : M) :
    leave rest (m, k) = (leave rest m).withLog k := by
  match rest with
  | [] => rfl
  | ⟨_, .before _ _⟩ :: _ => rfl
  | ⟨_, .invoking _ _⟩ :: _ => rfl

theorem unwind_withLog (rest : List (Frame F)) (m : M) :
    unwind rest (m, k) = (unwind rest m).withLog k := by
  induction rest with
  | nil => rfl
  | cons fr rest ih =>
    match fr with
    | ⟨_, .before _ _⟩ => exact ih
    | ⟨_, .invoking _ _⟩ => rfl

theorem afterEffect_withLog (f : F) (block index : ℕ) (rest : List (Frame F)) (e : Effect F M) :
    afterEffect f block index rest (e.withLog k) =
      (afterEffect f block index rest e).withLog k := by
  cases e with
  | throws m => exact unwind_withLog rest m
  | next | call | stops => rfl

theorem afterExit_withLog (f : F) (rest : List (Frame F)) (e : Exit F M) :
    afterExit f rest (e.withLog k) = (afterExit f rest e).withLog k := by
  cases e with
  | leaves m => exact leave_withLog rest m
  | throws m => exact unwind_withLog rest m
  | jump | invoke | stops => rfl

/-! ## One step -/

section Step

variable {f : F} {block index : ℕ} {rest : List (Frame F)} {m : M} {B : BasicBlock I T} {x : I}

theorem probed_block (hown : own f = true) (hB : (P f)[block]? = some B) :
    (P.probed own weight f)[block]? = some (B.addProbe weight) := by
  simp [Program.probed, hown, hB]

theorem unprobed_block (hown : own f = false) (hB : (P f)[block]? = some B) :
    (P.probed own weight f)[block]? = some B.unprobed := by
  simp [Program.probed, hown, hB]

theorem step_source (hB : (P f)[block]? = some B) (hx : B.body[index]? = some x) :
    step (P.probed own weight) (S.probed tick) (.running ⟨f, .before block index⟩ rest (m, k)) =
      some ((afterEffect f block index rest (S.effect x m)).withLog k) := by
  rw [← afterEffect_withLog]
  cases hown : own f with
  | true =>
    have hlt : index < (B.body.map (Probed.source (W := W))).length := by
      simpa using (List.getElem?_eq_some_iff.mp hx).1
    have hx' : (B.addProbe weight).body[index]? = some (.source x) := by
      simp only [BasicBlock.addProbe, List.getElem?_append_left hlt, List.getElem?_map, hx,
        Option.map_some]
    simp only [step, probed_block hown hB, hx']
    rfl
  | false =>
    have hx' : (B.unprobed (W := W)).body[index]? = some (.source x) := by
      simp [BasicBlock.unprobed, hx]
    simp only [step, unprobed_block hown hB, hx']
    rfl

theorem step_probe (hown : own f = true) (hB : (P f)[block]? = some B) :
    step (P.probed own weight) (S.probed tick)
        (.running ⟨f, .before block B.body.length⟩ rest (m, k)) =
      some (.running ⟨f, .before block (B.body.length + 1)⟩ rest (m, tick k (weight B))) := by
  have hx : (B.addProbe weight).body[B.body.length]? = some (.probe (weight B)) := by
    simp [BasicBlock.addProbe]
  simp only [step, probed_block hown hB, hx]
  rfl

theorem step_probed_terminator (hown : own f = true) (hB : (P f)[block]? = some B) :
    step (P.probed own weight) (S.probed tick)
        (.running ⟨f, .before block (B.body.length + 1)⟩ rest (m, k)) =
      some ((afterExit f rest (S.exit B.terminator m)).withLog k) := by
  have hlength : (B.addProbe weight).body.length = B.body.length + 1 := by
    simp [BasicBlock.addProbe]
  have hx : (B.addProbe weight).body[B.body.length + 1]? = none :=
    List.getElem?_eq_none (by omega)
  simp only [step, probed_block hown hB, hx, if_pos hlength.symm, ← afterExit_withLog]
  rfl

theorem step_unprobed_terminator (hown : own f = false) (hB : (P f)[block]? = some B) :
    step (P.probed own weight) (S.probed tick)
        (.running ⟨f, .before block B.body.length⟩ rest (m, k)) =
      some ((afterExit f rest (S.exit B.terminator m)).withLog k) := by
  have hlength : (B.unprobed (W := W)).body.length = B.body.length := by
    simp [BasicBlock.unprobed]
  have hx : (B.unprobed (W := W)).body[B.body.length]? = none :=
    List.getElem?_eq_none (by omega)
  simp only [step, unprobed_block hown hB, hx, if_pos hlength.symm, ← afterExit_withLog]
  rfl

end Step

/-! ## Runs -/

/-- What a list of finished blocks makes of a log. -/
def logged (weight : BasicBlock I T → W) (tick : K → W → K) (k : K)
    (finished : List (BasicBlock I T)) : K :=
  finished.foldl (fun k B => tick k (weight B)) k

@[simp] theorem logged_nil : logged weight tick k ([] : List (BasicBlock I T)) = k := rfl

theorem logged_append (finished finished' : List (BasicBlock I T)) :
    logged weight tick k (finished ++ finished') =
      logged weight tick (logged weight tick k finished) finished' := List.foldl_append

/-- A step of the original program is one or two steps of the instrumented one. -/
theorem Steps.withLog (h : Steps own P S c t c') :
    Relation.TransGen (Next (P.probed own weight) (S.probed tick)) (c.withLog k)
      (c'.withLog (logged weight tick k t.finished)) := by
  cases h with
  | instruction hB hx => exact .single (step_source hB hx)
  | @terminator f block rest m B hB =>
    cases hown : own f with
    | true =>
      refine .tail (.single ?_) (step_probed_terminator hown hB)
      exact step_probe hown hB
    | false => exact .single (step_unprobed_terminator hown hB)

/-- **A run of the original program** is one of the instrumented program. -/
theorem Runs.withLog (h : Runs own P S c t c') :
    Reaches (P.probed own weight) (S.probed tick) (c.withLog k)
      (c'.withLog (logged weight tick k t.finished)) := by
  induction h with
  | refl => exact .refl
  | tail _ hstep ih =>
    show Reaches _ _ _ (Config.withLog (logged weight tick k (_ ++ _)) _)
    rw [logged_append]
    exact ih.trans hstep.withLog.to_reflTransGen

/-- The instrumented program is between the probe of a block and the terminator. -/
structure IsAhead (own : F → Bool) (weight : BasicBlock I T → W) (P : Program F I T)
    (tick : K → W → K) (c : Config F M) (k : K) (f : F) (block : ℕ) (rest : List (Frame F))
    (m : M) (B : BasicBlock I T) (d : Config F (M × K)) : Prop where
  own_eq : own f = true
  block_eq : (P f)[block]? = some B
  source_eq : c = .running ⟨f, .before block B.body.length⟩ rest m
  eq : d = .running ⟨f, .before block (B.body.length + 1)⟩ rest (m, tick k (weight B))

/-- What a step of the instrumented program can be, when it is not ahead. -/
theorem steps_of_next_probed {d : Config F (M × K)} (hc : c.IsPlaced P)
    (h : Next (P.probed own weight) (S.probed tick) (c.withLog k) d) :
    (∃ t c', Steps own P S c t c' ∧ d = c'.withLog (logged weight tick k t.finished)) ∨
      ∃ f block rest m B, IsAhead own weight P tick c k f block rest m B d := by
  match c with
  | .ended _ _ => simp [Next, Config.withLog, step] at h
  | .running ⟨_, .invoking _ _⟩ _ _ => simp [Next, Config.withLog, step] at h
  | .running ⟨f, .before block index⟩ rest m =>
    cases hB : (P f)[block]? with
    | none => simp [Next, Config.withLog, step, Program.probed, hB] at h
    | some B =>
      cases hx : B.body[index]? with
      | some x =>
        rw [Next, Config.withLog, step_source hB hx, Option.some.injEq] at h
        exact .inl ⟨_, _, .instruction hB hx, h.symm⟩
      | none =>
        -- a frame that is placed is not behind its terminator
        have hplaced := hc _ (List.mem_cons_self ..) B hB
        obtain rfl : index = B.body.length :=
          Nat.le_antisymm hplaced (List.getElem?_eq_none_iff.mp hx)
        cases hown : own f with
        | true =>
          rw [Next, Config.withLog, step_probe hown hB, Option.some.injEq] at h
          exact .inr ⟨f, block, rest, m, B, hown, hB, rfl, h.symm⟩
        | false =>
          rw [Next, Config.withLog, step_unprobed_terminator hown hB, Option.some.injEq] at h
          exact .inl ⟨_, _, .terminator hB, by simpa [hown] using h.symm⟩

/-- **A run of the instrumented program** is one of the original program, or is ahead of
one by a probe. -/
theorem exists_runs_of_probed {d : Config F (M × K)} (hc : c.IsPlaced P)
    (h : Reaches (P.probed own weight) (S.probed tick) (c.withLog k) d) :
    ∃ t c', Runs own P S c t c' ∧ (d = c'.withLog (logged weight tick k t.finished) ∨
      ∃ f block rest m B, IsAhead own weight P tick c' (logged weight tick k t.finished)
        f block rest m B d) := by
  induction h with
  | refl => exact ⟨.zero, c, .refl, .inl rfl⟩
  | tail _ hstep ih =>
    obtain ⟨t, c', hrun, rfl | ⟨f, block, rest, m, B, hown, hB, rfl, rfl⟩⟩ := ih
    · obtain ⟨t', c'', hsteps, rfl⟩ | hahead := steps_of_next_probed (hrun.isPlaced hc) hstep
      · exact ⟨_, _, hrun.tail hsteps, .inl (by rw [Tally.add, logged_append])⟩
      · exact ⟨t, c', hrun, .inr hahead⟩
    · -- the terminator
      rw [Next, step_probed_terminator hown hB, Option.some.injEq] at hstep
      refine ⟨_, _, hrun.tail (.terminator hB), .inl ?_⟩
      rw [← hstep, Tally.add, logged_append, hown]
      rfl

/-- **How the instrumented program ends.** -/
theorem probed_ends_iff {ending : Ending} {m : M} {k' : K} (hc : c.IsPlaced P) :
    Reaches (P.probed own weight) (S.probed tick) (c.withLog k) (.ended ending (m, k')) ↔
      ∃ t, Runs own P S c t (.ended ending m) ∧ k' = logged weight tick k t.finished := by
  constructor
  · intro h
    obtain ⟨t, c', hrun, hc' | ⟨_, _, _, _, _, hahead⟩⟩ := exists_runs_of_probed hc h
    · match c' with
      | .running _ _ _ => simp [Config.withLog] at hc'
      | .ended _ _ =>
        simp only [Config.withLog, Config.ended.injEq, Prod.mk.injEq] at hc'
        obtain ⟨rfl, rfl, rfl⟩ := hc'
        exact ⟨t, hrun, rfl⟩
    · exact absurd hahead.eq (by simp)
  · rintro ⟨t, hrun, rfl⟩
    exact hrun.withLog

/-- **Where the instrumented program halts**, be it that it ended or that it is stuck. -/
theorem probed_halts_iff (hc : c.IsPlaced P) :
    (∃ d, Reaches (P.probed own weight) (S.probed tick) (c.withLog k) d ∧
        step (P.probed own weight) (S.probed tick) d = none) ↔
      ∃ c', Reaches P S c c' ∧ step P S c' = none := by
  constructor
  · rintro ⟨d, h, hhalt⟩
    obtain ⟨t, c', hrun, rfl | ⟨f, block, rest, m, B, hown, hB, rfl, rfl⟩⟩ :=
      exists_runs_of_probed hc h
    · refine ⟨c', hrun.reaches, Option.eq_none_iff_forall_ne_some.mpr ?_⟩
      intro c'' hstep
      obtain ⟨t', hsteps⟩ := exists_steps_of_next own hstep
      have hlong : Relation.TransGen (Next (P.probed own weight) (S.probed tick))
        (c'.withLog (logged weight tick k t.finished)) _ := hsteps.withLog
      obtain ⟨d', hnext, -⟩ := Relation.TransGen.head'_iff.mp hlong
      rw [Next, hhalt] at hnext
      simp at hnext
    · rw [step_probed_terminator hown hB] at hhalt
      simp at hhalt
  · rintro ⟨c', h, hhalt⟩
    obtain ⟨t, hrun⟩ := exists_runs_of_reaches own h
    refine ⟨_, hrun.withLog, Option.eq_none_iff_forall_ne_some.mpr ?_⟩
    intro d hstep
    obtain ⟨t', c'', hsteps, -⟩ | ⟨f, block, rest, m, B, hahead⟩ :=
      steps_of_next_probed (hrun.isPlaced hc) hstep
    · have hnext := hsteps.next
      rw [Next, hhalt] at hnext
      simp at hnext
    · have hnext : Next P S _ _ := next_terminator hahead.block_eq rest m
      rw [Next, ← hahead.source_eq, hhalt] at hnext
      simp at hnext

end ControlFlow
end Foundation
end Simulator
