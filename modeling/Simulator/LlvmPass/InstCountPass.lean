import Simulator.Foundation.Probes

/-!
# The instruction count pass

The pass that the players' code is compiled with.  Before the terminator of every basic
block of every function that it runs on, it inserts a call of `IncrementCount` with the
number of instructions of the block.  The functions that it does not run on are those of
the libraries, which are compiled without it.

The instructions of the language are a parameter: the pass looks at none of them.

## What has to be preserved

A pass that counts must do nothing else, and this is a statement about runs: the instrumented code
returns, throws or exits with a memory exactly when the original code does that with the same
memory, and it halts exactly when the original does.  A call of `IncrementCount` changes the count
only, which no instruction of the program looks at.  So the instrumented program is one with
probes, and the general theory of these says what there is to say; what is left to do here is to
see that `runOnFunction` puts the probes where they belong (`runOnFunction_eq`).

## What is counted

The count grows by the size of a block when control comes to the end of it.  A block that an
exception or an exit leaves before its end is not counted at all, although some of its
instructions were executed.  The argument of the call is a constant of 32 bits, so a block of `2 ^
32` instructions or more would be counted wrongly, and the count is a number of 64 bits, which
wraps around.  Calls inside a block do not end it; the instructions of the callee are counted in
the blocks of the callee, if the pass has run on it.
-/

namespace Simulator

open Foundation ControlFlow

variable {F I T M : Type}

/-- `PlayerDriver::IncrementCount`. -/
def PlayerDriver.incrementCount (instructionCount count : UInt64) : UInt64 :=
  instructionCount + count

namespace InstCountPass

/-- The argument of the call. -/
def getInt32 (count : ℕ) : UInt32 := UInt32.ofNat count

/-- The call of the increment function, before the terminator of the block. -/
def createCall (B : BasicBlock I T) : BasicBlock (Probed I UInt32) T :=
  B.addProbe fun B => getInt32 B.size

/-- `runOnFunction`, with whether the function was modified. -/
def runOnFunction (blocks : List (BasicBlock I T)) : List (BasicBlock (Probed I UInt32) T) × Bool :=
  blocks.foldl (fun done B => (done.1 ++ [createCall B], true)) ([], false)

/-- A program some functions of which the pass has run on. -/
def runOnProgram (own : F → Bool) (P : Program F I T) : Program F (Probed I UInt32) T := fun f =>
  if own f then (runOnFunction (P f)).1 else (P f).map BasicBlock.unprobed

/-- The call of the increment function.  The pass declares it with an argument of 32 bits,
which is extended to the 64 bits that the function takes. -/
def runCall (instructionCount : UInt64) (argument : UInt32) : UInt64 :=
  PlayerDriver.incrementCount instructionCount argument.toUInt64

/-- The instructions work on the memory, and the calls on the count. -/
def counting (S : Semantics F I T M) : Semantics F (Probed I UInt32) T (M × UInt64) :=
  S.probed runCall

/-- A function is called, with the count that there is. -/
def callWith (f : F) (m : M) (instructionCount : UInt64) : Config F (M × UInt64) :=
  call f (m, instructionCount)

/-! ## The pass -/

theorem foldl_createCall (blocks : List (BasicBlock I T))
    (done : List (BasicBlock (Probed I UInt32) T)) (flag : Bool) :
    blocks.foldl (fun done B => (done.1 ++ [createCall B], true)) (done, flag) =
      (done ++ blocks.map createCall, flag || !blocks.isEmpty) := by
  induction blocks generalizing done flag with
  | nil => simp
  | cons B blocks ih => simp [ih]

theorem runOnFunction_eq (blocks : List (BasicBlock I T)) :
    runOnFunction blocks = (blocks.map createCall, !blocks.isEmpty) := by
  simp [runOnFunction, foldl_createCall]

theorem runOnProgram_eq (own : F → Bool) (P : Program F I T) :
    runOnProgram own P = P.probed own fun B => getInt32 B.size := by
  funext f
  show (if own f then (runOnFunction (P f)).1 else _) = _
  rw [runOnFunction_eq]
  cases hown : own f with
  | true => simp [Program.probed, hown, createCall]
  | false => simp [Program.probed, hown]

/-! ## The count -/

variable {own : F → Bool} {P : Program F I T} {S : Semantics F I T M}

theorem toUInt64_getInt32 {n : ℕ} (h : n < 2 ^ 32) : (getInt32 n).toUInt64 = UInt64.ofNat n := by
  apply UInt64.toNat_inj.mp
  simp only [getInt32, UInt32.toNat_toUInt64, UInt32.toNat_ofNat', UInt64.toNat_ofNat']
  omega

/-- The calls add up to the instructions of the blocks. -/
theorem logged_eq {finished : List (BasicBlock I T)} (h : ∀ B ∈ finished, B.size < 2 ^ 32)
    (instructionCount : UInt64) :
    logged (fun B => getInt32 B.size) runCall instructionCount finished =
      instructionCount + UInt64.ofNat (total finished) := by
  induction finished generalizing instructionCount with
  | nil => simp [logged, total]
  | cons B finished ih =>
    obtain ⟨hB, hfinished⟩ := List.forall_mem_cons.mp h
    show logged _ _ (runCall _ _) finished = _
    rw [ih hfinished, runCall, PlayerDriver.incrementCount, toUInt64_getInt32 hB,
      UInt64.add_assoc, ← UInt64.ofNat_add]
    rfl

theorem mem_of_finished {c c' : Config F M} {t : Tally I T} (h : Runs own P S c t c')
    {B : BasicBlock I T} (hB : B ∈ t.finished) : ∃ f, own f = true ∧ B ∈ P f := by
  induction h with
  | refl => simp [Tally.zero] at hB
  | tail _ hstep ih =>
    rcases List.mem_append.mp hB with hB | hB
    · exact ih hB
    · cases hstep with
      | instruction => simp at hB
      | @terminator f _ _ _ B' hB' =>
        cases hown : own f with
        | false => simp [hown] at hB
        | true =>
          simp only [hown, if_true, List.mem_singleton] at hB
          exact ⟨f, hown, hB ▸ List.mem_of_getElem? hB'⟩

/-- What a call that has ended leaves in the count. -/
theorem total_finished {f : F} {m m' : M} {ending : Ending} {t : Tally I T}
    (h : Runs own P S (call f m) t (.ended ending m')) :
    total t.finished = t.executed - t.abandoned := by
  have hbalance := h.balance
  have hcall : (call f m : Config F M).pending own = 0 := by
    simp [call, Config.pending, Frame.pending, charge]
  have hended : (Config.ended ending m' : Config F M).pending own = 0 := rfl
  omega

/-- **The pass counts.**  The instrumented code ends, in a memory, exactly when the original
code does, and the count has then grown by the number of instructions that the own functions
executed, less those in blocks that an exception or an exit cut off. -/
theorem ends_iff (hsize : ∀ f, own f = true → ∀ B ∈ P f, B.size < 2 ^ 32) {f : F} {m m' : M}
    {ending : Ending} {instructionCount instructionCount' : UInt64} :
    Reaches (runOnProgram own P) (counting S) (callWith f m instructionCount)
        (.ended ending (m', instructionCount')) ↔
      ∃ t, Runs own P S (call f m) t (.ended ending m') ∧
        instructionCount' = instructionCount + UInt64.ofNat (t.executed - t.abandoned) := by
  have hlog : ∀ t, Runs own P S (call f m) t (.ended ending m') →
      logged (fun B => getInt32 B.size) runCall instructionCount t.finished =
        instructionCount + UInt64.ofNat (t.executed - t.abandoned) := by
    intro t hrun
    rw [← total_finished hrun]
    refine logged_eq ?_ _
    intro B hB
    obtain ⟨g, hown, hmem⟩ := mem_of_finished hrun hB
    exact hsize g hown B hmem
  rw [runOnProgram_eq]
  refine (probed_ends_iff (isPlaced_call P f m)).trans (exists_congr ?_)
  intro t
  exact and_congr_right fun hrun => by rw [hlog t hrun]

theorem halts_iff {f : F} {m : M} {instructionCount : UInt64} :
    (∃ d, Reaches (runOnProgram own P) (counting S) (callWith f m instructionCount) d ∧
        step (runOnProgram own P) (counting S) d = none) ↔
      ∃ c, Reaches P S (call f m) c ∧ step P S c = none := by
  rw [runOnProgram_eq]
  exact probed_halts_iff (isPlaced_call P f m)

/-- **The pass preserves the meaning of a program, and counts.**  For a call of a function,
the instrumented code halts exactly when the original code does; it returns, throws or exits
with a memory exactly when the original code does that with this memory; and the count has
then grown by the number of instructions that the own functions executed, less those in
blocks that an exception or an exit cut off. -/
theorem preserves_and_counts (hsize : ∀ f, own f = true → ∀ B ∈ P f, B.size < 2 ^ 32) (f : F)
    (m : M) (instructionCount : UInt64) :
    ((∃ d, Reaches (runOnProgram own P) (counting S) (callWith f m instructionCount) d ∧
        step (runOnProgram own P) (counting S) d = none) ↔
      ∃ c, Reaches P S (call f m) c ∧ step P S c = none) ∧
    (∀ ending m', (∃ instructionCount', Reaches (runOnProgram own P) (counting S)
        (callWith f m instructionCount) (.ended ending (m', instructionCount'))) ↔
      Reaches P S (call f m) (.ended ending m')) ∧
    ∀ ending m' instructionCount', Reaches (runOnProgram own P) (counting S)
        (callWith f m instructionCount) (.ended ending (m', instructionCount')) ↔
      ∃ t, Runs own P S (call f m) t (.ended ending m') ∧
        instructionCount' = instructionCount + UInt64.ofNat (t.executed - t.abandoned) := by
  refine ⟨halts_iff, fun ending m' => ⟨?_, ?_⟩, fun _ _ _ => ends_iff hsize⟩
  · rintro ⟨instructionCount', h⟩
    obtain ⟨t, hrun, -⟩ := (ends_iff hsize).mp h
    exact hrun.reaches
  · intro h
    obtain ⟨t, hrun⟩ := exists_runs_of_reaches own h
    exact ⟨_, (ends_iff hsize).mpr ⟨t, hrun, rfl⟩⟩

/-! ## A small program -/

/-- A function that calls the library until the memory is zero. -/
def sampleProgram : Program Bool Bool Bool
  | true => [⟨[true], true⟩]
  | false => [⟨[false], false⟩]

/-- The instructions are a call of the library and a decrement, the terminators the end of a
loop and a return. -/
def sampleSemantics : Semantics Bool Bool Bool ℕ where
  effect
    | true, m => .call false m
    | false, m => .next (m - 1)
  exit
    | true, m => if m = 0 then .leaves m else .jump 0 m
    | false, m => .leaves m

theorem size_lt_sample (f : Bool) : id f = true → ∀ B ∈ sampleProgram f, B.size < 2 ^ 32 := by
  rintro rfl B hB
  rw [List.mem_singleton.mp hB]
  decide

/-- Two rounds of the loop are four instructions, without those of the library. -/
theorem reaches_sample : Reaches (runOnProgram id sampleProgram) (counting sampleSemantics)
    (callWith true 2 0) (.ended .returned (0, 4)) :=
  reaches_of_iterate 10 (by decide)

theorem preserves_and_counts_sample :
    Reaches sampleProgram sampleSemantics (call true 2) (.ended .returned 0) ∧
      ∃ t, Runs id sampleProgram sampleSemantics (call true 2) t (.ended .returned 0) ∧
        4 = 0 + UInt64.ofNat (t.executed - t.abandoned) := by
  obtain ⟨-, hends, hcounts⟩ := preserves_and_counts (S := sampleSemantics) size_lt_sample true 2 0
  exact ⟨(hends _ _).mp ⟨4, reaches_sample⟩, (hcounts _ _ _).mp reaches_sample⟩

end InstCountPass

end Simulator
