import Simulator.Drivers.Handshake
import Simulator.LlvmPass.InstCountPass
import Simulator.State.MoneyManager

/-!
# What the instruction limits measure

The code of a player is compiled with the instruction count pass.  Its driver resets the
count before it calls the code, and writes what the count has become to the buffer; the
main driver reads that, and skips the turn of a player whose count exceeds the limit.

So there are two passages to make: from the instructions that the original code executes
to the count of the instrumented code, and from what the player driver writes to what the
main driver compares.  `Judged` is what the main driver has made of the counters of a player
that had its round.

## Two kinds of numbers

The count is an unsigned number of 64 bits, which wraps around, and the counter in the buffer is a
signed one; the limits are compared with the latter.  So what is written is the number of
instructions of a run modulo `2 ^ 64`, read as a signed number, and a run of `2 ^ 63` instructions
is written as a negative number, which exceeds no limit.  `skip_iff_executes` says what is
written, without any bound on the run, and says of the number that is written who is skipped.

The number is not that of all instructions.  Code of the libraries is not counted, and neither is
a block that an exception leaves before its end; `Executes` names the tally of a run, and its
difference is what counts.
-/

namespace Simulator

open Foundation ControlFlow Function

variable {ι PS G F I T M : Type}

/-- The code of a player: a program, the functions of it that the pass runs on, and the
function that is called in a turn. -/
structure PlayerCode (F I T M : Type) where
  program : Program F I T
  semantics : Semantics F I T M
  own : F → Bool
  update : F
  /-- The sizes of the blocks fit into the argument of the call. -/
  size_lt : ∀ f, own f = true → ∀ B ∈ program f, B.size < 2 ^ 32

namespace PlayerCode

variable (code : PlayerCode F I T M)

/-- In some turn, the instrumented code returns with the count, which was reset before. -/
def ReturnsWith (instructionCount : UInt64) : Prop :=
  ∃ m m', Reaches (InstCountPass.runOnProgram code.own code.program)
    (InstCountPass.counting code.semantics) (InstCountPass.callWith code.update m 0)
    (.ended .returned (m', instructionCount))

/-- What `WriteCountToShm` makes of the count: the buffer has a signed one. -/
def written (instructionCount : UInt64) : ℤ := instructionCount.toInt64.toInt

/-- In some turn, the original code returns with the tally. -/
def Executes (t : Tally I T) : Prop :=
  ∃ m m', Runs code.own code.program code.semantics (call code.update m) t (.ended .returned m')

variable {code}

/-- What is written is the number of instructions that were executed, less those that an
exception cut off, as a signed number of 64 bits. -/
theorem exists_executes {instructionCount : UInt64} (h : code.ReturnsWith instructionCount) :
    ∃ t, code.Executes t ∧
      written instructionCount = int64 ((t.executed - t.abandoned : ℕ) : ℤ) := by
  obtain ⟨m, m', hreaches⟩ := h
  obtain ⟨t, hrun, rfl⟩ := (InstCountPass.ends_iff code.size_lt).mp hreaches
  refine ⟨t, ⟨m, m', hrun⟩, ?_⟩
  rw [written, UInt64.zero_add, UInt64.toInt64_ofNat']
  exact Int64.toInt_ofNat'

end PlayerCode

/-! ## What the main driver makes of the counters -/

namespace Drivers

variable {cfg : Config ι PS G} {m m' : MainDriver ι G} {buffers buffers' : ι → SharedBuffer PS}
  {p q : ι}

/-- What was read of the counter is within the limit of the game. -/
def WithinGame (cfg : Config ι PS G) (m : MainDriver ι G) (p : ι) : Prop :=
  m.instructionCountExceeded = true ∨ ∃ n ∈ m.reads p, n ≤ cfg.playerInstructionLimitGame

/-- And the player is skipped if it exceeds that of the turn. -/
def Judged (cfg : Config ι PS G) (m : MainDriver ι G) (p : ι) : Prop :=
  m.instructionCountExceeded = true ∨
    (∃ n ∈ m.reads p, n ≤ cfg.playerInstructionLimitGame) ∧
      ∃ n ∈ m.reads p, m.skipPlayerTurn p = decide (n > cfg.playerInstructionLimitTurn)

/-- The players that had their round in this turn are judged. -/
def JudgedInSync (cfg : Config ι PS G) (m : MainDriver ι G) : Prop :=
  match m.pc with
  | .playerHead rest | .logInstructionCount _ rest => ∀ q ∈ cfg.players, q ∉ rest → Judged cfg m q
  | .waitRunning p rest | .waitTimedOut p rest | .waitCancel p rest | .checkCancel p rest
  | .checkLimitGame p rest => ∀ q ∈ cfg.players, q ∉ p :: rest → Judged cfg m q
  | .checkLimitTurn p rest =>
    WithinGame cfg m p ∧ ∀ q ∈ cfg.players, q ∉ p :: rest → Judged cfg m q
  | .checkEnd => ∀ q ∈ cfg.players, Judged cfg m q
  | .executePlayerCommands | .updateMainState | .updatePlayerStates =>
    m.instructionCountExceeded = false ∧ ∀ q ∈ cfg.players, Judged cfg m q
  | _ => True

variable [DecidableEq ι]

theorem Judged.read (h : Judged cfg m q) (b : SharedBuffer PS) : Judged cfg (m.read p b) q := by
  have hmono : ∀ n ∈ m.reads q, n ∈ (m.read p b).reads q := by
    intro n hn
    by_cases hq : q = p
    · subst hq
      simp [MainDriver.read, hn]
    · simpa [MainDriver.read, hq] using hn
  obtain hexceeded | ⟨⟨n, hn, hle⟩, k, hk, hskip⟩ := h
  · exact .inl hexceeded
  · exact .inr ⟨⟨n, hmono n hn, hle⟩, k, hmono k hk, hskip⟩

omit [DecidableEq ι] in
theorem Judged.congr (h : Judged cfg m q)
    (hexceeded : m.instructionCountExceeded = true → m'.instructionCountExceeded = true)
    (hreads : m'.reads q = m.reads q) (hskip : m'.skipPlayerTurn q = m.skipPlayerTurn q) :
    Judged cfg m' q := by
  unfold Judged
  rw [hreads, hskip]
  exact h.imp_left hexceeded

/-- **A step of the main driver** judges by the counters that it reads. -/
theorem JudgedInSync.step (h : JudgedInSync cfg m)
    (hstep : MainDriver.step cfg m buffers = some (m', buffers')) : JudgedInSync cfg m' := by
  unfold JudgedInSync at h
  cases MainDriver.steps_of_step hstep with
  | initEnd | initRunning | initCounter | initPlayerStates | startTimer | turnsEnd | cancelled
  | aborted | updatePlayerStates | getScores | logFinalGameParams | writeGame | stopsToClear
  | stops | clearCancel => trivial
  | turnBegins hpc => exact fun q hq hne => absurd hq hne
  | playersEnd hpc =>
    simp only [hpc] at h
    exact fun q hq => h q hq (by simp)
  | @setRunning p rest hpc =>
    simp only [hpc] at h
    intro q hq hne
    have hqp : q ≠ p := fun heq => hne (heq ▸ List.mem_cons_self ..)
    exact (h q hq hne).congr id (update_of_ne hqp _ _) rfl
  | running hpc | notRunning hpc | timedOut hpc | notTimedOut hpc | cancelSeen hpc | waitOn hpc
  | notCancelled hpc =>
    simp only [hpc] at h
    exact h
  | @exceedsGame p rest hpc hcount => exact fun q hq hne => .inl rfl
  | @withinGame p rest hpc hcount =>
    simp only [hpc] at h
    refine ⟨.inr ⟨_, ?_, not_lt.mp hcount⟩, fun q hq hne => (h q hq hne).read (buffers p)⟩
    simp [MainDriver.read]
  | @checkLimitTurn p rest hpc =>
    simp only [hpc] at h
    intro q hq hne
    by_cases hqp : q = p
    · subst hqp
      refine h.1.imp id ?_
      rintro ⟨n, hn, hle⟩
      refine ⟨⟨n, ?_, hle⟩, (buffers q).instructionCounter, ?_, ?_⟩
      · simp [MainDriver.read, hn]
      · simp [MainDriver.read]
      · simp
    · have hread := (h.2 q hq (by simp [hqp, hne])).read (p := p) (buffers p)
      exact hread.congr id rfl (update_of_ne hqp _ _)
  | @logInstructionCount p rest hpc =>
    simp only [hpc] at h
    exact fun q hq hne => (h q hq hne).read (buffers p)
  | notAborted hpc hexceeded =>
    simp only [hpc] at h
    exact ⟨hexceeded, h⟩
  | executePlayerCommands hpc | updateMainState hpc =>
    simp only [hpc] at h
    exact h

theorem judgedInSync_of_reachable {s : System ι PS G} (h : (system cfg).Reachable s) :
    JudgedInSync cfg s.main := by
  refine TransitionSystem.Inductive.reachable (I := fun s => JudgedInSync cfg s.main)
    ⟨?_, ?_⟩ h
  · intro s hs
    rw [hs.main_eq]
    trivial
  · intro s e s' hs hstep
    obtain ⟨-, m', buffers', hrun, rfl⟩ | ⟨-, _, _, -, hmain⟩ := System.step_cases hstep
    · exact hs.step hrun
    · rw [hmain]
      exact hs

/-! ## What the players write -/

/-- The counts are what the instrumented code of a player returns with. -/
def Event.IsInstrumented (code : ι → PlayerCode F I T M) (_ : System ι PS G) :
    Event ι PS → Prop
  | .codeReturns p instructionCount => ∃ count, (code p).ReturnsWith count ∧
      instructionCount = PlayerCode.written count
  | .main | .player _ | .codeWrites _ _ | .mainTimer | .playerTimer _ | .cancel
  | .cancelReturns => True

noncomputable instance (code : ι → PlayerCode F I T M) (s : System ι PS G) (e : Event ι PS) :
    Decidable (e.IsInstrumented code s) := Classical.propDecidable _

/-- The drivers, in the interleavings in which the players run their instrumented code. -/
noncomputable def instrumented (cfg : Config ι PS G) (code : ι → PlayerCode F I T M) :
    TransitionSystem (System ι PS G) (Event ι PS) :=
  (system cfg).guarded (Event.IsInstrumented code)

variable {code : ι → PlayerCode F I T M} {s s' : System ι PS G}

theorem reachable_of_instrumented (h : (instrumented cfg code).Reachable s) :
    (system cfg).Reachable s := by
  obtain ⟨s₀, hinit, hrun⟩ := h
  refine ⟨s₀, hinit, ?_⟩
  induction hrun with
  | refl => exact .refl
  | tail _ hstep ih => exact ih.tail (TransitionSystem.of_step_guarded hstep).2

/-- What a player driver has written, and is going to write. -/
structure WritesCounts (code : PlayerCode F I T M) (d : PlayerDriver) : Prop where
  written : ∀ n ∈ d.written, ∃ count, code.ReturnsWith count ∧ n = PlayerCode.written count
  owes : ∀ n, d.pc = .writeCountToShm n →
    ∃ count, code.ReturnsWith count ∧ n = PlayerCode.written count

omit [DecidableEq ι] in
theorem WritesCounts.step {code : PlayerCode F I T M} {maxNoTurns : ℕ} {d d' : PlayerDriver}
    {b b' : SharedBuffer PS} (h : WritesCounts code d)
    (hstep : PlayerDriver.step maxNoTurns d b = some (d', b')) : WritesCounts code d' := by
  cases hpc : d.pc with
  | code | finished => simp [PlayerDriver.step, hpc] at hstep
  | turnHead | waitRunning | waitTimedOut | checkTimedOut _ =>
    simp only [PlayerDriver.step, hpc, Option.some.injEq, Prod.mk.injEq] at hstep
    obtain ⟨rfl, rfl⟩ := hstep
    refine ⟨h.written, ?_⟩
    intro n hn
    dsimp only at hn
    split at hn <;> simp at hn
  | writeCountToShm n =>
    simp only [PlayerDriver.step, hpc, Option.some.injEq, Prod.mk.injEq] at hstep
    obtain ⟨rfl, rfl⟩ := hstep
    refine ⟨?_, by simp⟩
    intro k hk
    rcases List.mem_append.mp hk with hk | hk
    · exact h.written k hk
    · rw [List.mem_singleton.mp hk]
      exact h.owes n hpc
  | resetRunning =>
    simp only [PlayerDriver.step, hpc, Option.some.injEq, Prod.mk.injEq] at hstep
    obtain ⟨rfl, rfl⟩ := hstep
    exact ⟨h.written, by simp⟩

theorem writesCounts_of_playerStep {p : ι}
    {f : PlayerDriver → SharedBuffer PS → Option (PlayerDriver × SharedBuffer PS)}
    (h : ∀ q, WritesCounts (code q) (s.drivers q))
    (hf : ∀ d' b', f (s.drivers p) (s.buffers p) = some (d', b') → WritesCounts (code p) d')
    (hstep : s.playerStep p f = some s') : ∀ q, WritesCounts (code q) (s'.drivers q) := by
  obtain ⟨⟨d', b'⟩, hrun, rfl⟩ := Option.map_eq_some_iff.mp hstep
  intro q
  by_cases hq : q = p
  · subst hq
    simpa using hf d' b' hrun
  · simpa [hq] using h q

/-- **What the players write are counts of their code**, in every interleaving. -/
theorem inductive_writesCounts (cfg : Config ι PS G) (code : ι → PlayerCode F I T M) :
    (instrumented cfg code).Inductive fun s => ∀ p, WritesCounts (code p) (s.drivers p) := by
  constructor
  · intro s hs p
    rw [hs.drivers_eq p]
    exact ⟨List.forall_mem_nil _, by simp [PlayerDriver.start]⟩
  · intro s e s' h hstep
    obtain ⟨hguard, hstep⟩ := TransitionSystem.of_step_guarded hstep
    cases e with
    | main =>
      obtain ⟨_, -, rfl⟩ := Option.map_eq_some_iff.mp hstep
      exact h
    | player p =>
      exact writesCounts_of_playerStep h (fun _ _ hrun => (h p).step hrun) hstep
    | codeWrites p playerState =>
      refine writesCounts_of_playerStep h ?_ hstep
      intro d' b' hrun
      obtain ⟨-, rfl, -⟩ := PlayerInSync.pc_eq_of_codeWrites hrun
      exact h p
    | codeReturns p instructionCount =>
      refine writesCounts_of_playerStep h ?_ hstep
      intro d' b' hrun
      obtain ⟨-, rfl, -⟩ := PlayerInSync.pc_eq_of_codeReturns hrun
      refine ⟨(h p).written, ?_⟩
      intro n hn
      obtain rfl := PlayerDriver.Pc.writeCountToShm.inj hn
      exact hguard
    | playerTimer p =>
      obtain rfl := Option.some.inj hstep
      intro q
      by_cases hq : q = p
      · subst hq
        simpa using (⟨(h q).written, (h q).owes⟩ : WritesCounts (code q) (s.drivers q).timeOut)
      · simpa [hq] using h q
    | mainTimer | cancel | cancelReturns =>
      simp only [system, System.step, Option.ite_none_right_eq_some, Option.some.injEq] at hstep
      obtain ⟨-, rfl⟩ := hstep
      exact h

/-! ## What is compared with the limits -/

/-- **Who is skipped.**  In every interleaving, whenever the commands of a turn are executed,
the count that a player's driver wrote for the turn is that of a run of the player's code,
modulo `2 ^ 64` and read as a signed number.  That number is no more than the limit of the
game, and the player is skipped exactly if it is more than the limit of the turn. -/
theorem skip_iff_executes (h : (instrumented cfg code).Reachable s)
    (hpc : s.main.pc = .executePlayerCommands) (hp : p ∈ cfg.players) :
    ∃ t, (code p).Executes t ∧
      (s.drivers p).written[s.main.turn]? = some (int64 ((t.executed - t.abandoned : ℕ) : ℤ)) ∧
      int64 ((t.executed - t.abandoned : ℕ) : ℤ) ≤ cfg.playerInstructionLimitGame ∧
      (s.main.skipPlayerTurn p = true ↔
        int64 ((t.executed - t.abandoned : ℕ) : ℤ) > cfg.playerInstructionLimitTurn) := by
  have hreachable := reachable_of_instrumented h
  have hsync := (inductive_inSync cfg).reachable hreachable
  obtain ⟨hidle, hopened, -, hreads⟩ : Served s.main s.buffers p := by
    have hmain := hsync.main
    simp only [MainInSync, hpc] at hmain
    exact hmain p hp
  obtain ⟨⟨n, hn, hle⟩, k, hk, hskip⟩ : (∃ n ∈ s.main.reads p, n ≤ cfg.playerInstructionLimitGame) ∧
      ∃ n ∈ s.main.reads p,
        s.main.skipPlayerTurn p = decide (n > cfg.playerInstructionLimitTurn) := by
    have hjudged := judgedInSync_of_reachable hreachable
    simp only [JudgedInSync, hpc] at hjudged
    exact (hjudged.2 p hp).resolve_left (by simp [hjudged.1])
  -- what was read is what was written last
  have hlength : (s.drivers p).written.length = s.main.turn + 1 :=
    ((hsync.player p).of_not_running hidle).2.2.trans hopened
  have hlast : (s.drivers p).written[s.main.turn]? = some (s.buffers p).instructionCounter := by
    have hlt : s.main.turn < (s.drivers p).written.length := by omega
    have hlast : (s.drivers p).written.getLast? = (s.drivers p).written[s.main.turn]? := by
      rw [List.getLast?_eq_getElem?, hlength]
      rfl
    rw [(hsync.player p).counter, hlast, List.getElem?_eq_getElem hlt]
    rfl
  obtain ⟨count, hreturns, hcount⟩ := ((inductive_writesCounts cfg code).reachable h p).written _
    (List.mem_of_getElem? hlast)
  obtain ⟨t, hexecutes, hwritten⟩ := PlayerCode.exists_executes hreturns
  refine ⟨t, hexecutes, ?_⟩
  rw [hlast, ← hwritten, ← hcount, hskip, hreads k hk, decide_eq_true_iff]
  exact ⟨rfl, hreads n hn ▸ hle, Iff.rfl⟩

/-- Players that run a small loop. -/
def sampleCode (_ : PlayerId) : PlayerCode Bool Bool Bool ℕ where
  program := InstCountPass.sampleProgram
  semantics := InstCountPass.sampleSemantics
  own := id
  update := true
  size_lt := InstCountPass.size_lt_sample

/-- Both players run two rounds of the loop. -/
def sampleTurn : List (Event PlayerId Unit) :=
  mainEvents 8 ++ playEvents .player1 4 ++ mainEvents 5 ++ playEvents .player2 4 ++ mainEvents 7

theorem isInstrumented_sampleTurn (e : Event PlayerId Unit) (he : e ∈ sampleTurn)
    (s : System PlayerId Unit Unit) : e.IsInstrumented sampleCode s := by
  have hreturns : ∀ p, ∃ count, (sampleCode p).ReturnsWith count ∧ 4 = PlayerCode.written count :=
    fun p => ⟨4, ⟨2, 0, InstCountPass.reaches_sample⟩, rfl⟩
  cases e with
  | codeReturns p n =>
    obtain rfl : n = 4 := by
      simp [sampleTurn, mainEvents, playEvents] at he
      omega
    exact hreturns p
  | main | player | codeWrites | mainTimer | playerTimer | cancel | cancelReturns => trivial

/-- In the first turn each player has written a count of four, which its code executes, and
nobody is skipped. -/
theorem skip_iff_executes_sample : ∃ s, (instrumented sampleConfig sampleCode).Reachable s ∧
    s.main.pc = .executePlayerCommands ∧ s.main.turn = 0 ∧ (s.drivers .player1).written = [4] ∧
    (s.drivers .player2).written = [4] ∧ ∀ p, ∃ t, (sampleCode p).Executes t ∧
      (s.drivers p).written[s.main.turn]? = some (int64 ((t.executed - t.abandoned : ℕ) : ℤ)) ∧
      int64 ((t.executed - t.abandoned : ℕ) : ℤ) ≤ sampleConfig.playerInstructionLimitGame ∧
      (s.main.skipPlayerTurn p = true ↔
        int64 ((t.executed - t.abandoned : ℕ) : ℤ) > sampleConfig.playerInstructionLimitTurn) := by
  have hrun : (sampleTurn.foldlM (System.step sampleConfig) (started sampleConfig ())).map
      (fun s => (s.main.pc, s.main.turn, (s.drivers .player1).written,
        (s.drivers .player2).written)) = some (.executePlayerCommands, 0, [4], [4]) := by
    decide +kernel
  obtain ⟨s, hs, hrun⟩ := Option.map_eq_some_iff.mp hrun
  simp only [Prod.mk.injEq] at hrun
  obtain ⟨hpc, hturn, hone, htwo⟩ := hrun
  have hreachable : (instrumented sampleConfig sampleCode).Reachable s :=
    ⟨_, isStarted_started sampleConfig (), TransitionSystem.reaches_guarded_of_foldlM
      isInstrumented_sampleTurn hs⟩
  exact ⟨s, hreachable, hpc, hturn, hone, htwo,
    fun p => skip_iff_executes hreachable hpc (PlayerId.mem_all p)⟩

end Drivers

end Simulator
