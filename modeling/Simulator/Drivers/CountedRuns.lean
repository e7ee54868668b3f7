import Simulator.Drivers.Cancellation
import Simulator.Drivers.Handshake

/-!
# Games with given instruction counts

The interleavings in which no timer fires, nobody cancels, and the code of each player takes
as many instructions in each of its turns as a table says.  The calls of the state syncer
and of the logger are recorded on the way.

Two things are needed of the players: the counter of a player holds the count of the turn
when the main driver reads it (`OnTime.counter_eq`), and a player driver has a turn left
whenever its flag is set (`OnTime.pc_ne_finished`).

## Why a table

What the code of a player does is not in the model, and the number of instructions it takes may
depend on everything.  But in a single interleaving each call of the code takes some number of
instructions, and those numbers make up a table.  So a statement about every table is one about
every code, as far as instruction counts go, and it can say in advance what the main driver is
going to do, which no statement about a state reached so far could.

## Clocks

A driver has a clock, the number of times its flag was set, and `Clocked` says what holds of it by
that clock: which turn it is in, where in `Run` it is, and that what it wrote are the counts of
the table up to that turn.  Steps of the driver keep it, and the main driver moves the clock when
it sets the flag.
-/

namespace Simulator

open Foundation Function

variable {ι PS G : Type}

/-! ## The calls -/

/-- A call of the state syncer or of the logger; `getScores` comes with what it returns. -/
inductive Call (ι : Type) where
  | executePlayerCommands (skipPlayerCommandsFlags : ι → Bool)
  | updateMainState
  | updatePlayerStates
  | getScores (scores : ι → ℤ)
  | logInstructionCount (playerId : ι) (count : ℤ)
  | logFinalGameParams
  | writeGame

/-- The call that the next step of the main driver makes, if it makes one. -/
def MainDriver.calls (cfg : Drivers.Config ι PS G) (m : MainDriver ι G)
    (buffers : ι → SharedBuffer PS) : List (Call ι) :=
  match m.pc with
  | .initPlayerStates | .updatePlayerStates => [.updatePlayerStates]
  | .logInstructionCount p _ => [.logInstructionCount p (buffers p).instructionCounter]
  | .executePlayerCommands => [.executePlayerCommands m.skipPlayerTurn]
  | .updateMainState => [.updateMainState]
  | .getScores => [.getScores (cfg.callees.getScores m.game)]
  | .logFinalGameParams _ => [.logFinalGameParams]
  | .writeGame _ => [.writeGame]
  | _ => []

namespace Drivers

/-- The event is neither a timeout nor a cancellation, and the code of a player takes as many
instructions as the table says for the turn. -/
def Event.IsCounted (count : ℕ → ι → ℤ) (s : System ι PS G) : Event ι PS → Prop
  | .codeReturns p instructionCount => instructionCount = count (s.drivers p).calls p
  | .main | .player _ | .codeWrites _ _ => True
  | .mainTimer | .playerTimer _ | .cancel | .cancelReturns => False

instance (count : ℕ → ι → ℤ) (s : System ι PS G) (e : Event ι PS) :
    Decidable (e.IsCounted count s) :=
  match e with
  | .codeReturns _ _ => inferInstanceAs (Decidable (_ = _))
  | .main | .player _ | .codeWrites _ _ => .isTrue trivial
  | .mainTimer | .playerTimer _ | .cancel | .cancelReturns => .isFalse id

variable [DecidableEq ι]

/-- The drivers and the calls made so far, with the given instruction counts. -/
def counted (cfg : Config ι PS G) (count : ℕ → ι → ℤ) :
    TransitionSystem (System ι PS G × List (Call ι)) (Event ι PS) where
  IsInitial x := IsStarted cfg x.1 ∧ x.2 = []
  step x e :=
    if e.IsCounted count x.1 then
      (x.1.step cfg e).map fun s' => (s', x.2 ++ match e with
        | .main => x.1.main.calls cfg x.1.buffers
        | _ => [])
    else none

variable {cfg : Config ι PS G} {count : ℕ → ι → ℤ}

theorem step_counted {x x' : System ι PS G × List (Call ι)} {e : Event ι PS}
    (h : (counted cfg count).step x e = some x') :
    e.IsCounted count x.1 ∧ x.1.step cfg e = some x'.1 := by
  simp only [counted] at h
  split at h
  · obtain ⟨s', hs', rfl⟩ := Option.map_eq_some_iff.mp h
    exact ⟨‹_›, hs'⟩
  · simp at h

/-! ## One player -/

/-- A player driver, when its flag was set `opened` times. -/
structure Clocked (count : ℕ → ℤ) (maxNoTurns opened : ℕ) (d : PlayerDriver)
    (b : SharedBuffer PS) : Prop where
  notTimedOut : d.isGameTimedOut = false
  turn : d.turn + b.isPlayerRunning.toNat = opened
  finished : d.pc = .finished → maxNoTurns ≤ d.turn
  written : d.written = (List.range d.written.length).map count
  owes : ∀ n, d.pc = .writeCountToShm n → n = count d.written.length

namespace Clocked

variable {countOf : ℕ → ℤ} {maxNoTurns opened : ℕ} {d d' : PlayerDriver} {b b' : SharedBuffer PS}

theorem goto (h : Clocked countOf maxNoTurns opened d b) {pc : PlayerDriver.Pc}
    (hfinished : pc = .finished → maxNoTurns ≤ d.turn)
    (hwrite : ∀ n, pc ≠ .writeCountToShm n) :
    Clocked countOf maxNoTurns opened { d with pc } b :=
  ⟨h.notTimedOut, h.turn, hfinished, h.written, fun n hn => absurd hn (hwrite n)⟩

theorem step (h : Clocked countOf maxNoTurns opened d b) (hsync : PlayerInSync opened d b)
    (hstep : PlayerDriver.step maxNoTurns d b = some (d', b')) :
    Clocked countOf maxNoTurns opened d' b' := by
  have htimedOut := h.notTimedOut
  cases hpc : d.pc with
  | code | finished => simp [PlayerDriver.step, hpc] at hstep
  | turnHead =>
    simp only [PlayerDriver.step, hpc, Option.some.injEq, Prod.mk.injEq] at hstep
    obtain ⟨rfl, rfl⟩ := hstep
    by_cases hturn : d.turn < maxNoTurns
    · rw [if_pos hturn]
      exact h.goto (by simp) (by simp)
    · rw [if_neg hturn]
      exact h.goto (fun _ => not_lt.mp hturn) (by simp)
  | waitRunning =>
    simp only [PlayerDriver.step, hpc, Option.some.injEq, Prod.mk.injEq] at hstep
    obtain ⟨rfl, rfl⟩ := hstep
    split
    · exact h.goto (by simp) (by simp)
    · exact h.goto (by simp) (by simp)
  | waitTimedOut | checkTimedOut =>
    simp only [PlayerDriver.step, hpc, Option.some.injEq, Prod.mk.injEq] at hstep
    obtain ⟨rfl, rfl⟩ := hstep
    rw [if_neg (by rw [htimedOut]; decide)]
    exact h.goto (by simp) (by simp)
  | writeCountToShm n =>
    simp only [PlayerDriver.step, hpc, Option.some.injEq, Prod.mk.injEq] at hstep
    obtain ⟨rfl, rfl⟩ := hstep
    refine ⟨htimedOut, h.turn, by simp, ?_, by simp⟩
    rw [List.length_append, List.length_singleton, List.range_succ, List.map_append, ← h.written,
      h.owes n hpc]
    rfl
  | resetRunning =>
    simp only [PlayerDriver.step, hpc, Option.some.injEq, Prod.mk.injEq] at hstep
    obtain ⟨rfl, rfl⟩ := hstep
    have hrunning := hsync.running_of_isBusy (by rw [hpc]; trivial)
    have hturn := h.turn
    rw [hrunning] at hturn
    exact ⟨htimedOut, hturn, by simp, h.written, by simp⟩

theorem codeReturns (h : Clocked countOf maxNoTurns opened d b) (hsync : PlayerInSync opened d b)
    (hpc : d.pc = .code) :
    Clocked countOf maxNoTurns opened
      { d with pc := .writeCountToShm (countOf d.calls), calls := d.calls + 1 } b := by
  have hrunning := hsync.running_of_isBusy (by rw [hpc]; trivial)
  have hcalls := hsync.calls
  have hwritten := hsync.written
  simp only [hpc, hrunning, owesCall, owesCount, Bool.and_self, Bool.toNat_true] at hcalls hwritten
  have hsame : d.calls = d.written.length := by omega
  refine ⟨h.notTimedOut, h.turn, by simp, h.written, ?_⟩
  intro n hn
  rw [← hsame]
  exact (PlayerDriver.Pc.writeCountToShm.inj hn).symm

theorem setRunning (h : Clocked countOf maxNoTurns opened d b)
    (hidle : b.isPlayerRunning = false) :
    Clocked countOf maxNoTurns (opened + 1) d { b with isPlayerRunning := true } := by
  have hturn := h.turn
  rw [hidle] at hturn
  exact ⟨h.notTimedOut, by simpa using hturn, h.finished, h.written, h.owes⟩

theorem getLast?_written (h : Clocked countOf maxNoTurns opened d b) {n : ℕ}
    (hlength : d.written.length = n + 1) : d.written.getLast?.getD 0 = countOf n := by
  rw [h.written, hlength, List.range_succ, List.map_append, List.map_singleton,
    List.getLast?_append]
  rfl

end Clocked

/-! ## All of them -/

/-- The drivers are in sync, no timer has fired, nobody has cancelled, and the players have
written the given counts. -/
structure OnTime (cfg : Config ι PS G) (count : ℕ → ι → ℤ) (s : System ι PS G) : Prop where
  sync : InSync cfg s
  notTimedOut : s.main.isGameTimedOut = false
  notCancelled : s.main.cancel = false
  player : ∀ p, Clocked (fun i => count i p) (cfg.playerMaxNoTurns p) (s.main.opened p)
    (s.drivers p) (s.buffers p)

/-- A step of the main driver leaves the clocks of the players as they are, or sets a flag. -/
theorem MainInSync.clocked {m m' : MainDriver ι G} {buffers buffers' : ι → SharedBuffer PS}
    {drivers : ι → PlayerDriver} (h : MainInSync cfg m buffers)
    (hplayers : ∀ p, Clocked (fun i => count i p) (cfg.playerMaxNoTurns p) (m.opened p) (drivers p)
      (buffers p))
    (hstep : MainDriver.step cfg m buffers = some (m', buffers')) :
    ∀ p, Clocked (fun i => count i p) (cfg.playerMaxNoTurns p) (m'.opened p) (drivers p)
      (buffers' p) := by
  unfold MainInSync at h
  cases MainDriver.steps_of_step hstep with
  | @initRunning p rest hpc =>
    simp only [hpc] at h
    have hsame : update buffers p { buffers p with isPlayerRunning := false } = buffers := by
      rw [← (h.2 p).1, update_eq_self]
    rwa [hsame]
  | @initCounter p rest hpc =>
    intro q
    by_cases hq : q = p
    · subst hq
      simpa using { hplayers q with : Clocked (fun i => count i q) (cfg.playerMaxNoTurns q)
        (m.opened q) (drivers q) { buffers q with instructionCounter := 0 } }
    · simpa [hq] using hplayers q
  | initPlayerStates | updatePlayerStates => exact fun q => { hplayers q with }
  | @setRunning p rest hpc =>
    simp only [hpc] at h
    intro q
    by_cases hq : q = p
    · subst hq
      simpa using (hplayers q).setRunning (h.2.1 q (List.mem_cons_self ..)).1
    · simpa [hq] using hplayers q
  | initEnd | startTimer | turnBegins | turnsEnd | playersEnd | running | notRunning | timedOut
  | notTimedOut | cancelSeen | waitOn | cancelled | notCancelled | exceedsGame | withinGame
  | checkLimitTurn | logInstructionCount | aborted | notAborted | executePlayerCommands
  | updateMainState | getScores | logFinalGameParams | writeGame | stopsToClear | stops
  | clearCancel => exact hplayers

/-- The main driver does not fire its own timer. -/
theorem timedOut_of_step {m m' : MainDriver ι G} {buffers buffers' : ι → SharedBuffer PS}
    (hstep : MainDriver.step cfg m buffers = some (m', buffers')) :
    m'.isGameTimedOut = true → m.isGameTimedOut = true := by
  cases MainDriver.steps_of_step hstep
  case startTimer => exact fun h => absurd h (by simp)
  all_goals exact id

theorem OnTime.playerStep {s s' : System ι PS G} (h : OnTime cfg count s) (hsync : InSync cfg s')
    {p : ι} {f : PlayerDriver → SharedBuffer PS → Option (PlayerDriver × SharedBuffer PS)}
    (hf : ∀ d' b', f (s.drivers p) (s.buffers p) = some (d', b') →
      Clocked (fun i => count i p) (cfg.playerMaxNoTurns p) (s.main.opened p) d' b')
    (hstep : s.playerStep p f = some s') : OnTime cfg count s' := by
  obtain ⟨⟨d', b'⟩, hrun, rfl⟩ := Option.map_eq_some_iff.mp hstep
  refine ⟨hsync, h.notTimedOut, h.notCancelled, ?_⟩
  intro q
  by_cases hq : q = p
  · subst hq
    simpa using hf d' b' hrun
  · simpa [hq] using h.player q

/-- **Every counted step keeps the players on time.** -/
theorem OnTime.step {s s' : System ι PS G} (h : OnTime cfg count s) {e : Event ι PS}
    (hcounted : e.IsCounted count s) (hstep : s.step cfg e = some s') : OnTime cfg count s' := by
  have hsync := h.sync.step hstep
  cases e with
  | main =>
    obtain ⟨⟨m', buffers'⟩, hrun, rfl⟩ := Option.map_eq_some_iff.mp hstep
    refine ⟨hsync, ?_, ?_, h.sync.main.clocked h.player hrun⟩
    · exact Bool.eq_false_of_not_eq_true fun hfired => by
        simpa [h.notTimedOut] using timedOut_of_step hrun hfired
    · exact Bool.eq_false_of_not_eq_true fun hcancel => by
        simpa [h.notCancelled] using (MainDriver.step_flags hrun).1 hcancel
  | player p =>
    exact h.playerStep hsync (fun d' b' hrun => (h.player p).step (h.sync.player p) hrun) hstep
  | codeWrites p playerState =>
    refine h.playerStep hsync ?_ hstep
    intro d' b' hrun
    obtain ⟨-, rfl, rfl⟩ := PlayerInSync.pc_eq_of_codeWrites hrun
    exact { h.player p with }
  | codeReturns p instructionCount =>
    refine h.playerStep hsync ?_ hstep
    intro d' b' hrun
    obtain ⟨hpc, rfl, rfl⟩ := PlayerInSync.pc_eq_of_codeReturns hrun
    rw [show instructionCount = count (s.drivers p).calls p from hcounted]
    exact (h.player p).codeReturns (h.sync.player p) hpc
  | mainTimer | playerTimer | cancel | cancelReturns => exact hcounted.elim

omit [DecidableEq ι] in
theorem onTime_of_isStarted {s : System ι PS G} (h : IsStarted cfg s) : OnTime cfg count s where
  sync := inSync_of_isStarted h
  notTimedOut := by rw [h.main_eq]; rfl
  notCancelled := by rw [h.main_eq]; rfl
  player p := by
    rw [h.main_eq, h.drivers_eq p]
    exact ⟨rfl, by simp [h.isPlayerRunning_eq p, PlayerDriver.start, MainDriver.start], nofun,
      rfl, nofun⟩

theorem inductive_onTime (cfg : Config ι PS G) (count : ℕ → ι → ℤ) :
    (counted cfg count).Inductive fun x => OnTime cfg count x.1 :=
  ⟨fun _ h => onTime_of_isStarted h.1, fun _ _ _ h hstep =>
    h.step (step_counted hstep).1 (step_counted hstep).2⟩

/-! ## What the main driver reads -/

omit [DecidableEq ι] in
/-- **The counter holds the count of the turn** where the main driver reads it. -/
theorem OnTime.counter_eq {s : System ι PS G} (h : OnTime cfg count s) {p : ι} {rest : List ι}
    (hpc : s.main.pc = .checkLimitGame p rest ∨ s.main.pc = .checkLimitTurn p rest ∨
      s.main.pc = .logInstructionCount p rest) :
    (s.buffers p).instructionCounter = count s.main.turn p := by
  obtain ⟨hidle, hopened⟩ : (s.buffers p).isPlayerRunning = false ∧
      s.main.opened p = s.main.turn + 1 := by
    have hmain := h.sync.main
    have hno : ¬ s.main.isGameTimedOut = true := by simp [h.notTimedOut]
    unfold MainInSync at hmain
    rcases hpc with hpc | hpc | hpc <;> simp only [hpc] at hmain
    · exact ⟨hmain.2.resolve_right hno, hmain.1.1.opened_eq⟩
    · exact ⟨(hmain.2.resolve_right hno).1, hmain.1.opened_eq⟩
    · exact ⟨(hmain.2.resolve_right hno).1, hmain.1.opened_eq⟩
  have hsync := h.sync.player p
  rw [hsync.counter]
  exact (h.player p).getLast?_written ((hsync.of_not_running hidle).2.2.trans hopened)

end Drivers

end Simulator
