import Simulator.Foundation.Transition
import Simulator.Drivers.MainDriver

/-!
# The drivers together

The main driver, a player driver for each player, the timers, and the thread that may
cancel the game.  An interleaving is a list of events, each of which is one atomic step
of one of them.  The two sides share the buffers, one for each player; the main driver
shares its cancel flag with the thread that cancels.

A player's timer may fire at any moment, and the main timer at any moment after it was
started.  `Cancel` is called once, if at all.

The memory is sequentially consistent: a store is seen by all from the next step on.  The
variables that the threads share are atomic ones in the source, and the copies of the state are
not, but they are only used by the side that has the buffer, which is what the handshake is for.

An event that cannot happen in a state leads nowhere.  A thread that has returned has no steps, a
timer that was not started does not fire, and a call that throws ends the program, so that nothing
comes after it.  Time does not pass in the model; a timer that never fires and one that fires at
once are both among the interleavings, so that what holds in all of them does not depend on
durations.
-/

namespace Simulator

open Foundation Function

variable {ι PS G : Type} [DecidableEq ι]

namespace Drivers

/-- Where `MainDriver::Cancel` is. -/
inductive CancelCall where
  | notCalled
  /-- The flag was set, and is being waited for to be cleared. -/
  | waiting
  | returned
  deriving DecidableEq, Repr

/-- Everything that runs. -/
structure System (ι PS G : Type) where
  main : MainDriver ι G
  buffers : ι → SharedBuffer PS
  drivers : ι → PlayerDriver
  cancelCall : CancelCall

/-- An atomic step. -/
inductive Event (ι PS : Type) where
  | main
  | player (p : ι)
  /-- The player's code writes to its copy of the state. -/
  | codeWrites (p : ι) (playerState : PS)
  /-- The player's code returns. -/
  | codeReturns (p : ι) (instructionCount : ℤ)
  | mainTimer
  | playerTimer (p : ι)
  /-- `Cancel` sets the flag. -/
  | cancel
  /-- `Cancel` sees the flag cleared. -/
  | cancelReturns

namespace System

/-- A step of one player driver. -/
def playerStep (s : System ι PS G) (p : ι)
    (f : PlayerDriver → SharedBuffer PS → Option (PlayerDriver × SharedBuffer PS)) :
    Option (System ι PS G) :=
  (f (s.drivers p) (s.buffers p)).map fun x =>
    { s with drivers := update s.drivers p x.1, buffers := update s.buffers p x.2 }

/-- One atomic step. -/
def step (cfg : Config ι PS G) (s : System ι PS G) : Event ι PS → Option (System ι PS G)
  | .main =>
    (MainDriver.step cfg s.main s.buffers).map fun x => { s with main := x.1, buffers := x.2 }
  | .player p => s.playerStep p (PlayerDriver.step (cfg.playerMaxNoTurns p))
  | .codeWrites p playerState => s.playerStep p (PlayerDriver.codeWrites playerState)
  | .codeReturns p instructionCount => s.playerStep p (PlayerDriver.codeReturns instructionCount)
  | .mainTimer =>
    if s.main.isTimerRunning then some { s with main.isGameTimedOut := true } else none
  | .playerTimer p => some { s with drivers := update s.drivers p (s.drivers p).timeOut }
  | .cancel =>
    if s.cancelCall = .notCalled then some { s with main.cancel := true, cancelCall := .waiting }
    else none
  | .cancelReturns =>
    if s.cancelCall = .waiting ∧ s.main.cancel = false then some { s with cancelCall := .returned }
    else none

/-- What a step can do to the main driver: it is a step of its own, or at most fires its
timer or sets its flag. -/
theorem step_cases {cfg : Config ι PS G} {s s' : System ι PS G} {e : Event ι PS}
    (h : s.step cfg e = some s') :
    (e = .main ∧ ∃ m' buffers', MainDriver.step cfg s.main s.buffers = some (m', buffers') ∧
      s' = { s with main := m', buffers := buffers' }) ∨
    (e ≠ .main ∧ ∃ isGameTimedOut cancel, (s.main.isGameTimedOut = true → isGameTimedOut = true) ∧
      s'.main = { s.main with isGameTimedOut, cancel }) := by
  cases e with
  | main =>
    obtain ⟨⟨m', buffers'⟩, hrun, rfl⟩ := Option.map_eq_some_iff.mp h
    exact .inl ⟨rfl, m', buffers', hrun, rfl⟩
  | player | codeWrites | codeReturns =>
    obtain ⟨⟨d', b'⟩, -, rfl⟩ := Option.map_eq_some_iff.mp h
    exact .inr ⟨by simp, _, _, id, rfl⟩
  | mainTimer =>
    simp only [step] at h
    split at h
    · obtain rfl := Option.some.inj h
      exact .inr ⟨by simp, true, _, fun _ => rfl, rfl⟩
    · simp at h
  | playerTimer =>
    obtain rfl := Option.some.inj h
    exact .inr ⟨by simp, _, _, id, rfl⟩
  | cancel | cancelReturns =>
    simp only [step] at h
    split at h
    · obtain rfl := Option.some.inj h
      exact .inr ⟨by simp, _, _, id, rfl⟩
    · simp at h

end System

/-- The drivers as they are started: nobody is running, and nothing has been counted. -/
structure IsStarted (cfg : Config ι PS G) (s : System ι PS G) : Prop where
  main_eq : s.main = MainDriver.start cfg.players cfg.game
  isPlayerRunning_eq : ∀ p, (s.buffers p).isPlayerRunning = false
  instructionCounter_eq : ∀ p, (s.buffers p).instructionCounter = 0
  drivers_eq : ∀ p, s.drivers p = PlayerDriver.start
  cancelCall_eq : s.cancelCall = .notCalled

/-- The transition system of the drivers. -/
def system (cfg : Config ι PS G) : TransitionSystem (System ι PS G) (Event ι PS) where
  IsInitial := IsStarted cfg
  step := System.step cfg

/-- The drivers with the buffers as they are constructed. -/
def started (cfg : Config ι PS G) (playerState : PS) : System ι PS G where
  main := MainDriver.start cfg.players cfg.game
  buffers := fun _ => ⟨false, 0, playerState⟩
  drivers := fun _ => PlayerDriver.start
  cancelCall := .notCalled

omit [DecidableEq ι] in
theorem isStarted_started (cfg : Config ι PS G) (playerState : PS) :
    IsStarted cfg (started cfg playerState) :=
  ⟨rfl, fun _ => rfl, fun _ => rfl, fun _ => rfl, rfl⟩

/-- What a list of events leads to from the start is reachable. -/
theorem reachable_of_foldlM {cfg : Config ι PS G} {playerState : PS} {events : List (Event ι PS)}
    {s : System ι PS G} (h : events.foldlM (System.step cfg) (started cfg playerState) = some s) :
    (system cfg).Reachable s :=
  ⟨_, isStarted_started cfg playerState, TransitionSystem.reaches_of_foldlM h⟩

/-! ## A small interleaving -/

/-- One turn of two players whose state syncer has nothing to do. -/
def sampleConfig : Config PlayerId Unit Unit where
  players := PlayerId.all
  nodup := PlayerId.nodup_all
  maxNoTurns := 1
  playerMaxNoTurns := fun _ => 1
  playerInstructionLimitTurn := 10
  playerInstructionLimitGame := 100
  callees := {
    executePlayerCommands := fun _ _ _ => .ok ()
    updateMainState := fun _ => .ok ()
    updatePlayerStates := fun _ states => .ok ((), states)
    getScores := fun _ _ => 0
    logInstructionCount := fun _ _ _ => ()
    logFinalGameParams := fun _ => ()
    writeGame := fun _ => () }
  game := ()

/-- Some steps of the main driver; `Start` takes 7 for two players. -/
def mainEvents (n : ℕ) : List (Event PlayerId PS) := List.replicate n .main

/-- The main driver sets the flag of a player, and the player driver has its turn. -/
def playEvents (p : PlayerId) (instructionCount : ℤ) : List (Event PlayerId PS) :=
  [.main, .player p, .player p, .player p, .codeReturns p instructionCount, .player p, .player p]

end Drivers

end Simulator
