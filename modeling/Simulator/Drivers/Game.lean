import Simulator.Drivers.System
import Simulator.Main.Game
import Simulator.Syncer.PlayerViews

/-!
# The drivers of a game

`BuildMainDriver` of `main.cpp`: the main driver with the state syncer and the logger.
`Simulation` is what the three of them keep outside of the buffers.

In every interleaving the main driver plays a game in the sense of `Game`
(`inductive_plays`), so that what holds of every reachable state holds of the states the
main driver goes through.

## Two notions of a game

The drivers know nothing of games.  They call a state syncer in a certain order, and whether the
states it works on fit together is not theirs to say.  The module on games, on the other hand,
knows nothing of threads: there a turn is commands and an update, played on some input.  Here the
two are put together.  The callees of the main driver are those of the simulator (`callees`),
which act on a `Simulation` that holds the state, the logger, and the games that were written to
the file.

`Plays` says where in a game the main driver is: in turn `i` the state is the one after `i` turns,
or the one after the commands of turn `i`, or the one after `i + 1` turns, depending on which
calls have been made.  The input of a turn is what the main driver finds in the buffers when it
executes the commands.  Nothing has to be known of the players for that, since a turn may be
played on any input.
-/

namespace Simulator

open Foundation

variable {K : Type}

/-- The state, the logger, and the games written to the log file. -/
structure Simulation (K : Type) where
  state : State K
  logger : Logger
  logFile : List Proto.Game

namespace Simulation

/-- `LogInstructionCount`. -/
def logInstructionCount (p : PlayerId) (count : ℤ) (g : Simulation K) : Simulation K :=
  { g with logger := g.logger.logInstructionCount p count }

/-- `LogFinalGameParams`. -/
def logFinalGameParams (g : Simulation K) : Simulation K :=
  { g with logger := g.logger.logFinalGameParams }

/-- `WriteGame`. -/
def writeGame (g : Simulation K) : Simulation K :=
  { g with logFile := g.logFile ++ [g.logger.logs] }

variable [Field K] [LinearOrder K] [FloorRing K]

/-- `ExecutePlayerCommands`, and the errors it logs. -/
def executePlayerCommands (c : Constants K) (playerStates : PlayerId → PlayerState c)
    (skipPlayerCommandsFlags : PlayerId → Bool) (g : Simulation K) :
    Except Fault (Simulation K) := do
  let ph ← StateSyncer.executePlayerCommands playerStates skipPlayerCommandsFlags g.state
  return { g with
    state := ph.state
    logger := ph.errors.foldl (fun l e => l.logError e.playerId e.errorType e.message) g.logger }

/-- `UpdatePlayerStates`, which has the state logged. -/
def updatePlayerStates (c : Constants K) (g : Simulation K)
    (playerStates : PlayerId → PlayerState c) :
    Except Fault (Simulation K × (PlayerId → PlayerState c)) := do
  let (logger, playerStates) ← StateSyncer.updatePlayerStates g.state g.logger playerStates
  return ({ g with logger }, playerStates)

variable [SquareRoot K]

/-- `UpdateMainState`. -/
def updateMainState (c : Constants K) (g : Simulation K) : Except Fault (Simulation K) := do
  return { g with state := ← State.update c g.state }

/-- What the main driver calls. -/
def callees (c : Constants K) : Callees PlayerId (PlayerState c) (Simulation K) where
  executePlayerCommands := executePlayerCommands c
  updateMainState := updateMainState c
  updatePlayerStates := updatePlayerStates c
  getScores g p := g.state.getScores p
  logInstructionCount := logInstructionCount
  logFinalGameParams := logFinalGameParams
  writeGame := writeGame

/-! ## What the calls do -/

omit [SquareRoot K] in
theorem exists_of_executePlayerCommands {c : Constants K} {playerStates : PlayerId → PlayerState c}
    {skip : PlayerId → Bool} {g g' : Simulation K}
    (h : executePlayerCommands c playerStates skip g = .ok g') :
    ∃ ph, StateSyncer.executePlayerCommands playerStates skip g.state = .ok ph ∧
      g' = { g with
        state := ph.state
        logger := ph.errors.foldl (fun l e => l.logError e.playerId e.errorType e.message)
          g.logger } := by
  obtain ⟨ph, hph, h⟩ := bind_eq_ok.mp h
  exact ⟨ph, hph, (Except.ok.inj h).symm⟩

theorem exists_of_updateMainState {c : Constants K} {g g' : Simulation K}
    (h : updateMainState c g = .ok g') :
    ∃ st, State.update c g.state = .ok st ∧ g' = { g with state := st } := by
  obtain ⟨st, hst, h⟩ := bind_eq_ok.mp h
  exact ⟨st, hst, (Except.ok.inj h).symm⟩

omit [SquareRoot K] in
theorem exists_of_updatePlayerStates {c : Constants K}
    {playerStates playerStates' : PlayerId → PlayerState c} {g g' : Simulation K}
    (h : updatePlayerStates c g playerStates = .ok (g', playerStates')) :
    ∃ l, g.logger.logState c g.state = .ok l ∧ g' = { g with logger := l } := by
  obtain ⟨⟨l, states⟩, hcall, h⟩ := bind_eq_ok.mp h
  obtain ⟨-, -, -, -, -, hlog⟩ := StateSyncer.exists_rounds_of_updatePlayerStates hcall
  exact ⟨l, hlog, ((Prod.mk.inj (Except.ok.inj h)).1).symm⟩

end Simulation

namespace Drivers

variable [Field K] [LinearOrder K] [FloorRing K] [SquareRoot K]

/-- `BuildMainDriver`, with the state that the game starts from. -/
def gameConfig (c : Constants K) (st : State K) (maxNoTurns : ℕ) (playerMaxNoTurns : PlayerId → ℕ)
    (playerInstructionLimitTurn playerInstructionLimitGame : ℤ) :
    Config PlayerId (PlayerState c) (Simulation K) where
  players := PlayerId.all
  nodup := PlayerId.nodup_all
  maxNoTurns := maxNoTurns
  playerMaxNoTurns := playerMaxNoTurns
  playerInstructionLimitTurn := playerInstructionLimitTurn
  playerInstructionLimitGame := playerInstructionLimitGame
  callees := Simulation.callees c
  game := {
    state := st
    logger := Logger.start playerInstructionLimitTurn playerInstructionLimitGame
    logFile := [] }

/-- `r` plays `n` turns and arrives at `st`. -/
def PlaysTurns (r : Ruleset K) (n : ℕ) (st : State K) : Prop :=
  ∃ past, Game r past st ∧ past.length = n

/-- The main driver plays a game: in turn `i`, the state is the one after `i` turns, the
one after the commands of turn `i`, or the one after `i + 1` turns. -/
def Plays (r : Ruleset K) (m : MainDriver PlayerId (Simulation K)) : Prop :=
  match m.pc with
  | .updateMainState => ∃ (before : State K) (input : Input r.toConstants) (ph : CommandPhase K),
      PlaysTurns r m.turn before ∧ execute input before = .ok ph ∧ ph.state = m.game.state
  | .updatePlayerStates => PlaysTurns r (m.turn + 1) m.game.state
  | _ => PlaysTurns r m.turn m.game.state

variable {r : Ruleset K} {cfg : Config PlayerId (PlayerState r.toConstants) (Simulation K)}
  {m m' : MainDriver PlayerId (Simulation K)}
  {buffers buffers' : PlayerId → SharedBuffer (PlayerState r.toConstants)}

/-- **A step of the main driver** goes on with the game. -/
theorem Plays.step (h : Plays r m) (hcallees : cfg.callees = Simulation.callees r.toConstants)
    (hstep : MainDriver.step cfg m buffers = some (m', buffers')) : Plays r m' := by
  unfold Plays at h
  cases MainDriver.steps_of_step hstep with
  | initPlayerStates hpc hcall | updatePlayerStates hpc hcall =>
    simp only [hpc] at h
    rw [hcallees] at hcall
    obtain ⟨l, -, rfl⟩ := Simulation.exists_of_updatePlayerStates hcall
    exact h
  | executePlayerCommands hpc hcall =>
    simp only [hpc] at h
    rw [hcallees] at hcall
    obtain ⟨ph, hph, rfl⟩ := Simulation.exists_of_executePlayerCommands hcall
    exact ⟨m.game.state, ⟨MainDriver.playerStates buffers, m.skipPlayerTurn⟩, ph, h, hph, rfl⟩
  | updateMainState hpc hcall =>
    simp only [hpc] at h
    rw [hcallees] at hcall
    obtain ⟨st, hst, rfl⟩ := Simulation.exists_of_updateMainState hcall
    obtain ⟨before, input, ph, ⟨past, hgame, hlength⟩, hph, hstate⟩ := h
    have hplayed : (Turn.mk before m.game.state st).IsPlayed r := ⟨input, ph, hph, hstate, hst⟩
    exact ⟨_, hgame.turn hplayed, by rw [List.length_append, hlength, List.length_singleton]⟩
  | logInstructionCount hpc | logFinalGameParams hpc | writeGame hpc =>
    simp only [hpc] at h
    rw [hcallees]
    exact h
  | initEnd hpc | initRunning hpc | initCounter hpc | startTimer hpc | turnBegins hpc | turnsEnd hpc
  | playersEnd hpc | setRunning hpc | running hpc | notRunning hpc | timedOut hpc | notTimedOut hpc
  | cancelSeen hpc | waitOn hpc | cancelled hpc | notCancelled hpc | exceedsGame hpc
  | withinGame hpc | checkLimitTurn hpc | aborted hpc | notAborted hpc | getScores hpc
  | stopsToClear hpc | stops hpc | clearCancel hpc =>
    simp only [hpc] at h
    exact h

/-- **The drivers play a game**, in every interleaving. -/
theorem inductive_plays {st : State K} (hst : buildState r.toConstants = .ok st) (maxNoTurns : ℕ)
    (playerMaxNoTurns : PlayerId → ℕ) (playerInstructionLimitTurn playerInstructionLimitGame : ℤ) :
    (system (gameConfig r.toConstants st maxNoTurns playerMaxNoTurns playerInstructionLimitTurn
      playerInstructionLimitGame)).Inductive fun s => Plays r s.main := by
  constructor
  · intro s h
    rw [h.main_eq]
    exact ⟨[], .start hst, rfl⟩
  · intro s e s' h hstep
    obtain ⟨-, m', buffers', hrun, rfl⟩ | ⟨-, _, _, -, hmain⟩ := System.step_cases hstep
    · exact h.step rfl hrun
    · rw [hmain]
      exact h

end Drivers

end Simulator
