import Simulator.Drivers.PlayerDriver

/-!
# The main driver

`MainDriver::Start` and `MainDriver::Run`, one atomic step at a time, for any number of
players.  The drivers do not know what a game is: they call the state syncer and the
logger, which `Callees` lists.  A call that throws ends the program, so it is a step that
cannot be made.

A step is a load or a store that another thread can see, or a call.  The waiting loop is three
steps, since each of the three parts of its condition reads a variable of somebody else's, and the
counter of a player is read three times, to be compared with the limit of the game, to be compared
with that of the turn, and to be logged.  Between two of these reads other threads may do what
they like, and that the three agree is something to prove.

`Pc` says where `Start` and `Run` are.  In the loops over the players it has the players whose
round has not begun, and the local variables of `Run` are fields of the driver.  `Steps` lists the
branches of a step, one constructor for each, with its guards: proofs about steps are by cases on
it, and none of them looks at `step` again.

`opened` and `reads` are history, as in the player driver: the first counts how often a player's
flag was set, and the second has what was read of its counter in the turn.  No step depends on
them.
-/

namespace Simulator

open Function

/-- The status of a player's result. -/
inductive PlayerResult.Status where
  | undefined
  | normal
  | exceededInstructionLimit
  | runtimeError
  deriving DecidableEq, Repr

/-- The final result of a player. -/
structure PlayerResult where
  score : ℤ
  status : PlayerResult.Status
  deriving DecidableEq, Repr

/-- What the main driver calls: the state syncer, and the logger. -/
structure Callees (ι PS G : Type) where
  executePlayerCommands : (ι → PS) → (ι → Bool) → G → Except Fault G
  updateMainState : G → Except Fault G
  updatePlayerStates : G → (ι → PS) → Except Fault (G × (ι → PS))
  getScores : G → ι → ℤ
  logInstructionCount : ι → ℤ → G → G
  logFinalGameParams : G → G
  writeGame : G → G

/-- What the drivers are constructed with; the players are in the order of their ids. -/
structure Drivers.Config (ι PS G : Type) where
  players : List ι
  nodup : players.Nodup
  maxNoTurns : ℕ
  playerMaxNoTurns : ι → ℕ
  playerInstructionLimitTurn : ℤ
  playerInstructionLimitGame : ℤ
  callees : Callees ι PS G
  /-- The state syncer and the logger, as they are constructed. -/
  game : G

namespace MainDriver

/-- The exits of `Run`. -/
inductive Ending where
  | cancelled
  /-- An instruction limit was exceeded, or the timer has expired. -/
  | aborted
  | completed
  deriving DecidableEq, Repr

/-- Where `Start` and `Run` are.  In the loops over the players, `rest` is the players
whose round has not begun. -/
inductive Pc (ι : Type) where
  /-- The stores of `is_player_running` and `instruction_counter` in `Start`. -/
  | initRunning (rest : List ι)
  | initCounter (p : ι) (rest : List ι)
  | initPlayerStates
  | startTimer
  /-- `i < max_no_turns`. -/
  | turnHead
  /-- The head of the loop over the players, and the store of `is_player_running`. -/
  | playerHead (rest : List ι)
  /-- The three loads in the condition of the waiting loop. -/
  | waitRunning (p : ι) (rest : List ι)
  | waitTimedOut (p : ι) (rest : List ι)
  | waitCancel (p : ι) (rest : List ι)
  | checkCancel (p : ι) (rest : List ι)
  /-- The loads of `instruction_counter`. -/
  | checkLimitGame (p : ι) (rest : List ι)
  | checkLimitTurn (p : ι) (rest : List ι)
  | logInstructionCount (p : ι) (rest : List ι)
  | checkEnd
  | executePlayerCommands
  | updateMainState
  | updatePlayerStates
  | getScores
  | logFinalGameParams (ending : Ending)
  | writeGame (ending : Ending)
  | cancelTimer (ending : Ending)
  | clearCancel
  | returned (ending : Ending)
  deriving DecidableEq, Repr

/-- The steps in which the main driver has the state syncer work on the states. -/
def Pc.IsSync {ι : Type} : Pc ι → Prop
  | executePlayerCommands | updateMainState | updatePlayerStates => True
  | _ => False

end MainDriver

/-- The main driver. -/
structure MainDriver (ι G : Type) where
  pc : MainDriver.Pc ι
  /-- `i`. -/
  turn : ℕ
  skipPlayerTurn : ι → Bool
  playerResults : ι → PlayerResult
  instructionCountExceeded : Bool
  isGameTimedOut : Bool
  isTimerRunning : Bool
  cancel : Bool
  /-- The state syncer, the logger, and the log file. -/
  game : G
  /-- How often the flag of each player was set. -/
  opened : ι → ℕ
  /-- What was read from the counter of each player since its flag was last set. -/
  reads : ι → List ℤ

namespace MainDriver

variable {ι PS G : Type}

/-- The driver when `Start` is called. -/
def start (players : List ι) (game : G) : MainDriver ι G where
  pc := .initRunning players
  turn := 0
  skipPlayerTurn := fun _ => false
  playerResults := fun _ => ⟨0, .undefined⟩
  instructionCountExceeded := false
  isGameTimedOut := false
  isTimerRunning := false
  cancel := false
  game := game
  opened := fun _ => 0
  reads := fun _ => []

variable [DecidableEq ι]

/-- Read the counter of a player. -/
def read (m : MainDriver ι G) (p : ι) (b : SharedBuffer PS) : MainDriver ι G :=
  { m with reads := update m.reads p (m.reads p ++ [b.instructionCounter]) }

/-- The copies of the state in the buffers. -/
def playerStates (buffers : ι → SharedBuffer PS) (p : ι) : PS := (buffers p).playerState

/-- Write copies of the state to the buffers. -/
def setPlayerStates (buffers : ι → SharedBuffer PS) (playerStates : ι → PS) (p : ι) :
    SharedBuffer PS :=
  { buffers p with playerState := playerStates p }

/-- The next step. -/
def step (cfg : Drivers.Config ι PS G) (m : MainDriver ι G) (buffers : ι → SharedBuffer PS) :
    Option (MainDriver ι G × (ι → SharedBuffer PS)) :=
  match m.pc with
  | .initRunning [] => some ({ m with pc := .initPlayerStates }, buffers)
  | .initRunning (p :: rest) =>
    some ({ m with pc := .initCounter p rest },
      update buffers p { buffers p with isPlayerRunning := false })
  | .initCounter p rest =>
    some ({ m with pc := .initRunning rest },
      update buffers p { buffers p with instructionCounter := 0 })
  | .initPlayerStates =>
    match cfg.callees.updatePlayerStates m.game (playerStates buffers) with
    | .ok (game, states) =>
      some ({ m with pc := .startTimer, game }, setPlayerStates buffers states)
    | .error _ => none
  | .startTimer =>
    some ({ m with pc := .turnHead, isGameTimedOut := false, isTimerRunning := true }, buffers)
  | .turnHead =>
    some ({ m with pc := if m.turn < cfg.maxNoTurns then .playerHead cfg.players else .getScores },
      buffers)
  | .playerHead [] => some ({ m with pc := .checkEnd }, buffers)
  -- let the player do its updates
  | .playerHead (p :: rest) =>
    some ({ m with
        pc := .waitRunning p rest
        opened := update m.opened p (m.opened p + 1)
        reads := update m.reads p [] },
      update buffers p { buffers p with isPlayerRunning := true })
  | .waitRunning p rest =>
    some ({ m with
      pc := if (buffers p).isPlayerRunning then .waitTimedOut p rest else .checkCancel p rest },
      buffers)
  | .waitTimedOut p rest =>
    some ({ m with pc := if m.isGameTimedOut then .checkCancel p rest else .waitCancel p rest },
      buffers)
  | .waitCancel p rest =>
    some ({ m with pc := if m.cancel then .checkCancel p rest else .waitRunning p rest }, buffers)
  | .checkCancel p rest =>
    some ({ m with
      pc := if m.cancel then .logFinalGameParams .cancelled else .checkLimitGame p rest }, buffers)
  | .checkLimitGame p rest =>
    let b := buffers p
    let m := m.read p b
    if b.instructionCounter > cfg.playerInstructionLimitGame then
      some ({ m with
        pc := .logInstructionCount p rest
        playerResults := update m.playerResults p
          { m.playerResults p with status := .exceededInstructionLimit }
        instructionCountExceeded := true }, buffers)
    else some ({ m with pc := .checkLimitTurn p rest }, buffers)
  | .checkLimitTurn p rest =>
    let b := buffers p
    some ({ m.read p b with
      pc := .logInstructionCount p rest
      skipPlayerTurn := update m.skipPlayerTurn p
        (decide (b.instructionCounter > cfg.playerInstructionLimitTurn)) }, buffers)
  | .logInstructionCount p rest =>
    let b := buffers p
    some ({ m.read p b with
      pc := .playerHead rest
      game := cfg.callees.logInstructionCount p b.instructionCounter m.game }, buffers)
  -- the game is forfeit, or has to stop
  | .checkEnd =>
    some ({ m with
      pc := if m.instructionCountExceeded ∨ m.isGameTimedOut then .logFinalGameParams .aborted
        else .executePlayerCommands }, buffers)
  | .executePlayerCommands =>
    match cfg.callees.executePlayerCommands (playerStates buffers) m.skipPlayerTurn m.game with
    | .ok game => some ({ m with pc := .updateMainState, game }, buffers)
    | .error _ => none
  | .updateMainState =>
    match cfg.callees.updateMainState m.game with
    | .ok game => some ({ m with pc := .updatePlayerStates, game }, buffers)
    | .error _ => none
  | .updatePlayerStates =>
    match cfg.callees.updatePlayerStates m.game (playerStates buffers) with
    | .ok (game, states) =>
      some ({ m with pc := .turnHead, turn := m.turn + 1, game }, setPlayerStates buffers states)
    | .error _ => none
  | .getScores =>
    some ({ m with
      pc := .logFinalGameParams .completed
      playerResults := fun p =>
        if p ∈ cfg.players then ⟨cfg.callees.getScores m.game p, .normal⟩ else m.playerResults p },
      buffers)
  | .logFinalGameParams ending =>
    some ({ m with pc := .writeGame ending, game := cfg.callees.logFinalGameParams m.game },
      buffers)
  | .writeGame ending =>
    some ({ m with pc := .cancelTimer ending, game := cfg.callees.writeGame m.game }, buffers)
  -- the flag is cleared on one of the three exits
  | .cancelTimer ending =>
    some ({ m with pc := if ending = .cancelled then .clearCancel else .returned ending }, buffers)
  | .clearCancel => some ({ m with pc := .returned .cancelled, cancel := false }, buffers)
  | .returned _ => none

/-! ## The branches of a step -/

/-- What a step can do, one constructor for each branch. -/
inductive Steps (cfg : Drivers.Config ι PS G) (m : MainDriver ι G) (buffers : ι → SharedBuffer PS) :
    MainDriver ι G → (ι → SharedBuffer PS) → Prop
  | initEnd (hpc : m.pc = .initRunning []) :
    Steps cfg m buffers { m with pc := .initPlayerStates } buffers
  | initRunning {p : ι} {rest : List ι} (hpc : m.pc = .initRunning (p :: rest)) :
    Steps cfg m buffers { m with pc := .initCounter p rest }
      (update buffers p { buffers p with isPlayerRunning := false })
  | initCounter {p : ι} {rest : List ι} (hpc : m.pc = .initCounter p rest) :
    Steps cfg m buffers { m with pc := .initRunning rest }
      (update buffers p { buffers p with instructionCounter := 0 })
  | initPlayerStates {game : G} {states : ι → PS} (hpc : m.pc = .initPlayerStates)
    (hcall : cfg.callees.updatePlayerStates m.game (playerStates buffers) = .ok (game, states)) :
    Steps cfg m buffers { m with pc := .startTimer, game } (setPlayerStates buffers states)
  | startTimer (hpc : m.pc = .startTimer) :
    Steps cfg m buffers { m with pc := .turnHead, isGameTimedOut := false, isTimerRunning := true }
      buffers
  | turnBegins (hpc : m.pc = .turnHead) (hturn : m.turn < cfg.maxNoTurns) :
    Steps cfg m buffers { m with pc := .playerHead cfg.players } buffers
  | turnsEnd (hpc : m.pc = .turnHead) (hturn : ¬ m.turn < cfg.maxNoTurns) :
    Steps cfg m buffers { m with pc := .getScores } buffers
  | playersEnd (hpc : m.pc = .playerHead []) :
    Steps cfg m buffers { m with pc := .checkEnd } buffers
  | setRunning {p : ι} {rest : List ι} (hpc : m.pc = .playerHead (p :: rest)) :
    Steps cfg m buffers { m with
        pc := .waitRunning p rest
        opened := update m.opened p (m.opened p + 1)
        reads := update m.reads p [] }
      (update buffers p { buffers p with isPlayerRunning := true })
  | running {p : ι} {rest : List ι} (hpc : m.pc = .waitRunning p rest)
    (hrunning : (buffers p).isPlayerRunning = true) :
    Steps cfg m buffers { m with pc := .waitTimedOut p rest } buffers
  | notRunning {p : ι} {rest : List ι} (hpc : m.pc = .waitRunning p rest)
    (hrunning : (buffers p).isPlayerRunning = false) :
    Steps cfg m buffers { m with pc := .checkCancel p rest } buffers
  | timedOut {p : ι} {rest : List ι} (hpc : m.pc = .waitTimedOut p rest)
    (htimedOut : m.isGameTimedOut = true) :
    Steps cfg m buffers { m with pc := .checkCancel p rest } buffers
  | notTimedOut {p : ι} {rest : List ι} (hpc : m.pc = .waitTimedOut p rest)
    (htimedOut : m.isGameTimedOut = false) :
    Steps cfg m buffers { m with pc := .waitCancel p rest } buffers
  | cancelSeen {p : ι} {rest : List ι} (hpc : m.pc = .waitCancel p rest)
    (hcancel : m.cancel = true) :
    Steps cfg m buffers { m with pc := .checkCancel p rest } buffers
  | waitOn {p : ι} {rest : List ι} (hpc : m.pc = .waitCancel p rest) (hcancel : m.cancel = false) :
    Steps cfg m buffers { m with pc := .waitRunning p rest } buffers
  | cancelled {p : ι} {rest : List ι} (hpc : m.pc = .checkCancel p rest)
    (hcancel : m.cancel = true) :
    Steps cfg m buffers { m with pc := .logFinalGameParams .cancelled } buffers
  | notCancelled {p : ι} {rest : List ι} (hpc : m.pc = .checkCancel p rest)
    (hcancel : m.cancel = false) :
    Steps cfg m buffers { m with pc := .checkLimitGame p rest } buffers
  | exceedsGame {p : ι} {rest : List ι} (hpc : m.pc = .checkLimitGame p rest)
    (hcount : (buffers p).instructionCounter > cfg.playerInstructionLimitGame) :
    Steps cfg m buffers { m.read p (buffers p) with
        pc := .logInstructionCount p rest
        playerResults := update m.playerResults p
          { m.playerResults p with status := .exceededInstructionLimit }
        instructionCountExceeded := true } buffers
  | withinGame {p : ι} {rest : List ι} (hpc : m.pc = .checkLimitGame p rest)
    (hcount : ¬ (buffers p).instructionCounter > cfg.playerInstructionLimitGame) :
    Steps cfg m buffers { m.read p (buffers p) with pc := .checkLimitTurn p rest } buffers
  | checkLimitTurn {p : ι} {rest : List ι} (hpc : m.pc = .checkLimitTurn p rest) :
    Steps cfg m buffers { m.read p (buffers p) with
        pc := .logInstructionCount p rest
        skipPlayerTurn := update m.skipPlayerTurn p
          (decide ((buffers p).instructionCounter > cfg.playerInstructionLimitTurn)) } buffers
  | logInstructionCount {p : ι} {rest : List ι} (hpc : m.pc = .logInstructionCount p rest) :
    Steps cfg m buffers { m.read p (buffers p) with
        pc := .playerHead rest
        game := cfg.callees.logInstructionCount p (buffers p).instructionCounter m.game } buffers
  | aborted (hpc : m.pc = .checkEnd)
    (hover : m.instructionCountExceeded = true ∨ m.isGameTimedOut = true) :
    Steps cfg m buffers { m with pc := .logFinalGameParams .aborted } buffers
  | notAborted (hpc : m.pc = .checkEnd) (hexceeded : m.instructionCountExceeded = false)
    (htimedOut : m.isGameTimedOut = false) :
    Steps cfg m buffers { m with pc := .executePlayerCommands } buffers
  | executePlayerCommands {game : G} (hpc : m.pc = .executePlayerCommands)
    (hcall : cfg.callees.executePlayerCommands (playerStates buffers) m.skipPlayerTurn m.game =
      .ok game) :
    Steps cfg m buffers { m with pc := .updateMainState, game } buffers
  | updateMainState {game : G} (hpc : m.pc = .updateMainState)
    (hcall : cfg.callees.updateMainState m.game = .ok game) :
    Steps cfg m buffers { m with pc := .updatePlayerStates, game } buffers
  | updatePlayerStates {game : G} {states : ι → PS} (hpc : m.pc = .updatePlayerStates)
    (hcall : cfg.callees.updatePlayerStates m.game (playerStates buffers) = .ok (game, states)) :
    Steps cfg m buffers { m with pc := .turnHead, turn := m.turn + 1, game }
      (setPlayerStates buffers states)
  | getScores (hpc : m.pc = .getScores) :
    Steps cfg m buffers { m with
      pc := .logFinalGameParams .completed
      playerResults := fun p =>
        if p ∈ cfg.players then ⟨cfg.callees.getScores m.game p, .normal⟩
        else m.playerResults p } buffers
  | logFinalGameParams {ending : Ending} (hpc : m.pc = .logFinalGameParams ending) :
    Steps cfg m buffers
      { m with pc := .writeGame ending, game := cfg.callees.logFinalGameParams m.game } buffers
  | writeGame {ending : Ending} (hpc : m.pc = .writeGame ending) :
    Steps cfg m buffers { m with pc := .cancelTimer ending, game := cfg.callees.writeGame m.game }
      buffers
  | stopsToClear (hpc : m.pc = .cancelTimer .cancelled) :
    Steps cfg m buffers { m with pc := .clearCancel } buffers
  | stops {ending : Ending} (hpc : m.pc = .cancelTimer ending) (hending : ending ≠ .cancelled) :
    Steps cfg m buffers { m with pc := .returned ending } buffers
  | clearCancel (hpc : m.pc = .clearCancel) :
    Steps cfg m buffers { m with pc := .returned .cancelled, cancel := false } buffers

theorem steps_of_step {cfg : Drivers.Config ι PS G} {m m' : MainDriver ι G}
    {buffers buffers' : ι → SharedBuffer PS} (h : step cfg m buffers = some (m', buffers')) :
    Steps cfg m buffers m' buffers' := by
  cases hpc : m.pc with
  | initRunning rest =>
    cases rest with
    | nil =>
      simp only [step, hpc, Option.some.injEq, Prod.mk.injEq] at h
      obtain ⟨rfl, rfl⟩ := h
      exact .initEnd hpc
    | cons p rest =>
      simp only [step, hpc, Option.some.injEq, Prod.mk.injEq] at h
      obtain ⟨rfl, rfl⟩ := h
      exact .initRunning hpc
  | initCounter | startTimer | checkLimitTurn | logInstructionCount | getScores
  | logFinalGameParams | writeGame | clearCancel =>
    simp only [step, hpc, Option.some.injEq, Prod.mk.injEq] at h
    obtain ⟨rfl, rfl⟩ := h
    constructor
    exact hpc
  | initPlayerStates | executePlayerCommands | updateMainState | updatePlayerStates =>
    simp only [step, hpc] at h
    split at h
    · rename_i hcall
      obtain ⟨rfl, rfl⟩ := Prod.mk.inj (Option.some.inj h)
      constructor
      · exact hpc
      · exact hcall
    · simp at h
  | turnHead =>
    simp only [step, hpc, Option.some.injEq, Prod.mk.injEq] at h
    obtain ⟨rfl, rfl⟩ := h
    split
    · exact .turnBegins hpc ‹_›
    · exact .turnsEnd hpc ‹_›
  | playerHead rest =>
    cases rest with
    | nil =>
      simp only [step, hpc, Option.some.injEq, Prod.mk.injEq] at h
      obtain ⟨rfl, rfl⟩ := h
      exact .playersEnd hpc
    | cons p rest =>
      simp only [step, hpc, Option.some.injEq, Prod.mk.injEq] at h
      obtain ⟨rfl, rfl⟩ := h
      exact .setRunning hpc
  | waitRunning p rest =>
    simp only [step, hpc, Option.some.injEq, Prod.mk.injEq] at h
    obtain ⟨rfl, rfl⟩ := h
    by_cases hrunning : (buffers p).isPlayerRunning = true
    · rw [if_pos hrunning]
      exact .running hpc hrunning
    · rw [if_neg hrunning]
      exact .notRunning hpc (Bool.eq_false_of_not_eq_true hrunning)
  | waitTimedOut p rest =>
    simp only [step, hpc, Option.some.injEq, Prod.mk.injEq] at h
    obtain ⟨rfl, rfl⟩ := h
    by_cases htimedOut : m.isGameTimedOut = true
    · rw [if_pos htimedOut]
      exact .timedOut hpc htimedOut
    · rw [if_neg htimedOut]
      exact .notTimedOut hpc (Bool.eq_false_of_not_eq_true htimedOut)
  | waitCancel p rest =>
    simp only [step, hpc, Option.some.injEq, Prod.mk.injEq] at h
    obtain ⟨rfl, rfl⟩ := h
    by_cases hcancel : m.cancel = true
    · rw [if_pos hcancel]
      exact .cancelSeen hpc hcancel
    · rw [if_neg hcancel]
      exact .waitOn hpc (Bool.eq_false_of_not_eq_true hcancel)
  | checkCancel p rest =>
    simp only [step, hpc, Option.some.injEq, Prod.mk.injEq] at h
    obtain ⟨rfl, rfl⟩ := h
    by_cases hcancel : m.cancel = true
    · rw [if_pos hcancel]
      exact .cancelled hpc hcancel
    · rw [if_neg hcancel]
      exact .notCancelled hpc (Bool.eq_false_of_not_eq_true hcancel)
  | checkLimitGame p rest =>
    simp only [step, hpc] at h
    split at h
    · obtain ⟨rfl, rfl⟩ := Prod.mk.inj (Option.some.inj h)
      exact .exceedsGame hpc ‹_›
    · obtain ⟨rfl, rfl⟩ := Prod.mk.inj (Option.some.inj h)
      exact .withinGame hpc ‹_›
  | checkEnd =>
    simp only [step, hpc, Option.some.injEq, Prod.mk.injEq] at h
    obtain ⟨rfl, rfl⟩ := h
    by_cases hover : m.instructionCountExceeded = true ∨ m.isGameTimedOut = true
    · rw [if_pos hover]
      exact .aborted hpc hover
    · rw [if_neg hover]
      rw [not_or, Bool.not_eq_true, Bool.not_eq_true] at hover
      exact .notAborted hpc hover.1 hover.2
  | cancelTimer ending =>
    simp only [step, hpc, Option.some.injEq, Prod.mk.injEq] at h
    obtain ⟨rfl, rfl⟩ := h
    by_cases hending : ending = .cancelled
    · subst hending
      exact .stopsToClear hpc
    · rw [if_neg hending]
      exact .stops hpc hending
  | returned ending => simp [step, hpc] at h

end MainDriver

end Simulator
