import Simulator.Drivers.Returning

/-!
# A match, played one after the other

What a match is meant to be, without threads and without shared buffers: in each turn the
code of each player is called, one after the other, in the order of the players; then the
state syncer works.  `play` is this program.

`played` is what there is instead: the drivers as they run, with the code of the players in
them.  A call of the code reads the copy of the state, writes to it, and returns, and between
the three anything else may happen.  The code is a function of what it remembers and of the
copy that it is called with; a call need not return.

## What `play` leaves out

There are no timers in it and nobody cancels, and so there are none in `played`: no program
without a clock can say when a timer fires.  There is no shared memory either.  The board of
`play` has one copy of the state for each player, which the player's code works on while it is
called and the state syncer afterwards, and the limits are compared with what the code has
answered, not with what a counter holds.

A call that does not return, of the code or of the state syncer, is an absence of a result; the
match has no result then, and the drivers wait, or have ended with an exception.
-/

namespace Simulator

open Foundation Function

/-- What a call of a player's code makes of its memory and of the copy of the state, with the
instruction count. -/
abbrev Update (Mem PS : Type) := Mem → PS → Option (Mem × PS × ℤ)

/-- How a match ends. -/
structure MatchResult (ι G : Type) where
  ending : MainDriver.Ending
  game : G
  playerResults : ι → PlayerResult

/-- What the program works on. -/
structure Board (ι PS G Mem : Type) where
  game : G
  memories : ι → Mem
  playerStates : ι → PS
  skipPlayerTurn : ι → Bool
  playerResults : ι → PlayerResult
  instructionCountExceeded : Bool

variable {ι PS G Mem : Type}

namespace Board

variable (cfg : Drivers.Config ι PS G)

/-- The logs are finalised and written. -/
def finish (ending : MainDriver.Ending) (b : Board ι PS G Mem) : MatchResult ι G where
  ending := ending
  game := cfg.callees.writeGame (cfg.callees.logFinalGameParams b.game)
  playerResults := b.playerResults

def executePlayerCommands (b : Board ι PS G Mem) : Option (Board ι PS G Mem) :=
  (cfg.callees.executePlayerCommands b.playerStates b.skipPlayerTurn b.game).toOption.map
    fun game => { b with game }

def updateMainState (b : Board ι PS G Mem) : Option (Board ι PS G Mem) :=
  (cfg.callees.updateMainState b.game).toOption.map fun game => { b with game }

def updatePlayerStates (b : Board ι PS G Mem) : Option (Board ι PS G Mem) :=
  (cfg.callees.updatePlayerStates b.game b.playerStates).toOption.map
    fun x => { b with game := x.1, playerStates := x.2 }

variable [DecidableEq ι]

/-- The game is over, and the players get their scores. -/
def complete (b : Board ι PS G Mem) : Board ι PS G Mem :=
  { b with playerResults := fun p =>
      if p ∈ cfg.players then ⟨cfg.callees.getScores b.game p, .normal⟩ else b.playerResults p }

/-- A player exceeds the limit of the game. -/
def forfeit (p : ι) (b : Board ι PS G Mem) : Board ι PS G Mem :=
  { b with
    playerResults := update b.playerResults p
      { b.playerResults p with status := .exceededInstructionLimit }
    instructionCountExceeded := true }

/-- A player is skipped if it exceeds the limit of the turn. -/
def setSkip (p : ι) (count : ℤ) (b : Board ι PS G Mem) : Board ι PS G Mem :=
  { b with skipPlayerTurn :=
      update b.skipPlayerTurn p (decide (count > cfg.playerInstructionLimitTurn)) }

omit [DecidableEq ι] in
def log (p : ι) (count : ℤ) (b : Board ι PS G Mem) : Board ι PS G Mem :=
  { b with game := cfg.callees.logInstructionCount p count b.game }

/-- The count of a player is compared with the limits, and logged. -/
def judge (p : ι) (count : ℤ) (b : Board ι PS G Mem) : Board ι PS G Mem :=
  (if count > cfg.playerInstructionLimitGame then b.forfeit p else b.setSkip cfg p count).log cfg p
    count

/-- What the code of a player did. -/
def answer (p : ι) (x : Mem × PS) (b : Board ι PS G Mem) : Board ι PS G Mem :=
  { b with memories := update b.memories p x.1, playerStates := update b.playerStates p x.2 }

variable (code : ι → Update Mem PS)

/-- The round of a player. -/
def playRound (p : ι) (b : Board ι PS G Mem) : Option (Board ι PS G Mem) :=
  (code p (b.memories p) (b.playerStates p)).map fun x =>
    (b.answer p (x.1, x.2.1)).judge cfg p x.2.2

/-- The rounds of some players. -/
def playRounds : List ι → Board ι PS G Mem → Option (Board ι PS G Mem)
  | [], b => some b
  | p :: ps, b => (b.playRound cfg code p).bind (playRounds ps)

/-- The end of a turn, with the turns to come. -/
def endTurn (later : Board ι PS G Mem → Option (MatchResult ι G)) (b : Board ι PS G Mem) :
    Option (MatchResult ι G) :=
  if b.instructionCountExceeded then some (b.finish cfg .aborted)
  else (b.executePlayerCommands cfg).bind fun b =>
    (b.updateMainState cfg).bind fun b => (b.updatePlayerStates cfg).bind later

/-- A number of turns. -/
def playTurns : ℕ → Board ι PS G Mem → Option (MatchResult ι G)
  | 0, b => some ((b.complete cfg).finish cfg .completed)
  | n + 1, b => (b.playRounds cfg code cfg.players).bind (endTurn cfg (playTurns n))

end Board

namespace Drivers

variable (cfg : Config ι PS G)

/-- The board before the match. -/
def board (memories : ι → Mem) (playerStates : ι → PS) : Board ι PS G Mem where
  game := cfg.game
  memories := memories
  playerStates := playerStates
  skipPlayerTurn := fun _ => false
  playerResults := fun _ => ⟨0, .undefined⟩
  instructionCountExceeded := false

variable [DecidableEq ι] (code : ι → Update Mem PS)

/-- **A match.** -/
def play (memories : ι → Mem) (playerStates : ι → PS) : Option (MatchResult ι G) :=
  ((board cfg memories playerStates).updatePlayerStates cfg).bind
    (Board.playTurns cfg code cfg.maxNoTurns)

/-! ## The drivers, with the code of the players -/

/-- Where the code of a player is. -/
inductive Thought (Mem PS : Type) where
  /-- It has not looked at the copy of the state yet, or is not running. -/
  | resting
  | decided (memory : Mem) (playerState : PS) (instructionCount : ℤ)
  /-- It has written to the copy of the state. -/
  | answered (memory : Mem) (instructionCount : ℤ)

/-- What the code of a player remembers, and where it is. -/
structure Mind (Mem PS : Type) where
  memory : Mem
  thought : Thought Mem PS

/-- The drivers with the code of the players. -/
structure Played (ι PS G Mem : Type) where
  system : System ι PS G
  minds : ι → Mind Mem PS

/-- The atomic steps. -/
inductive Move (ι : Type) where
  | main
  | player (p : ι)
  /-- The code of a player reads the copy of the state. -/
  | reads (p : ι)
  | writes (p : ι)
  | returns (p : ι)
  deriving DecidableEq

/-- What the code of a player is going to do, when it reads. -/
def Mind.decide (mind : Mind Mem PS) (update : Update Mem PS) (playerState : PS) :
    Option (Mind Mem PS) :=
  match mind.thought with
  | .resting => (update mind.memory playerState).map fun x =>
      { mind with thought := .decided x.1 x.2.1 x.2.2 }
  | .decided _ _ _ | .answered _ _ => none

namespace Played

/-- One atomic step. -/
def step (x : Played ι PS G Mem) : Move ι → Option (Played ι PS G Mem)
  | .main => (x.system.step cfg .main).map fun system => { x with system }
  | .player p => (x.system.step cfg (.player p)).map fun system => { x with system }
  | .reads p =>
    if (x.system.drivers p).pc = .code then
      ((x.minds p).decide (code p) (x.system.buffers p).playerState).map fun mind =>
        { x with minds := update x.minds p mind }
    else none
  | .writes p =>
    match (x.minds p).thought with
    | .decided memory playerState instructionCount =>
      (x.system.step cfg (.codeWrites p playerState)).map fun system =>
        { system, minds := update x.minds p
            { x.minds p with thought := .answered memory instructionCount } }
    | .resting | .answered _ _ => none
  | .returns p =>
    match (x.minds p).thought with
    | .answered memory instructionCount =>
      (x.system.step cfg (.codeReturns p instructionCount)).map fun system =>
        { system, minds := update x.minds p ⟨memory, .resting⟩ }
    | .resting | .decided _ _ _ => none

end Played

/-- The transition system of a match.  No timer fires, and nobody cancels. -/
def played (memories : ι → Mem) (playerStates : ι → PS) :
    TransitionSystem (Played ι PS G Mem) (Move ι) where
  IsInitial x := IsStarted cfg x.system ∧ (∀ p, x.minds p = ⟨memories p, .resting⟩) ∧
    ∀ p, (x.system.buffers p).playerState = playerStates p
  step := Played.step cfg code

end Drivers

end Simulator
