import Simulator.State.Utilities

/-!
# The player driver

`PlayerDriver::Run`, one atomic step at a time.  A step is a load or a store of one
variable that another thread or process can see; what a driver does between two of them
nobody can observe.

The player's code is not in the model: while the driver is in it, the code may write to
the player's copy of the state, and when it returns, the instruction counter has some
value.  `calls` and `written` are history: no step depends on them.

The buffer of a player has the flag, the counter, and the copy of the state.  Each of the three is
written by both sides, the flag to hand the buffer over in either direction.  The driver waits in
a loop until the flag is set or its own timer has fired, calls the code, writes the count, and
resets the flag; a timer that fires while the code is running is seen after the turn.  The number
of turns is the driver's own, and when it has played them it is finished, whatever the main driver
still expects of it.
-/

namespace Simulator

/-- The buffer a player driver shares with the main driver. -/
structure SharedBuffer (PS : Type) where
  /-- True while the player is executing its turn. -/
  isPlayerRunning : Bool
  /-- The number of instructions executed in the present turn. -/
  instructionCounter : ℤ
  /-- The player's copy of the state. -/
  playerState : PS

namespace PlayerDriver

/-- Where `Run` is. -/
inductive Pc where
  /-- `i < max_no_turns`. -/
  | turnHead
  /-- The load of `is_player_running` in the condition of the waiting loop. -/
  | waitRunning
  /-- The load of `is_game_timed_out` in the condition of the waiting loop. -/
  | waitTimedOut
  /-- The waiting loop is over, because the flag was seen true or because of the timeout. -/
  | checkTimedOut (sawRunning : Bool)
  /-- In the player's code. -/
  | code
  | writeCountToShm (instructionCount : ℤ)
  | resetRunning
  | finished
  deriving DecidableEq, Repr

/-- The driver is between seeing the flag true and resetting it. -/
def Pc.IsBusy : Pc → Prop
  | checkTimedOut sawRunning => sawRunning = true
  | code | writeCountToShm _ | resetRunning => True
  | turnHead | waitRunning | waitTimedOut | finished => False

end PlayerDriver

/-- A player driver. -/
structure PlayerDriver where
  pc : PlayerDriver.Pc
  /-- `i`. -/
  turn : ℕ
  isGameTimedOut : Bool
  /-- How many calls of the player's code have returned. -/
  calls : ℕ
  /-- The counts written to the buffer, oldest first. -/
  written : List ℤ
  deriving DecidableEq, Repr

namespace PlayerDriver

variable {PS : Type}

/-- `Start`. -/
def start : PlayerDriver where
  pc := .turnHead
  turn := 0
  isGameTimedOut := false
  calls := 0
  written := []

/-- The next step of `Run`; in the player's code it is the code's turn. -/
def step (maxNoTurns : ℕ) (d : PlayerDriver) (b : SharedBuffer PS) :
    Option (PlayerDriver × SharedBuffer PS) :=
  match d.pc with
  | .turnHead => some ({ d with pc := if d.turn < maxNoTurns then .waitRunning else .finished }, b)
  | .waitRunning =>
    some ({ d with pc := if b.isPlayerRunning then .checkTimedOut true else .waitTimedOut }, b)
  | .waitTimedOut =>
    some ({ d with pc := if d.isGameTimedOut then .checkTimedOut false else .waitRunning }, b)
  -- if the game time limit was exceeded, the player's code is stopped
  | .checkTimedOut _ => some ({ d with pc := if d.isGameTimedOut then .finished else .code }, b)
  | .code => none
  | .writeCountToShm instructionCount =>
    some ({ d with pc := .resetRunning, written := d.written ++ [instructionCount] },
      { b with instructionCounter := instructionCount })
  -- let the main driver synchronize states now
  | .resetRunning =>
    some ({ d with pc := .turnHead, turn := d.turn + 1 }, { b with isPlayerRunning := false })
  | .finished => none

/-- The player's code writes to its copy of the state. -/
def codeWrites (playerState : PS) (d : PlayerDriver) (b : SharedBuffer PS) :
    Option (PlayerDriver × SharedBuffer PS) :=
  match d.pc with
  | .code => some (d, { b with playerState })
  | _ => none

/-- The player's code returns. -/
def codeReturns (instructionCount : ℤ) (d : PlayerDriver) (b : SharedBuffer PS) :
    Option (PlayerDriver × SharedBuffer PS) :=
  match d.pc with
  | .code => some ({ d with pc := .writeCountToShm instructionCount, calls := d.calls + 1 }, b)
  | _ => none

/-- The timer of the player driver fires. -/
def timeOut (d : PlayerDriver) : PlayerDriver := { d with isGameTimedOut := true }

end PlayerDriver

end Simulator
