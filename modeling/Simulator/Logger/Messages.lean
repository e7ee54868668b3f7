import Simulator.State.Utilities

/-!
# The messages of the game log

The messages of `game.proto`.  A field that a message does not set has the default of
its type.  Integer fields are `int32` unless they say otherwise, and what is written
to them is converted first.

`readFrames` is the reader of the towers: it adds a tower when it first sees an id,
overwrites hp and level when it sees the id again, and removes the tower when it is
dead.

The reader is not in the repository, which only writes logs.  It is what the comments of
`game.proto` say of the fields: the position, the owner and the mark of a base are sent with the
first message for a tower, and later messages have what has changed; a tower that is gone is sent
once more, as dead.  So a frame cannot be read by itself, and the reader goes through all frames
from the first one on with a table of the towers that it knows.

An `int32` field keeps a value modulo `2 ^ 32`, and a value that fits is read as it was written.
Which values have to fit is a matter of what is logged.
-/

namespace Simulator

/-- Conversion to `int32`, modulo `2 ^ 32`. -/
def int32 (n : ℤ) : ℤ := n.bmod (2 ^ 32)

/-- The value fits an `int32` field. -/
def IsInt32 (n : ℤ) : Prop := -2 ^ 31 ≤ n ∧ n < 2 ^ 31

instance (n : ℤ) : Decidable (IsInt32 n) := inferInstanceAs (Decidable (_ ∧ _))

theorem IsInt32.int32_eq {n : ℤ} (h : IsInt32 n) : int32 n = n := by
  unfold IsInt32 at h
  exact Int.bmod_eq_of_le_mul_two (by omega) (by omega)

namespace Proto

/-- `SOLDIER_STATE`. -/
inductive SoldierState where
  | idle
  | move
  | attack
  | dead
  deriving DecidableEq, Repr

/-- `Soldier`. -/
structure Soldier where
  hp : ℤ
  x : ℤ
  y : ℤ
  state : SoldierState
  attackTargetX : ℤ
  /-- Set to -1 if not attacking. -/
  attackTargetY : ℤ
  deriving DecidableEq, Repr

/-- `Tower`. -/
structure Tower where
  id : ℤ
  /-- Sent first time only, as the position and the base flag are. -/
  playerId : ℤ := 0
  hp : ℤ := 0
  x : ℤ := 0
  y : ℤ := 0
  isBase : Bool := false
  towerLevel : ℤ := 0
  isDead : Bool := false
  deriving DecidableEq, Repr

/-- `GameState`: the state of a game at a particular frame. -/
structure GameState where
  soldiers : List Soldier
  towers : List Tower
  /-- Of type `int64`, as the instruction counts are. -/
  money : List ℤ
  instructionCounts : List ℤ
  /-- The error codes of each player. -/
  playerErrors : List (List ℤ)
  deriving DecidableEq, Repr

/-- `Game`: a sequence of frames, and what does not change. -/
structure Game where
  towerRanges : List ℤ := []
  towerMaxHps : List ℤ := []
  soldierMaxHp : ℤ := 0
  errorMap : ℤ → Option String := fun _ => none
  instLimitTurn : ℤ := 0
  instLimitGame : ℤ := 0
  terrainSize : ℤ := 0
  terrainElementSize : ℤ := 0
  states : List GameState := []

end Proto

/-! ## The reader -/

/-- What the reader knows of a tower. -/
structure TowerView where
  id : ℤ
  playerId : ℤ
  hp : ℤ
  x : ℤ
  y : ℤ
  isBase : Bool
  towerLevel : ℤ
  deriving DecidableEq, Repr

/-- Read one entry for a tower. -/
def readTower (views : ℤ → Option TowerView) (tower : Proto.Tower) : ℤ → Option TowerView :=
  if tower.isDead then Function.update views tower.id none
  else match views tower.id with
    | none => Function.update views tower.id (some
        { id := tower.id
          playerId := tower.playerId
          hp := tower.hp
          x := tower.x
          y := tower.y
          isBase := tower.isBase
          towerLevel := tower.towerLevel })
    | some view => Function.update views tower.id (some
        { view with hp := tower.hp, towerLevel := tower.towerLevel })

/-- Read the towers of some frames, from the first frame on. -/
def readFrames (frames : List Proto.GameState) : ℤ → Option TowerView :=
  (frames.flatMap Proto.GameState.towers).foldl readTower fun _ => none

/-- One more frame. -/
theorem readFrames_concat (frames : List Proto.GameState) (frame : Proto.GameState) :
    readFrames (frames ++ [frame]) = frame.towers.foldl readTower (readFrames frames) := by
  simp [readFrames]

end Simulator
