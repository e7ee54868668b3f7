import Simulator.State.TowerManager
import Simulator.State.SoldierStates

/-!
# The main state

`State` owns every object of a game.  Its command methods hand a command to the
actor or the tower manager it is for, and `update` advances the game by a turn:
the tower managers first, then the updates of all soldiers, then their late
updates.

The source has vectors of owned soldiers and shared pointers to a map, a money manager and a path
planner that other objects have pointers to as well.  Here the state has the objects themselves,
once each, and what has a pointer in the source gets what it points to when its methods run: a
soldier the actor behind its target pointer and the money (`runSoldier`), a tower manager the
money, the map and the counter of actor ids (`towerEnv`).  What the method leaves is written back
to where it came from.

A pointer with nothing behind it is a fault when it is followed.  That a game never does so is a
theorem about the model, not an assumption in it.

`updateInOrder` takes the order in which each of the three loops visits the players; the source's
order is `PlayerId.all`.  The parameter is there for statements about the other order.
-/

namespace Simulator

open Foundation

/-- The main state of a game. -/
@[ext]
structure State (K : Type) where
  soldiers : PlayerId → List (Soldier K)
  map : GameMap
  moneyManager : MoneyManager
  towerManagers : PlayerId → TowerManager K
  /-- The static counter of `Actor`. -/
  actorIdIncrement : ℤ

namespace TowerManager

variable {K : Type}

/-- The towers whose memory has not been released yet. -/
def allocatedTowers (m : TowerManager K) : List (Tower K) :=
  m.towers ++ m.towersToDelete1 ++ m.towersToDelete0

/-- Write a tower back to where it is stored. -/
def replaceTower (m : TowerManager K) (t : Tower K) : TowerManager K :=
  let replace := List.map fun u : Tower K => if u.id = t.id then t else u
  { m with
    towers := replace m.towers
    towersToDelete0 := replace m.towersToDelete0
    towersToDelete1 := replace m.towersToDelete1 }

end TowerManager

namespace State

variable {K : Type}

/-- The towers of a player. -/
def towers (st : State K) (p : PlayerId) : List (Tower K) := (st.towerManagers p).towers

/-! ## Memory -/

/-- The object behind a pointer; a dangling pointer has none. -/
def deref (st : State K) : ActorPtr → Option (Actor K)
  | .soldier p i => (st.soldiers p)[i]?.map Actor.soldier
  | .tower p id =>
    ((st.towerManagers p).allocatedTowers.find? fun t => t.id = id).map Actor.tower

/-- Write a soldier back. -/
def setSoldier (st : State K) (p : PlayerId) (i : ℕ) (s : Soldier K) : State K :=
  { st with soldiers := Function.update st.soldiers p ((st.soldiers p).set i s) }

/-- Replace the tower manager of a player. -/
def setTowerManager (st : State K) (p : PlayerId) (m : TowerManager K) : State K :=
  { st with towerManagers := Function.update st.towerManagers p m }

/-- Write an actor back to where the pointer points. -/
def setActor (st : State K) : ActorPtr → Actor K → State K
  | .soldier p i, .soldier s => st.setSoldier p i s
  | .tower p _, .tower t => st.setTowerManager p ((st.towerManagers p).replaceTower t)
  | _, _ => st

/-- Run a method of a soldier on the objects it reaches, and write them back. -/
def runSoldier (method : Frame K → Except Fault (Frame K)) (p : PlayerId) (st : State K) (i : ℕ) :
    Except Fault (State K) := do
  let s ← vectorAt (st.soldiers p) i
  let f ← method {
    soldier := s
    target := s.attackTarget.bind st.deref
    moneyManager := st.moneyManager }
  let st := { st with moneyManager := f.moneyManager }
  let st := match s.attackTarget, f.target with
    | some ptr, some actor => st.setActor ptr actor
    | _, _ => st
  return st.setSoldier p i f.soldier

/-- What the tower manager of a player reaches. -/
def towerEnv (st : State K) (p : PlayerId) : TowerEnv K where
  manager := st.towerManagers p
  moneyManager := st.moneyManager
  map := st.map
  actorIdIncrement := st.actorIdIncrement

/-- Write back what the tower manager of a player reaches. -/
def setTowerEnv (st : State K) (p : PlayerId) (e : TowerEnv K) : State K :=
  { st.setTowerManager p e.manager with
    moneyManager := e.moneyManager
    map := e.map
    actorIdIncrement := e.actorIdIncrement }

/-! ## Commands -/

/-- The index of a soldier in the vector of its player. -/
def getSoldierById (st : State K) (actorId : ℤ) (p : PlayerId) : Except Fault ℕ := do
  let soldiersPerTeam : ℤ := (st.soldiers .player1).length
  if actorId < 0 then .error (.outOfRange "Invalid actor_id, cannot be negative")
  else if actorId > 2 * soldiersPerTeam - 1 then
    .error (.outOfRange "Invalid actor_id, no such soldier")
  else
    -- soldiers are in ascending order by actor id
    let indexOfSoldier := actorId - soldiersPerTeam * p.index
    let _ ← vectorAt (st.soldiers p) indexOfSoldier
    return indexOfSoldier.toNat

/-- `MoveSoldier`. -/
def moveSoldier (st : State K) (p : PlayerId) (soldierId : ℤ) (position : Vector K) :
    Except Fault (State K) := do
  let i ← st.getSoldierById soldierId p
  let s ← vectorAt (st.soldiers p) i
  return st.setSoldier p i (s.move position)

/-- `AttackActor`. -/
def attackActor (st : State K) (p : PlayerId) (soldierId actorId : ℤ) :
    Except Fault (State K) := do
  let i ← st.getSoldierById soldierId p
  let s ← vectorAt (st.soldiers p) i
  -- it is a soldier if the id is below the number of soldiers, which is unsigned
  if 0 ≤ actorId ∧ actorId < 2 * (st.soldiers .player1).length then
    let target ← st.getSoldierById actorId p.opponent
    return st.setSoldier p i (s.attack (.soldier p.opponent target))
  else
    let target ← (st.towerManagers p.opponent).getTowerById actorId
    return st.setSoldier p i (s.attack (.tower p.opponent target.id))

/-- `BuildTower`. -/
def buildTower (st : State K) (p : PlayerId) (position : Vector K) : State K :=
  st.setTowerManager p ((st.towerManagers p).buildTower position)

/-- `UpgradeTower`. -/
def upgradeTower (st : State K) (p : PlayerId) (towerId : ℤ) : State K :=
  st.setTowerManager p ((st.towerManagers p).upgradeTower towerId)

/-- `SuicideTower`. -/
def suicideTower (st : State K) (p : PlayerId) (towerId : ℤ) : State K :=
  st.setTowerManager p ((st.towerManagers p).suicideTower towerId)

/-! ## The update -/

section Update

variable [Field K] [LinearOrder K] [FloorRing K]

/-- Update the tower manager of one player. -/
def updateTowers (c : Constants K) (st : State K) (p : PlayerId) : Except Fault (State K) :=
  match TowerEnv.update c (st.towerEnv p) with
  | .ok e => .ok (st.setTowerEnv p e)
  | .error (fault, _) => .error fault

/-- Run a method on every soldier of one player. -/
def forSoldiers (method : Frame K → Except Fault (Frame K)) (st : State K) (p : PlayerId) :
    Except Fault (State K) :=
  (List.range (st.soldiers p).length).foldlM (runSoldier method p) st

variable [SquareRoot K]

/-- `State::Update` with the players taken in a given order. -/
def updateInOrder (c : Constants K) (order : List PlayerId) (st : State K) :
    Except Fault (State K) := do
  let st ← order.foldlM (updateTowers c) st
  let st ← order.foldlM (forSoldiers (Soldier.update c)) st
  order.foldlM (forSoldiers (Soldier.lateUpdate c)) st

/-- `State::Update`. -/
def update (c : Constants K) (st : State K) : Except Fault (State K) :=
  updateInOrder c PlayerId.all st

end Update

/-- `GetScores`: the number of cells a player owns. -/
def getScores (st : State K) (p : PlayerId) : ℕ :=
  ((Bounds.mk 0 (st.map.size - 1) 0 (st.map.size - 1)).cells.filter fun cell =>
    st.map.owns p cell).length

end State

end Simulator
