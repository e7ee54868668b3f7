import Simulator.State.State
import Simulator.Syncer.PlayerState

/-!
# Executing the players' commands

`ExecutePlayerCommands` reads the commands out of the two players' states, checks
each against the main state, and either logs an error or calls the command method
of `State`.

`CommandPhase` is what one run of it reads and writes: the main state, the calls
of the logger, and its local variables.  The balances are a snapshot taken at the
beginning, from which the cost of every accepted command is deducted; the main
state's own balances do not change before its update.

There are two loops over the players.  The first makes the tower commands of both, the second the
commands to soldiers and the builds, so that the towers which are being demolished are known, for
either player, before anybody attacks.  A player whose turn is skipped is left out of both.

The handlers are modelled check by check, with the texts of their errors, in the order of the
source.  Where two of them do not go by the same rule the model follows each: an attack on an
invulnerable soldier is logged as an error and passed on all the same, while every other error
ends its handler.

Commands that name ids are not trusted: a player may have altered the id in a slot, and a handler
compares it with the one in the main state before it goes on.
-/

namespace Simulator

open Foundation

/-- The categories of errors. -/
inductive ErrorType where
  | noMultipleSoldierTasks
  | noMultipleTowerTasks
  | noAlterActorId
  | noActionByDeadSoldier
  | noAttackBaseTower
  | invalidPosition
  | noAttackSelfTower
  | noAttackSelfSoldier
  | noAttackDeadSoldier
  | invalidTerritory
  | insufficientFunds
  | noMoreUpgrades
  | noSuicideBaseTower
  | noMoreTowers
  | noAttackRazedTower
  | noAttackImmuneSoldier
  deriving DecidableEq, Repr

/-- A call of `LogError`. -/
structure LoggedError where
  playerId : PlayerId
  errorType : ErrorType
  message : String
  deriving DecidableEq, Repr

/-- The main state, the calls of the logger so far, and the local variables of
`ExecutePlayerCommands`. -/
structure CommandPhase (K : Type) where
  state : State K
  errors : List LoggedError
  stateMoney : PlayerId → ℤ
  razedTowers : List ℤ
  /-- `current_num_towers` of the player whose commands are being executed. -/
  currentNumTowers : ℤ

namespace CommandPhase

variable {K : Type}

/-- `LogErrors`. -/
def logErrors (ph : CommandPhase K) (p : PlayerId) (errorType : ErrorType) (message : String) :
    CommandPhase K :=
  { ph with errors := ph.errors ++ [⟨p, errorType, message⟩] }

end CommandPhase

namespace StateSyncer

variable {K : Type}

/-! ## Tower commands -/

/-- `UpgradeTower`. -/
def upgradeTower (c : Constants K) (p : PlayerId) (towerId : ℤ) (towerIndex : ℕ)
    (ph : CommandPhase K) : Except Fault (CommandPhase K) := do
  let t ← vectorAt (ph.state.towers p) towerIndex
  if towerId ≠ t.id then
    return ph.logErrors p .noAlterActorId "Do not alter id of actors"
  else if t.towerLevel = c.towerBuildCosts.length then
    return ph.logErrors p .noMoreUpgrades
      ("Max level reached, upgrade not allowed for tower with id " ++ towerId.repr)
  else
    let towerUpgradeCost ← vectorAt c.towerBuildCosts t.towerLevel
    if ph.stateMoney p < towerUpgradeCost then
      return ph.logErrors p .insufficientFunds
        ("Insufficient funds to upgrade tower with id " ++ towerId.repr)
    else
      return { ph with
        stateMoney := Function.update ph.stateMoney p (ph.stateMoney p - towerUpgradeCost)
        state := ph.state.upgradeTower p towerId }

/-- `SuicideTower`. -/
def suicideTower (p : PlayerId) (towerId : ℤ) (towerIndex : ℕ) (ph : CommandPhase K) :
    Except Fault (CommandPhase K) := do
  let t ← vectorAt (ph.state.towers p) towerIndex
  if towerId ≠ t.id then
    return ph.logErrors p .noAlterActorId "Do not alter id of actors"
  else if t.isBase then
    return ph.logErrors p .noSuicideBaseTower "Cannot destroy base tower"
  else
    return { ph with
      razedTowers := ph.razedTowers ++ [towerId]
      state := ph.state.suicideTower p towerId }

/-- The command in one tower slot of a player. -/
def towerCommand (c : Constants K) (p : PlayerId) (tower : PlayerState.Tower K) (towerIndex : ℕ)
    (ph : CommandPhase K) : Except Fault (CommandPhase K) :=
  if tower.upgradeTower ∧ tower.suicide then
    .ok (ph.logErrors p .noMultipleTowerTasks
      ("Tower with id " ++ tower.id.repr ++ " can perform only one task each turn"))
  else if tower.upgradeTower then upgradeTower c p tower.id towerIndex ph
  else if tower.suicide then suicideTower p tower.id towerIndex ph
  else .ok ph

/-! ## Soldier commands -/

section Positions

variable [Field K]

/-- `FlipPosition`. -/
def flipPosition (m : GameMap) (position : Vector K) : Vector K where
  x := .ofInt (m.size * m.elementSize - 1) - position.x
  y := .ofInt (m.size * m.elementSize - 1) - position.y

variable [LinearOrder K] [FloorRing K]

/-- The checks every command to a soldier starts with: the id has not been
altered, and the soldier is alive. -/
def checkSoldier (p : PlayerId) (soldierId : ℤ) (s : Soldier K) (ph : CommandPhase K) :
    Option (CommandPhase K) :=
  if soldierId ≠ s.id then
    some (ph.logErrors p .noAlterActorId "Do not alter id of actors")
  else if s.hp = 0 then
    some (ph.logErrors p .noActionByDeadSoldier
      ("Soldier with id " ++ s.id.repr ++ " must be alive in order to act"))
  else none

/-- `MoveSoldier`. -/
def moveSoldier (p : PlayerId) (soldierId : ℤ) (position : Vector K) (soldierIndex : ℕ)
    (ph : CommandPhase K) : Except Fault (CommandPhase K) := do
  let m := ph.state.map
  -- flip position for player 2
  let position := if p = .player2 then flipPosition m position else position
  let s ← vectorAt (ph.state.soldiers p) soldierIndex
  match checkSoldier p soldierId s ph with
  | some ph => return ph
  | none =>
    let side := Double.ofInt (m.size * m.elementSize)
    if position.x < .ofInt 0 ∨ side ≤ position.x ∨ position.y < .ofInt 0 ∨ side ≤ position.y then
      return ph.logErrors p .invalidPosition
        ("Position (" ++ position.x.toString ++ "," ++ position.y.toString ++ ") not in map")
    else
      return { ph with state := ← ph.state.moveSoldier p soldierId position }

end Positions

/-- `AttackTower`. -/
def attackTower (p : PlayerId) (soldierId towerId : ℤ) (soldierIndex : ℕ) (ph : CommandPhase K) :
    Except Fault (CommandPhase K) := do
  let s ← vectorAt (ph.state.soldiers p) soldierIndex
  match checkSoldier p soldierId s ph with
  | some ph => return ph
  | none =>
    let named := (ph.state.towers p.opponent).filter fun t => t.id = towerId
    if named.any Tower.isBase then
      return ph.logErrors p .noAttackBaseTower "Cannot attack Base Tower of enemy"
    else if named.isEmpty then
      return ph.logErrors p .noAttackSelfTower "Attack enemy's tower only"
    else if towerId ∈ ph.razedTowers then
      return ph.logErrors p .noAttackRazedTower
        ("Can't attack tower with id " ++ towerId.repr ++
          " as it has been destroyed by the opponent")
    else
      return { ph with state := ← ph.state.attackActor p soldierId towerId }

/-- `AttackSoldier`.  An attack on an invulnerable soldier is logged as an error,
and is passed on all the same. -/
def attackSoldier (p : PlayerId) (soldierId enemySoldierId : ℤ) (soldierIndex : ℕ)
    (ph : CommandPhase K) : Except Fault (CommandPhase K) := do
  let s ← vectorAt (ph.state.soldiers p) soldierIndex
  match checkSoldier p soldierId s ph with
  | some ph => return ph
  | none =>
    let named := (ph.state.soldiers p.opponent).filter fun t => t.id = enemySoldierId
    if named.isEmpty then
      return ph.logErrors p .noAttackSelfSoldier "Attack enemy's soldier only"
    else if !named.any fun t => t.hp ≠ 0 then
      return ph.logErrors p .noAttackDeadSoldier
        ("Enemy soldier with id " ++ s.id.repr ++ " must be alive to attack it")
    else
      let ph := if named.any Soldier.isInvulnerable then
          ph.logErrors p .noAttackImmuneSoldier
            ("Cannot damage invulnerable soldier with id " ++ s.id.repr)
        else ph
      return { ph with state := ← ph.state.attackActor p soldierId enemySoldierId }

section Commands

variable [Field K] [LinearOrder K] [FloorRing K]

/-- The command in one soldier slot of a player.  A soldier can only either move,
attack a tower or attack a soldier. -/
def soldierCommand (p : PlayerId) (soldier : PlayerState.Soldier K) (soldierIndex : ℕ)
    (ph : CommandPhase K) : Except Fault (CommandPhase K) :=
  let isAttackingTower : Bool := soldier.towerTarget ≠ -1
  let isAttackingSoldier : Bool := soldier.soldierTarget ≠ -1
  let isMoving : Bool := ¬ soldier.destination.Equal (Vector.ofInt (-1) (-1))
  let flags := [isAttackingSoldier, isMoving, isAttackingTower]
  if flags.count true > 1 then
    .ok (ph.logErrors p .noMultipleSoldierTasks
      ("Soldier with id " ++ soldier.id.repr ++ " can perform only one task each turn"))
  else if isAttackingTower then attackTower p soldier.id soldier.towerTarget soldierIndex ph
  else if isAttackingSoldier then attackSoldier p soldier.id soldier.soldierTarget soldierIndex ph
  else if isMoving then moveSoldier p soldier.id soldier.destination soldierIndex ph
  else .ok ph

/-! ## Build commands -/

/-- The cell a build command is for, seen by player 1. -/
def flipOffset (m : GameMap) (p : PlayerId) (offset : Cell) : Cell :=
  if p = .player2 then (m.size - 1 - offset.1, m.size - 1 - offset.2) else offset

/-- Whether a tower of the player stands on a cell. -/
def isOccupied (m : GameMap) (towers : List (Tower K)) (offset : Cell) : Bool :=
  towers.any fun t =>
    (t.position.divide (.ofInt m.elementSize)).floor.Equal (Vector.ofInt offset.1 offset.2)

/-- `BuildTower`. -/
def buildTower (c : Constants K) (p : PlayerId) (offset : Cell) (ph : CommandPhase K) :
    Except Fault (CommandPhase K) := do
  if ph.currentNumTowers + 1 > c.maxNumTowers then
    return ph.logErrors p .noMoreTowers "No more towers can be built. Max limit reached."
  else
    let m := ph.state.map
    let offset := flipOffset m p offset
    let towerElement ← m.getElementByOffset (Vector.ofInt offset.1 offset.2 : Vector K)
    if !m.owns p towerElement ∨
        (PlayerId.all.any fun q => m.owns q towerElement ∧ q ≠ p) ∨
        isOccupied m (ph.state.towers p) offset then
      return ph.logErrors p .invalidTerritory "Tower can be built only on valid territory."
    else
      let towerCost ← vectorAt c.towerBuildCosts 0
      if ph.stateMoney p < towerCost then
        return ph.logErrors p .insufficientFunds "Insufficient funds to build tower"
      else
        return { ph with
          stateMoney := Function.update ph.stateMoney p (ph.stateMoney p - towerCost)
          currentNumTowers := ph.currentNumTowers + 1
          state := ph.state.buildTower p (Vector.ofInt offset.1 offset.2) }

/-- The command in one map element of a player. -/
def buildCommand (c : Constants K) (p : PlayerId) (element : PlayerState.MapElement)
    (offset : Cell) (ph : CommandPhase K) : Except Fault (CommandPhase K) :=
  if element.buildTower then buildTower c p offset ph else .ok ph

/-! ## The two loops -/

/-- The tower commands of one player. -/
def towerCommands {c : Constants K} (playerStates : PlayerId → PlayerState c)
    (skipPlayerCommandsFlags : PlayerId → Bool) (ph : CommandPhase K) (p : PlayerId) :
    Except Fault (CommandPhase K) :=
  if skipPlayerCommandsFlags p then .ok ph
  else (List.range (ph.state.towers p).length).foldlM (fun ph i => do
    let tower ← arrayAt (playerStates p).towers i
    towerCommand c p tower i ph) ph

/-- The soldier and build commands of one player. -/
def soldierAndBuildCommands {c : Constants K} (playerStates : PlayerId → PlayerState c)
    (skipPlayerCommandsFlags : PlayerId → Bool) (ph : CommandPhase K) (p : PlayerId) :
    Except Fault (CommandPhase K) :=
  if skipPlayerCommandsFlags p then .ok ph
  else do
    let ph := { ph with currentNumTowers := (ph.state.towers p).length }
    let ph ← (List.range (ph.state.soldiers p).length).foldlM (fun ph i => do
      let soldier ← arrayAt (playerStates p).soldiers i
      soldierCommand p soldier i ph) ph
    (List.finRange c.mapSize ×ˢ List.finRange c.mapSize).foldlM (fun ph offset =>
      buildCommand c p ((playerStates p).map offset.1 offset.2) (offset.1, offset.2) ph) ph

/-- `ExecutePlayerCommands` with the players taken in a given order in both
loops. -/
def executeInOrder {c : Constants K} (order : List PlayerId)
    (playerStates : PlayerId → PlayerState c) (skipPlayerCommandsFlags : PlayerId → Bool)
    (st : State K) : Except Fault (CommandPhase K) := do
  let ph : CommandPhase K := {
    state := st
    errors := []
    stateMoney := st.moneyManager.playerMoney
    razedTowers := []
    currentNumTowers := 0 }
  let ph ← order.foldlM (towerCommands playerStates skipPlayerCommandsFlags) ph
  order.foldlM (soldierAndBuildCommands playerStates skipPlayerCommandsFlags) ph

/-- `ExecutePlayerCommands`. -/
def executePlayerCommands {c : Constants K} (playerStates : PlayerId → PlayerState c)
    (skipPlayerCommandsFlags : PlayerId → Bool) (st : State K) : Except Fault (CommandPhase K) :=
  executeInOrder PlayerId.all playerStates skipPlayerCommandsFlags st

end Commands

end StateSyncer

end Simulator
