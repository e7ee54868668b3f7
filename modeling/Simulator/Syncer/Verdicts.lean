import Simulator.Syncer.StateSyncer
import Simulator.State.Update

/-!
# What a command amounts to

Every command a player leaves is judged once, and the judgement is a `Verdict`: the
errors to log, and the action to take, if any.  A verdict depends on little: on the
state before the commands, and on a `Ledger` with the three local variables of
`ExecutePlayerCommands` that bear on it.  It does not depend on the orders and
requests that have been given so far.

`carryOut` does what a verdict says.  A loop over commands is then a list of
verdicts, each made with the ledger its predecessors leave, carried out one after
the other.
-/

namespace Simulator

open Foundation

variable {K : Type}

/-- What an accepted command does. -/
inductive Action (K : Type) where
  | upgrade (towerId cost : ℤ)
  | suicide (towerId : ℤ)
  | move (soldierIndex : ℕ) (position : Vector K)
  | attack (soldierIndex : ℕ) (target : ActorPtr)
  | build (offset : Vector K) (cost : ℤ)

/-- The judgement of a command. -/
structure Verdict (K : Type) where
  errors : List (ErrorType × String)
  action : Option (Action K)

namespace Verdict

/-- There was no command. -/
def nothing : Verdict K := ⟨[], none⟩

/-- The command is refused. -/
def refuse (errorType : ErrorType) (message : String) : Verdict K := ⟨[(errorType, message)], none⟩

/-- The command is accepted. -/
def accept (action : Action K) : Verdict K := ⟨[], some action⟩

end Verdict

/-- The local variables of `ExecutePlayerCommands` a verdict depends on: the money
and the number of towers of the player, and the towers that are being demolished. -/
structure Ledger where
  money : ℤ
  numTowers : ℤ
  razedTowers : List ℤ

namespace Ledger

/-- The ledger after an action. -/
def after (l : Ledger) (v : Verdict K) : Ledger :=
  match v.action with
  | some (.upgrade _ cost) => { l with money := l.money - cost }
  | some (.suicide towerId) => { l with razedTowers := l.razedTowers ++ [towerId] }
  | some (.build _ cost) => { l with money := l.money - cost, numTowers := l.numTowers + 1 }
  | some (.move _ _) | some (.attack _ _) | none => l

end Ledger

/-! ## Carrying out -/

namespace State

/-- Change one soldier. -/
def modifySoldier (st : State K) (p : PlayerId) (i : ℕ) (g : Soldier K → Soldier K) : State K :=
  { st with soldiers := Function.update st.soldiers p ((st.soldiers p).modify i g) }

/-- What an action of player `p` does to the state. -/
def carryOut (st : State K) (p : PlayerId) : Option (Action K) → State K
  | some (.upgrade towerId _) => st.upgradeTower p towerId
  | some (.suicide towerId) => st.suicideTower p towerId
  | some (.move i position) => st.modifySoldier p i (Soldier.move · position)
  | some (.attack i target) => st.modifySoldier p i (Soldier.attack · target)
  | some (.build offset _) => st.buildTower p offset
  | none => st

end State

namespace CommandPhase

/-- The ledger of a player. -/
def ledger (ph : CommandPhase K) (p : PlayerId) : Ledger where
  money := ph.stateMoney p
  numTowers := ph.currentNumTowers
  razedTowers := ph.razedTowers

/-- Log the errors of a verdict on a command of player `p`, and take its action. -/
def carryOut (p : PlayerId) (ph : CommandPhase K) (v : Verdict K) : CommandPhase K where
  state := ph.state.carryOut p v.action
  errors := ph.errors ++ v.errors.map fun e => ⟨p, e.1, e.2⟩
  stateMoney := Function.update ph.stateMoney p ((ph.ledger p).after v).money
  razedTowers := ((ph.ledger p).after v).razedTowers
  currentNumTowers := ((ph.ledger p).after v).numTowers

@[simp] theorem ledger_carryOut (ph : CommandPhase K) (p : PlayerId) (v : Verdict K) :
    (carryOut p ph v).ledger p = (ph.ledger p).after v := by
  simp [ledger, carryOut]

theorem carryOut_nothing (ph : CommandPhase K) (p : PlayerId) :
    carryOut p ph Verdict.nothing = ph := by
  simp [carryOut, Verdict.nothing, State.carryOut, Ledger.after, ledger]

theorem carryOut_refuse (ph : CommandPhase K) (p : PlayerId) (errorType : ErrorType)
    (message : String) :
    carryOut p ph (.refuse errorType message) = ph.logErrors p errorType message := by
  simp [carryOut, Verdict.refuse, State.carryOut, Ledger.after, ledger, logErrors]

end CommandPhase

/-! ## Verdicts -/

namespace StateSyncer

/-- The verdict on an upgrade of the tower `t`. -/
def upgradeVerdict (c : Constants K) (l : Ledger) (towerId : ℤ) (t : Tower K) : Verdict K :=
  if towerId ≠ t.id then .refuse .noAlterActorId "Do not alter id of actors"
  else if t.towerLevel = c.towerBuildCosts.length then
    .refuse .noMoreUpgrades
      ("Max level reached, upgrade not allowed for tower with id " ++ towerId.repr)
  else
    let towerUpgradeCost := c.towerBuildCosts[t.towerLevel.toNat]?.getD 0
    if l.money < towerUpgradeCost then
      .refuse .insufficientFunds
        ("Insufficient funds to upgrade tower with id " ++ towerId.repr)
    else .accept (.upgrade towerId towerUpgradeCost)

/-- The verdict on a demolition of the tower `t`. -/
def suicideVerdict (towerId : ℤ) (t : Tower K) : Verdict K :=
  if towerId ≠ t.id then .refuse .noAlterActorId "Do not alter id of actors"
  else if t.isBase then .refuse .noSuicideBaseTower "Cannot destroy base tower"
  else .accept (.suicide towerId)

/-- The verdict on the command in the slot of the tower `t`. -/
def towerVerdict (c : Constants K) (l : Ledger) (tower : PlayerState.Tower K) (t : Tower K) :
    Verdict K :=
  if tower.upgradeTower ∧ tower.suicide then
    .refuse .noMultipleTowerTasks
      ("Tower with id " ++ tower.id.repr ++ " can perform only one task each turn")
  else if tower.upgradeTower then upgradeVerdict c l tower.id t
  else if tower.suicide then suicideVerdict tower.id t
  else .nothing

/-- The error of the checks every command to the soldier `s` starts with. -/
def soldierError (soldierId : ℤ) (s : Soldier K) : Option (ErrorType × String) :=
  if soldierId ≠ s.id then some (.noAlterActorId, "Do not alter id of actors")
  else if s.hp = 0 then
    some (.noActionByDeadSoldier,
      "Soldier with id " ++ s.id.repr ++ " must be alive in order to act")
  else none

/-- The verdict on a command to the soldier `s`, once the checks are passed. -/
def checked (soldierId : ℤ) (s : Soldier K) (v : Verdict K) : Verdict K :=
  match soldierError soldierId s with
  | some e => .refuse e.1 e.2
  | none => v

/-- The verdict on an attack on a tower. -/
def attackTowerVerdict (st : State K) (p : PlayerId) (l : Ledger) (towerId : ℤ)
    (soldierIndex : ℕ) : Verdict K :=
  if (st.towers p.opponent).any fun t => t.id = towerId && t.isBase then
    .refuse .noAttackBaseTower "Cannot attack Base Tower of enemy"
  else if !(st.towers p.opponent).any fun t => t.id = towerId then
    .refuse .noAttackSelfTower "Attack enemy's tower only"
  else if towerId ∈ l.razedTowers then
    .refuse .noAttackRazedTower
      ("Can't attack tower with id " ++ towerId.repr ++
        " as it has been destroyed by the opponent")
  else .accept (.attack soldierIndex (.tower p.opponent towerId))

/-- The verdict on an attack on a soldier by the soldier `s`. -/
def attackSoldierVerdict (st : State K) (p : PlayerId) (s : Soldier K) (enemySoldierId : ℤ)
    (soldierIndex : ℕ) : Verdict K :=
  let enemies := st.soldiers p.opponent
  if !enemies.any fun t => t.id = enemySoldierId then
    .refuse .noAttackSelfSoldier "Attack enemy's soldier only"
  else if !enemies.any fun t => t.id = enemySoldierId && t.hp ≠ 0 then
    .refuse .noAttackDeadSoldier
      ("Enemy soldier with id " ++ s.id.repr ++ " must be alive to attack it")
  else
    let target := (enemySoldierId - enemies.length * p.opponent.index).toNat
    { errors :=
        if enemies.any fun t => t.id = enemySoldierId && t.isInvulnerable then
          [(.noAttackImmuneSoldier,
            "Cannot damage invulnerable soldier with id " ++ s.id.repr)]
        else []
      action := some (.attack soldierIndex (.soldier p.opponent target)) }

section Positions

variable [Field K] [LinearOrder K] [FloorRing K]

/-- The verdict on a move. -/
def moveVerdict (m : GameMap) (p : PlayerId) (position : Vector K) (soldierIndex : ℕ) : Verdict K :=
  let position := if p = .player2 then flipPosition m position else position
  let side := Double.ofInt (m.size * m.elementSize)
  if position.x < .ofInt 0 ∨ side ≤ position.x ∨ position.y < .ofInt 0 ∨ side ≤ position.y then
    .refuse .invalidPosition
      ("Position (" ++ position.x.toString ++ "," ++ position.y.toString ++ ") not in map")
  else .accept (.move soldierIndex position)

/-- The verdict on the command in the slot of the soldier `s`. -/
def soldierVerdict (st : State K) (p : PlayerId) (l : Ledger) (soldier : PlayerState.Soldier K)
    (soldierIndex : ℕ) (s : Soldier K) : Verdict K :=
  let isAttackingTower : Bool := soldier.towerTarget ≠ -1
  let isAttackingSoldier : Bool := soldier.soldierTarget ≠ -1
  let isMoving : Bool := ¬ soldier.destination.Equal (Vector.ofInt (-1) (-1))
  let flags := [isAttackingSoldier, isMoving, isAttackingTower]
  if flags.count true > 1 then
    .refuse .noMultipleSoldierTasks
      ("Soldier with id " ++ soldier.id.repr ++ " can perform only one task each turn")
  else if isAttackingTower then
    checked soldier.id s (attackTowerVerdict st p l soldier.towerTarget soldierIndex)
  else if isAttackingSoldier then
    checked soldier.id s (attackSoldierVerdict st p s soldier.soldierTarget soldierIndex)
  else if isMoving then
    checked soldier.id s (moveVerdict st.map p soldier.destination soldierIndex)
  else .nothing

/-- A tower can be built on the cell: it belongs to the player alone, and none of
its towers stands there. -/
def IsValidTerritory (st : State K) (p : PlayerId) (offset : Cell) : Prop :=
  st.map.owns p offset = true ∧ st.map.owns p.opponent offset = false ∧
    isOccupied st.map (st.towers p) offset = false

instance (st : State K) (p : PlayerId) (offset : Cell) : Decidable (IsValidTerritory st p offset) :=
  inferInstanceAs (Decidable (_ ∧ _))

/-- The verdict on the command in a map element. -/
def buildVerdict (c : Constants K) (st : State K) (p : PlayerId) (l : Ledger)
    (element : PlayerState.MapElement) (offset : Cell) : Verdict K :=
  if element.buildTower then
    if l.numTowers + 1 > c.maxNumTowers then
      .refuse .noMoreTowers "No more towers can be built. Max limit reached."
    else
      let offset := flipOffset st.map p offset
      if ¬ IsValidTerritory st p offset then
        .refuse .invalidTerritory "Tower can be built only on valid territory."
      else
        let towerCost := c.towerBuildCosts[0]?.getD 0
        if l.money < towerCost then .refuse .insufficientFunds "Insufficient funds to build tower"
        else .accept (.build (Vector.ofInt offset.1 offset.2) towerCost)
  else .nothing

end Positions

end StateSyncer

end Simulator
