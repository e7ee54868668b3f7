import Simulator.State.MoneyManager

/-!
# The states of a soldier

A soldier's update runs the state machine of `soldier_states/*.cpp`: the current
state's `update` either does its work for the turn and answers nothing, or
answers the state to switch to, and switching runs the old state's `exit` and the
new state's `enter` and updates again.

While it runs, a soldier reads and writes three objects: itself, the actor its
target pointer points to, and the money manager.  `Frame` holds the three.  A
target is always an actor of the other player, so the first two are different
objects.  `target` is what is found behind the target pointer when the update
begins, and stays in the frame when the pointer is cleared, since the object may
have been written to.
-/

namespace Simulator

open Foundation

/-- The objects the update of one soldier reaches. -/
structure Frame (K : Type) where
  soldier : Soldier K
  /-- The object behind the target pointer, unless it is null or dangling. -/
  target : Option (Actor K)
  moneyManager : MoneyManager

namespace SimplePathPlanner

variable {K : Type} [Field K] [LinearOrder K] [SquareRoot K]

/-- The next position on the straight way from `source` to `dest`. -/
def getNextPosition (source dest : Vector K) (speed : ℤ) : Vector K :=
  -- close enough to the destination to reach it in this turn
  if source.distance dest ≤ Double.ofInt speed then dest
  else
    let directionVector := dest - source
    let unitVector := directionVector.divide directionVector.magnitude
    source + unitVector.scale (Double.ofInt speed)

end SimplePathPlanner

namespace Frame

variable {K : Type}

/-- `GetAttackTarget()->`: the target of a soldier that is about to be used. -/
def attackTarget (f : Frame K) : Except Fault (Actor K) :=
  match f.soldier.attackTarget, f.target with
  | some _, some actor => .ok actor
  | _, _ => .error .undefined

variable [Field K] [LinearOrder K] [SquareRoot K]

/-- `IsAttackTargetInRange`. -/
def isAttackTargetInRange (f : Frame K) : Except Fault Bool :=
  match f.soldier.attackTarget with
  | none => .error (.logicError "Attack target is not set")
  | some _ => do
    let target ← f.attackTarget
    return decide (f.soldier.position.distance target.position ≤ Double.ofInt f.soldier.attackRange)

/-- `SetAttackTarget(nullptr)`. -/
def clearAttackTarget (f : Frame K) : Frame K :=
  { f with soldier.attackTarget := none }

/-- Move towards a position, in the late update. -/
def stepTowards (f : Frame K) (dest : Vector K) : Frame K :=
  { f with
    soldier := f.soldier.setNewPosition
      (SimplePathPlanner.getNextPosition f.soldier.position dest f.soldier.speed) }

end Frame

/-! ## The update of each state -/

namespace SoldierState

variable {K : Type} [Field K] [LinearOrder K] [SquareRoot K]

/-- A dead state as its constructor makes it; `enter` starts the timer. -/
def newDead : SoldierState := dead 0

/-- `GetName() == DEAD`. -/
def isDead : SoldierState → Bool
  | dead _ => true
  | _ => false

/-- The state to switch to for the target that is set. -/
def pursueOrAttack (f : Frame K) : Except Fault (Frame K × Option SoldierState) := do
  if !(← f.isAttackTargetInRange) then return (f, some pursuit) else return (f, some attack)

/-- `IdleState::Update`. -/
def updateIdle (f : Frame K) : Except Fault (Frame K × Option SoldierState) :=
  if f.soldier.hp = 0 then .ok (f, some newDead)
  else if f.soldier.isDestinationSet then .ok (f, some move)
  else if f.soldier.attackTarget.isSome then pursueOrAttack f
  else .ok (f, none)

/-- `MoveState::Update`. -/
def updateMove (f : Frame K) : Except Fault (Frame K × Option SoldierState) :=
  if f.soldier.hp = 0 then .ok (f, some newDead)
  else if f.soldier.attackTarget.isSome then pursueOrAttack f
  else if f.soldier.position.Equal f.soldier.destination then .ok (f, some idle)
  else .ok (f.stepTowards f.soldier.destination, none)

/-- `AttackState::Update`. -/
def updateAttack (f : Frame K) : Except Fault (Frame K × Option SoldierState) :=
  if f.soldier.hp = 0 then .ok (f.clearAttackTarget, some newDead)
  else if f.soldier.isDestinationSet then .ok (f.clearAttackTarget, some move)
  else do
    let target ← f.attackTarget
    if target.latestHp = 0 then return (f.clearAttackTarget, some idle)
    else if !(← f.isAttackTargetInRange) then return (f, some pursuit)
    else
      let target := target.damage f.soldier.attackDamage
      let f := { f with target := some target }
      -- the kill is rewarded by the attacker that finishes the target off
      if target.latestHp = 0 then
        let moneyManager ← f.moneyManager.rewardKill target
        return ({ f with moneyManager }, none)
      else return (f, none)

/-- `PursuitState::Update`. -/
def updatePursuit (f : Frame K) : Except Fault (Frame K × Option SoldierState) :=
  if f.soldier.hp = 0 then .ok (f.clearAttackTarget, some newDead)
  else if f.soldier.isDestinationSet then .ok (f.clearAttackTarget, some move)
  else do
    let target ← f.attackTarget
    if target.latestHp = 0 then return (f.clearAttackTarget, some idle)
    else if ← f.isAttackTargetInRange then return (f, some attack)
    else return (f.stepTowards target.position, none)

/-- `DeadState::Update`. -/
def updateDead (f : Frame K) (remainingTurnsToRespawn : ℤ) :
    Except Fault (Frame K × Option SoldierState) :=
  if remainingTurnsToRespawn = 0 then .ok (f, some idle)
  else .ok ({ f with soldier.state := dead (remainingTurnsToRespawn - 1) }, none)

/-- `state->Update()`. -/
def update (f : Frame K) : Except Fault (Frame K × Option SoldierState) :=
  match f.soldier.state with
  | idle => updateIdle f
  | move => updateMove f
  | attack => updateAttack f
  | pursuit => updatePursuit f
  | dead remaining => updateDead f remaining

omit [Field K] [LinearOrder K] [SquareRoot K] in
/-- `DeadState::Exit`: respawn. -/
def exitDead (c : Constants K) (s : Soldier K) : Except Fault (Soldier K) := do
  let s := { s with position := c.respawnPositions s.playerId }
  let s ← s.setHp s.maxHp
  return { s with attackTarget := none, isDestinationSet := false }.makeInvulnerable c

omit [Field K] [LinearOrder K] [SquareRoot K] in
/-- `state->Exit()`. -/
def exit (c : Constants K) (s : Soldier K) : Except Fault (Soldier K) :=
  match s.state with
  | move => .ok { s with isDestinationSet := false }
  | dead _ => exitDead c s
  | _ => .ok s

omit [Field K] [LinearOrder K] [SquareRoot K] in
/-- `state->Enter()` of a state that is about to become the soldier's. -/
def enter (c : Constants K) : SoldierState → SoldierState
  | dead _ => dead c.soldierTotalTurnsToRespawn
  | state => state

/-- Leave the current state, enter the given one, and update it. -/
def switchTo (c : Constants K) (f : Frame K) (newState : SoldierState) :
    Except Fault (Frame K × Option SoldierState) := do
  let soldier ← exit c f.soldier
  update { f with soldier := { soldier with state := enter c newState } }

end SoldierState

/-! ## The updates of a soldier -/

namespace Soldier

variable {K : Type} [Field K] [LinearOrder K] [SquareRoot K]

/-- The loop of `Soldier::Update`: switch states until one has done its work.
The first argument bounds the number of switches. -/
def transitions (c : Constants K) :
    ℕ → Frame K × Option SoldierState → Except Fault (Frame K)
  | _, (f, none) => .ok f
  | 0, (_, some _) => .error .undefined
  | n + 1, (f, some newState) => do transitions c n (← SoldierState.switchTo c f newState)

/-- More switches than the loop ever makes. -/
def maxTransitions : ℕ := 4

/-- `Soldier::Update`. -/
def update (c : Constants K) (f : Frame K) : Except Fault (Frame K) := do
  transitions c maxTransitions (← SoldierState.update f)

omit [Field K] [LinearOrder K] [SquareRoot K] in
/-- The first half of `LateUpdate`: the buffered move and the buffered damage
take effect, and a turn of invulnerability passes. -/
def settle (s : Soldier K) : Except Fault (Soldier K) := do
  let s := if s.isNewPositionSet then
      { s with position := s.newPosition, isNewPositionSet := false }
    else s
  let s ← if s.isInvulnerable then pure s else s.setHp s.latestHp
  let s := { s with damageIncurred := 0 }
  if s.isInvulnerable then
    let numTurnsInvulnerable := s.numTurnsInvulnerable - 1
    return { s with numTurnsInvulnerable, isInvulnerable := numTurnsInvulnerable ≠ 0 }
  else return s

/-- `Soldier::LateUpdate`. -/
def lateUpdate (c : Constants K) (f : Frame K) : Except Fault (Frame K) := do
  let soldier ← settle f.soldier
  let f := { f with soldier }
  if f.soldier.hp = 0 ∧ ¬ f.soldier.state.isDead then
    let (f, newState) ← SoldierState.update f
    match newState with
    | none => .error .undefined
    | some newState =>
      -- the answer of the last update is dropped
      let (f, _) ← SoldierState.switchTo c f newState
      return f
  else return f

end Soldier

end Simulator
