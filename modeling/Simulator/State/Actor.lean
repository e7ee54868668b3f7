import Simulator.State.Constants

/-!
# Actors

The towers and soldiers of a game, with the fields of `Actor`, `Tower` and `Soldier`.  The
source has a class hierarchy with virtual methods; here the two kinds are two structures, and
`Actor` is either of them, for the places where the source has a pointer to the base class.

## Pointers

A pointer to an actor is an `ActorPtr`.  The soldiers of a player are created once and never
freed, so a soldier is addressed by its player and its place in the player's vector.  A tower
comes and goes, and is addressed by its player and its actor id: ids are handed out by a counter
and never twice, so an id stands for one object even after the object has been freed.  Whether
there still is an object behind a pointer is a question to the state, and the model has an answer
to it where the source would read freed memory.

## Hp

`SetHp` throws when the new hp is negative or above the maximum, and everything that changes the
hp goes through it.  A tower loses hp at once when it is damaged.  A soldier collects the damage
of a turn in `damageIncurred` and takes it in the late update, which is why two soldiers can kill
each other.  `latestHp` is the hp after what has been collected; it is what the soldiers that come
later in a turn look at, and for a tower it is the hp.
-/

namespace Simulator

open Foundation

variable {K : Type}

/-- The states of a soldier.  The dead state is the only one with data of its
own: the number of turns left until the soldier respawns. -/
inductive SoldierState where
  | idle
  | move
  | attack
  | pursuit
  | dead (remainingTurnsToRespawn : ℤ)
  deriving DecidableEq, Repr

/-- The address of an actor. -/
inductive ActorPtr where
  | soldier (playerId : PlayerId) (index : ℕ)
  | tower (playerId : PlayerId) (id : ℤ)
  deriving DecidableEq, Repr

/-- A tower. -/
structure Tower (K : Type) where
  id : ℤ
  playerId : PlayerId
  hp : ℤ
  maxHp : ℤ
  position : Vector K
  isBase : Bool
  towerLevel : ℤ
  deriving DecidableEq

/-- A soldier. -/
structure Soldier (K : Type) where
  id : ℤ
  playerId : PlayerId
  hp : ℤ
  maxHp : ℤ
  position : Vector K
  speed : ℤ
  attackRange : ℤ
  attackDamage : ℤ
  /-- The actor this soldier targets, or the null pointer. -/
  attackTarget : Option ActorPtr
  destination : Vector K
  isDestinationSet : Bool
  newPosition : Vector K
  isNewPositionSet : Bool
  damageIncurred : ℤ
  state : SoldierState
  isInvulnerable : Bool
  numTurnsInvulnerable : ℤ
  deriving DecidableEq

/-- An actor of either kind. -/
inductive Actor (K : Type) where
  | soldier (soldier : Soldier K)
  | tower (tower : Tower K)
  deriving DecidableEq

/-- `Actor::SetHp`: the new hp, checked against the bounds. -/
def checkHp (hp maxHp : ℤ) : Except Fault ℤ :=
  if hp < 0 then .error (.outOfRange "`hp` must be a positive value")
  else if hp > maxHp then .error (.outOfRange "`hp` cannot be greater than max_hp")
  else .ok hp

theorem checkHp_eq_ok {hp maxHp : ℤ} (h₀ : 0 ≤ hp) (h₁ : hp ≤ maxHp) :
    checkHp hp maxHp = .ok hp := by
  rw [checkHp, if_neg (not_lt.mpr h₀), if_neg (not_lt.mpr h₁)]

namespace Tower

/-- `SetHp`. -/
def setHp (t : Tower K) (hp : ℤ) : Except Fault (Tower K) := do
  let hp ← checkHp hp t.maxHp
  return { t with hp }

/-- Upgrades the tower: increments the level and sets the new hp. -/
def upgrade (c : Constants K) (t : Tower K) : Except Fault (Tower K) := do
  let towerLevel := t.towerLevel + 1
  let maxHp ← vectorAt c.towerHps (towerLevel - 1)
  return { t with towerLevel, maxHp, hp := maxHp }

/-- Tower damage is applied at once. -/
def damage (t : Tower K) (damageAmount : ℤ) : Tower K :=
  { t with hp := max 0 (t.hp - damageAmount) }

end Tower

namespace Soldier

/-- Hp after applying the buffered damage. -/
def latestHp (s : Soldier K) : ℤ := s.hp - s.damageIncurred

/-- Soldier damage is buffered until the late update. -/
def damage (s : Soldier K) (damageAmount : ℤ) : Soldier K :=
  { s with damageIncurred := min s.hp (s.damageIncurred + damageAmount) }

/-- `SetHp`. -/
def setHp (s : Soldier K) (hp : ℤ) : Except Fault (Soldier K) := do
  let hp ← checkHp hp s.maxHp
  return { s with hp }

/-- The move command. -/
def move (s : Soldier K) (destination : Vector K) : Soldier K :=
  { s with destination, isDestinationSet := true, attackTarget := none }

/-- The attack command. -/
def attack (s : Soldier K) (attackTarget : ActorPtr) : Soldier K :=
  { s with attackTarget := some attackTarget, isDestinationSet := false }

/-- Set the position to move to in the late update. -/
def setNewPosition (s : Soldier K) (newPosition : Vector K) : Soldier K :=
  { s with newPosition, isNewPositionSet := true }

/-- Invincible for `total_num_turns_invulnerable` turns, and one more because
the counter is decremented on the respawn turn as well. -/
def makeInvulnerable (c : Constants K) (s : Soldier K) : Soldier K :=
  { s with isInvulnerable := true, numTurnsInvulnerable := c.soldierNumTurnsInvulnerable + 1 }

end Soldier

namespace Actor

/-- `GetPlayerId`. -/
def playerId : Actor K → PlayerId
  | soldier s => s.playerId
  | tower t => t.playerId

/-- `GetActorId`. -/
def id : Actor K → ℤ
  | soldier s => s.id
  | tower t => t.id

/-- `GetPosition`. -/
def position : Actor K → Vector K
  | soldier s => s.position
  | tower t => t.position

/-- `GetLatestHp`. -/
def latestHp : Actor K → ℤ
  | soldier s => s.latestHp
  | tower t => t.hp

/-- `Damage`. -/
def damage (damageAmount : ℤ) : Actor K → Actor K
  | soldier s => soldier (s.damage damageAmount)
  | tower t => tower (t.damage damageAmount)

end Actor

end Simulator
