import Simulator.Syncer.StateSyncer

/-!
# Games

`BuildState` of `main.cpp`, and the states a game goes through.

The main driver runs turns.  In a turn the players' code is given its copy of the
state and leaves another one behind, `ExecutePlayerCommands` carries out what it
finds there for every player whose turn is not skipped, and `State::Update`
advances the state.  A player's code may overwrite its whole copy, so what it left
is an arbitrary `PlayerState`, and the refreshing of the copies between the turns
does not constrain it.  `Input` is what varies from turn to turn.

## States, turns, games

A game is a list of turns that fit together, each with the states before it, after its commands
and after its update (`Game`).  The inputs are not in the list: of a turn it is said that it is
played on some input (`Turn.IsPlayed`), so that a statement about all games is one about
everything players can do.

There are two kinds of states a game can be in when something is asked of it, those between two
turns (`Reachable`) and those between the commands and the update of a turn (`Commanded`).  Most
statements are about the former.  Those about a whole past, that something happens once, or never
again, or that sums add up, are about `Game` itself.
-/

namespace Simulator

open Foundation

variable {K : Type} [Field K] [LinearOrder K] [FloorRing K]

/-! ## The initial state -/

omit [Field K] [LinearOrder K] [FloorRing K] in
/-- `BuildMap`. -/
def buildMap (c : Constants K) : GameMap where
  size := c.mapSize
  elementSize := c.mapElementSize
  elements := fun _ => { terrainType := .land, ownership := fun _ => false }

omit [Field K] [LinearOrder K] [FloorRing K] in
/-- `BuildMoneyManager`. -/
def buildMoneyManager (c : Constants K) : MoneyManager where
  playerMoney := fun _ => c.moneyStart
  maxMoney := c.moneyMax
  towerKillRewardAmounts := c.towerKillRewardAmounts
  soldierKillRewardAmount := c.soldierKillRewardAmount
  towerSuicideRewardAmounts := c.towerSuicideRewardAmounts
  payouts := fun _ => []

/-- `BuildSoldier`, with the actor id it is given. -/
def buildSoldier (c : Constants K) (p : PlayerId) (id : ℤ) : Soldier K where
  id := id
  playerId := p
  hp := c.soldierMaxHp
  maxHp := c.soldierMaxHp
  position := c.baseTowerPositions p
  speed := c.soldierSpeed
  attackRange := c.soldierAttackRange
  attackDamage := c.soldierAttackDamage
  attackTarget := none
  destination := Vector.ofInt 0 0
  isDestinationSet := false
  newPosition := Vector.ofInt 0 0
  isNewPositionSet := false
  damageIncurred := 0
  state := .idle
  isInvulnerable := false
  numTurnsInvulnerable := 0

/-- The soldiers of a player; the ids of player 1's soldiers come first. -/
def buildSoldiers (c : Constants K) (p : PlayerId) : List (Soldier K) :=
  (List.range c.numSoldiers).map fun i : ℕ => buildSoldier c p (c.numSoldiers * p.index + i)

/-- The base tower of a player. -/
def buildBaseTower (c : Constants K) (p : PlayerId) (id : ℤ) : Except Fault (Tower K) := do
  let hp ← vectorAt c.towerHps 0
  return {
    id, playerId := p, hp, maxHp := hp, position := c.baseTowerPositions p
    isBase := true, towerLevel := 1 }

/-- `BuildTowerManager`, with the base tower as the only tower. -/
def buildTowerManager (c : Constants K) (p : PlayerId) (moneyManager : MoneyManager)
    (map : GameMap) (actorIdIncrement : ℤ) : Except Fault (TowerEnv K) := do
  let t ← buildBaseTower c p actorIdIncrement
  (TowerEnv.construct c [t] p moneyManager map (actorIdIncrement + 1)).mapError Prod.fst

/-- `BuildState`. -/
def buildState (c : Constants K) : Except Fault (State K) := do
  let e₁ ← buildTowerManager c .player1 (buildMoneyManager c) (buildMap c) (2 * c.numSoldiers)
  let e₂ ← buildTowerManager c .player2 e₁.moneyManager e₁.map e₁.actorIdIncrement
  return {
    soldiers := buildSoldiers c
    map := e₂.map
    moneyManager := e₂.moneyManager
    towerManagers := fun
      | .player1 => e₁.manager
      | .player2 => e₂.manager
    actorIdIncrement := e₂.actorIdIncrement }

/-! ## Turns -/

omit [LinearOrder K] [FloorRing K] [Field K] in
/-- What the players leave for a turn, and whose turn is skipped. -/
structure Input (c : Constants K) where
  playerStates : PlayerId → PlayerState c
  skipPlayerCommandsFlags : PlayerId → Bool

/-- The commands of a turn. -/
def execute {c : Constants K} (input : Input c) (st : State K) :
    Except Fault (CommandPhase K) :=
  StateSyncer.executePlayerCommands input.playerStates input.skipPlayerCommandsFlags st

variable [SquareRoot K]

/-- One turn of a game: the states before it, after its commands, and after its
update. -/
structure Turn (K : Type) where
  before : State K
  commanded : State K
  after : State K

/-- `r` plays the given turn on some input. -/
def Turn.IsPlayed (r : Ruleset K) (t : Turn K) : Prop :=
  ∃ (input : Input r.toConstants) (ph : CommandPhase K),
    execute input t.before = .ok ph ∧ ph.state = t.commanded ∧
      State.update r.toConstants t.commanded = .ok t.after

/-- **The games of a set of rules**: the turns played so far, oldest first, and
the state they lead to from the initial one. -/
inductive Game (r : Ruleset K) : List (Turn K) → State K → Prop
  | start {st : State K} (h : buildState r.toConstants = .ok st) : Game r [] st
  | turn {past : List (Turn K)} {t : Turn K} (h : Game r past t.before) (ht : t.IsPlayed r) :
      Game r (past ++ [t]) t.after

/-- A state between two turns of some game. -/
def Reachable (r : Ruleset K) (st : State K) : Prop := ∃ past, Game r past st

/-- A state between the commands and the update of some turn. -/
def Commanded (r : Ruleset K) (st : State K) : Prop :=
  ∃ (before : State K) (input : Input r.toConstants) (ph : CommandPhase K),
    Reachable r before ∧ execute input before = .ok ph ∧ ph.state = st

end Simulator
