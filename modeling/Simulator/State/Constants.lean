import Simulator.State.Utilities

/-!
# The constants of a game

`constants/*.h` fix the numbers of a game, and `main.cpp` copies them into the
static members of `Soldier`, `Tower` and `TowerManager` and into the constructors
of the other classes.  `Constants` collects them.  The build costs appear twice in
the source, as `TowerManager::build_costs` and as the table `StateSyncer` checks
against; both are `TOWER_BUILD_COSTS`, so there is one table here.

## Which constants make a game

The code does not check its constants, and with some of them it does not make sense: a table with
fewer entries than there are levels is read beyond its end, and a soldier with negative hp cannot
be created.  `Ruleset` is a set of constants a game can be played with: what the tables have to
satisfy for their own entries to be read, and the signs of the amounts.  These are conditions on
numbers only, and they can be checked before a game begins; nothing in them is about a state.

What is proved for every ruleset is proved for the numbers in `constants/*.h`
(`productionRules`), and for those of a small game (`sampleRules`) with a map of four by four and
soldiers that the first hit kills.  The small game is one a kernel can play, so that what is said
of all games can be looked at in one of them.
-/

namespace Simulator

open Foundation

variable {K : Type}

/-- The constants a game is built from. -/
structure Constants (K : Type) where
  mapSize : ℕ
  mapElementSize : ℤ
  moneyStart : ℤ
  moneyMax : ℤ
  towerKillRewardAmounts : List ℤ
  soldierKillRewardAmount : ℤ
  towerSuicideRewardAmounts : List ℤ
  numSoldiers : ℕ
  soldierMaxHp : ℤ
  soldierSpeed : ℤ
  soldierAttackRange : ℤ
  soldierAttackDamage : ℤ
  soldierTotalTurnsToRespawn : ℤ
  soldierNumTurnsInvulnerable : ℤ
  baseTowerPositions : PlayerId → Vector K
  respawnPositions : PlayerId → Vector K
  towerHps : List ℤ
  towerBuildCosts : List ℤ
  towerRanges : List ℤ
  maxNumTowers : ℕ

/-- Constants a game can be played with.  The tables are indexed by tower level
and have one length, amounts of money are positive, and towers and soldiers can live
and die: they have hp to lose, do not gain hp when hit, and a soldier stays dead for
at least a turn. -/
structure Ruleset (K : Type) extends Constants K where
  mapElementSize_pos : 0 < mapElementSize
  towerBuildCosts_ne_nil : towerBuildCosts ≠ []
  length_towerHps : towerHps.length = towerBuildCosts.length
  length_towerRanges : towerRanges.length = towerBuildCosts.length
  length_towerKillRewardAmounts : towerKillRewardAmounts.length = towerBuildCosts.length
  length_towerSuicideRewardAmounts : towerSuicideRewardAmounts.length = towerBuildCosts.length
  towerBuildCosts_pos : ∀ cost ∈ towerBuildCosts, 0 < cost
  towerHps_pos : ∀ hp ∈ towerHps, 0 < hp
  towerKillRewardAmounts_pos : ∀ amount ∈ towerKillRewardAmounts, 0 < amount
  towerSuicideRewardAmounts_pos : ∀ amount ∈ towerSuicideRewardAmounts, 0 < amount
  soldierKillRewardAmount_pos : 0 < soldierKillRewardAmount
  soldierMaxHp_pos : 0 < soldierMaxHp
  soldierAttackDamage_nonneg : 0 ≤ soldierAttackDamage
  soldierTotalTurnsToRespawn_pos : 1 ≤ soldierTotalTurnsToRespawn
  maxNumTowers_pos : 1 ≤ maxNumTowers

/-- The constants in `constants/*.h`. -/
def productionRules : Ruleset ℚ where
  mapSize := 30
  mapElementSize := 50
  moneyStart := 300
  moneyMax := 2 ^ 63 - 1
  towerKillRewardAmounts := [300, 500, 700]
  soldierKillRewardAmount := 200
  towerSuicideRewardAmounts := [150, 250, 400]
  numSoldiers := 20
  soldierMaxHp := 100
  soldierSpeed := 50
  soldierAttackRange := 60
  soldierAttackDamage := 50
  soldierTotalTurnsToRespawn := 10
  soldierNumTurnsInvulnerable := 2
  baseTowerPositions
    | .player1 => Vector.ofInt ((30 / 6 - 1) * 50 + 50 / 2) ((30 / 6 - 1) * 50 + 50 / 2)
    | .player2 => Vector.ofInt (30 * 5 / 6 * 50 + 50 / 2) (30 * 5 / 6 * 50 + 50 / 2)
  respawnPositions
    | .player1 => Vector.ofInt ((30 / 6 - 1) * 50 + 50 / 2) ((30 / 6 - 1) * 50 + 50 / 2)
    | .player2 => Vector.ofInt (30 * 5 / 6 * 50 + 50 / 2) (30 * 5 / 6 * 50 + 50 / 2)
  towerHps := [7000, 10000, 15000]
  towerBuildCosts := [800, 800, 800]
  towerRanges := [2, 3, 4]
  maxNumTowers := 15
  mapElementSize_pos := by decide
  towerBuildCosts_ne_nil := by decide
  length_towerHps := rfl
  length_towerRanges := rfl
  length_towerKillRewardAmounts := rfl
  length_towerSuicideRewardAmounts := rfl
  towerBuildCosts_pos := by decide
  towerHps_pos := by decide
  towerKillRewardAmounts_pos := by decide
  towerSuicideRewardAmounts_pos := by decide
  soldierKillRewardAmount_pos := by decide
  soldierMaxHp_pos := by decide
  soldierAttackDamage_nonneg := by decide
  soldierTotalTurnsToRespawn_pos := by decide
  maxNumTowers_pos := by decide

/-- Constants of a small game: a map of four by four, one soldier for each player,
which the first hit kills, and two tower levels. -/
def sampleRules : Ruleset ℚ where
  mapSize := 4
  mapElementSize := 2
  moneyStart := 10
  moneyMax := 2 ^ 63 - 1
  towerKillRewardAmounts := [3, 5]
  soldierKillRewardAmount := 2
  towerSuicideRewardAmounts := [1, 2]
  numSoldiers := 1
  soldierMaxHp := 1
  soldierSpeed := 1
  soldierAttackRange := 10
  soldierAttackDamage := 1
  soldierTotalTurnsToRespawn := 2
  soldierNumTurnsInvulnerable := 2
  baseTowerPositions
    | .player1 => Vector.ofInt 1 1
    | .player2 => Vector.ofInt 7 7
  respawnPositions
    | .player1 => Vector.ofInt 1 1
    | .player2 => Vector.ofInt 7 7
  towerHps := [1, 2]
  towerBuildCosts := [1, 1]
  towerRanges := [1, 1]
  maxNumTowers := 3
  mapElementSize_pos := by decide
  towerBuildCosts_ne_nil := by decide
  length_towerHps := rfl
  length_towerRanges := rfl
  length_towerKillRewardAmounts := rfl
  length_towerSuicideRewardAmounts := rfl
  towerBuildCosts_pos := by decide
  towerHps_pos := by decide
  towerKillRewardAmounts_pos := by decide
  towerSuicideRewardAmounts_pos := by decide
  soldierKillRewardAmount_pos := by decide
  soldierMaxHp_pos := by decide
  soldierAttackDamage_nonneg := by decide
  soldierTotalTurnsToRespawn_pos := by decide
  maxNumTowers_pos := by decide

end Simulator
