import Simulator.State.MoneyManager
import Simulator.State.GameMap

/-!
# The tower manager

A `TowerManager` owns the towers of one player.  During a turn it collects
requests in three queues, and its `update` carries them out: it builds, upgrades
and demolishes, and then removes the towers whose hp is zero.  With each of these
it repaints the territory of its player on the shared map, using a grid of
reference counters of its own.

A manager reaches more than itself: through pointers the money and the map, and
through a static counter the next actor id.  `TowerEnv` is all of it, and the
methods below take it and return it.  A method that throws reports the
environment it left behind, because the caller of a C++ method that throws finds
whatever the method had done until then.
-/

namespace Simulator

open Foundation

/-- The towers of one player and the requests for the next update. -/
structure TowerManager (K : Type) where
  towers : List (Tower K)
  playerId : PlayerId
  towersToBuildOffsets : List (Vector K)
  towersToUpgrade : List ℤ
  towersToSuicide : List ℤ
  /-- Removed towers two turns old. -/
  towersToDelete0 : List (Tower K)
  /-- Removed towers one turn old. -/
  towersToDelete1 : List (Tower K)
  /-- The number of towers whose range contains a cell; the grid has the side of
  the map. -/
  territoryRefs : Cell → ℤ

/-- What the methods of a tower manager reach. -/
@[ext]
structure TowerEnv (K : Type) where
  manager : TowerManager K
  moneyManager : MoneyManager
  map : GameMap
  /-- The static counter behind `GetNextActorId`. -/
  actorIdIncrement : ℤ

/-- What a method of the tower manager answers, or the fault it throws and the
environment it throws it in. -/
abbrev TowerM (K : Type) := Except (Fault × TowerEnv K)

namespace TowerManager

variable {K : Type}

/-- `BuildTower`: queue an offset. -/
def buildTower (m : TowerManager K) (offset : Vector K) : TowerManager K :=
  { m with towersToBuildOffsets := m.towersToBuildOffsets ++ [offset] }

/-- `UpgradeTower`: queue a tower id. -/
def upgradeTower (m : TowerManager K) (towerId : ℤ) : TowerManager K :=
  { m with towersToUpgrade := m.towersToUpgrade ++ [towerId] }

/-- `SuicideTower`: queue a tower id. -/
def suicideTower (m : TowerManager K) (towerId : ℤ) : TowerManager K :=
  { m with towersToSuicide := m.towersToSuicide ++ [towerId] }

/-- The index of the last tower with the given id, which is where a search from
the back of the list stops. -/
def towerIndex (towerId : ℤ) : List (Tower K) → Option ℕ
  | [] => none
  | t :: ts =>
    match towerIndex towerId ts with
    | some i => some (i + 1)
    | none => if t.id = towerId then some 0 else none

theorem towerIndex_eq_none {towerId : ℤ} {ts : List (Tower K)} :
    towerIndex towerId ts = none ↔ ∀ t ∈ ts, t.id ≠ towerId := by
  induction ts with
  | nil => simp [towerIndex]
  | cons t ts ih =>
    rw [towerIndex, List.forall_mem_cons, ← ih]
    cases towerIndex towerId ts with
    | some i => simp
    | none => simp

theorem getElem?_of_towerIndex {towerId : ℤ} {ts : List (Tower K)} {i : ℕ}
    (h : towerIndex towerId ts = some i) : ∃ t, ts[i]? = some t ∧ t.id = towerId := by
  induction ts generalizing i with
  | nil => simp [towerIndex] at h
  | cons t ts ih =>
    rw [towerIndex] at h
    cases hts : towerIndex towerId ts with
    | some j =>
      rw [hts] at h
      obtain rfl : j + 1 = i := Option.some.inj h
      exact ih hts
    | none =>
      rw [hts] at h
      by_cases ht : t.id = towerId
      · simp only [ht, if_true, Option.some.injEq] at h
        subst h
        exact ⟨t, rfl, ht⟩
      · simp [ht] at h

/-- Get a tower by its id. -/
def getTowerById (m : TowerManager K) (towerId : ℤ) : Except Fault (Tower K) :=
  match towerIndex towerId m.towers with
  | some i => vectorAt m.towers i
  | none => .error (.outOfRange "Invalid tower_id, tower does not exist")

end TowerManager

namespace TowerEnv

open TowerManager

variable {K : Type}

/-- Pass on the result of a call that throws without touching the environment. -/
def orThrow {α : Type} (e : TowerEnv K) (x : Except Fault α) : TowerM K α :=
  x.mapError fun fault => (fault, e)

@[simp] theorem orThrow_ok {α : Type} (e : TowerEnv K) (a : α) :
    e.orThrow (.ok a) = .ok a := rfl

@[simp] theorem orThrow_error {α : Type} (e : TowerEnv K) (fault : Fault) :
    e.orThrow (.error fault : Except Fault α) = .error (fault, e) := rfl

theorem orThrow_eq_ok {α : Type} {e : TowerEnv K} {x : Except Fault α} {a : α} :
    e.orThrow x = .ok a ↔ x = .ok a := by
  cases x <;> simp

variable [Field K] [LinearOrder K] [FloorRing K]

/-! ## Territory -/

/-- The range of a tower on the map, clamped at the edges. -/
def calculateBounds (c : Constants K) (m : GameMap) (t : Tower K) : Except Fault Bounds := do
  let mapSize : ℤ := m.size
  let towerOffset := (t.position.divide (.ofInt m.elementSize)).floor
  let range ← vectorAt c.towerRanges (t.towerLevel - 1)
  return {
    lowerX := max (towerOffset.x - .ofInt range).toInt 0
    upperX := min (towerOffset.x + .ofInt range).toInt (mapSize - 1)
    lowerY := max (towerOffset.y - .ofInt range).toInt 0
    upperY := min (towerOffset.y + .ofInt range).toInt (mapSize - 1) }

/-- `territory_refs[i][j] += n`. -/
def addRefs (e : TowerEnv K) (cell : Cell) (n : ℤ) : TowerM K (TowerEnv K) :=
  if e.map.Contains cell then
    let refs := e.manager.territoryRefs
    .ok { e with manager.territoryRefs := Function.update refs cell (refs cell + n) }
  else .error (.undefined, e)

/-- Set the ownership of this player on a cell of the map. -/
def setOwnership (e : TowerEnv K) (cell : Cell) (ownership : Bool) : TowerM K (TowerEnv K) := do
  let element ← e.orThrow (e.map.getElementByOffset (Vector.ofInt cell.1 cell.2 : Vector K))
  return { e with map := e.map.setOwnership element e.manager.playerId ownership }

/-- Count one more tower on a cell. -/
def markTerritory (e : TowerEnv K) (cell : Cell) : TowerM K (TowerEnv K) := do
  let e ← e.addRefs cell 1
  e.setOwnership cell true

/-- Count one tower less on a cell, which is given up with the last one. -/
def unmarkTerritory (e : TowerEnv K) (cell : Cell) : TowerM K (TowerEnv K) := do
  let e ← e.addRefs cell (-1)
  if e.manager.territoryRefs cell = 0 then e.setOwnership cell false else return e

/-! ## The constructor -/

/-- The constructor: no requests, and the territory of the initial towers. -/
def construct (c : Constants K) (towers : List (Tower K)) (playerId : PlayerId)
    (moneyManager : MoneyManager) (map : GameMap) (actorIdIncrement : ℤ) : TowerM K (TowerEnv K) :=
  let manager : TowerManager K := {
    towers, playerId
    towersToBuildOffsets := []
    towersToUpgrade := []
    towersToSuicide := []
    towersToDelete0 := []
    towersToDelete1 := []
    territoryRefs := fun _ => 0 }
  towers.foldlM (fun e t => do
      let bounds ← e.orThrow (calculateBounds c e.map t)
      bounds.cells.foldlM markTerritory e)
    { manager, moneyManager, map, actorIdIncrement }

/-! ## The handlers -/

/-- A new tower at an offset. -/
def newTower (c : Constants K) (e : TowerEnv K) (buildOffset : Vector K) :
    Except Fault (Tower K) := do
  let hp ← vectorAt c.towerHps 0
  let elementSize := e.map.elementSize
  let center (offset : Double K) : Double K :=
    Double.ofInt elementSize * offset + Double.ofInt (elementSize / 2)
  return {
    id := e.actorIdIncrement
    playerId := e.manager.playerId
    hp, maxHp := hp
    position := ⟨center buildOffset.x, center buildOffset.y⟩
    isBase := false
    towerLevel := 1 }

/-- One round of `HandleTowerBuildUpdates`. -/
def buildNext (c : Constants K) (e : TowerEnv K) (buildOffset : Vector K) :
    TowerM K (TowerEnv K) := do
  let e := { e with manager.towersToBuildOffsets := e.manager.towersToBuildOffsets.tail }
  let cost ← e.orThrow (vectorAt c.towerBuildCosts 0)
  let moneyManager ← e.orThrow (e.moneyManager.decrease e.manager.playerId cost)
  let e := { e with moneyManager }
  let t ← e.orThrow (newTower c e buildOffset)
  let e := { e with
    actorIdIncrement := e.actorIdIncrement + 1
    manager.towers := e.manager.towers ++ [t] }
  let bounds ← e.orThrow (calculateBounds c e.map t)
  bounds.cells.foldlM markTerritory e

/-- Consumes the queue of offsets and builds towers at them. -/
def handleTowerBuildUpdates (c : Constants K) (e : TowerEnv K) : TowerM K (TowerEnv K) :=
  e.manager.towersToBuildOffsets.foldlM (buildNext c) e

/-- One round of `HandleTowerUpgradeUpdates`. -/
def upgradeNext (c : Constants K) (e : TowerEnv K) (towerId : ℤ) : TowerM K (TowerEnv K) := do
  let e := { e with manager.towersToUpgrade := e.manager.towersToUpgrade.tail }
  match towerIndex towerId e.manager.towers with
  | none => .error (.outOfRange "Cannot upgrade non-existent tower", e)
  | some i =>
    let t ← e.orThrow (vectorAt e.manager.towers i)
    if t.towerLevel = c.towerBuildCosts.length then
      .error (.outOfRange "Max level reached, upgrade not allowed", e)
    else
      let cost ← e.orThrow (vectorAt c.towerBuildCosts t.towerLevel)
      let moneyManager ← e.orThrow (e.moneyManager.decrease e.manager.playerId cost)
      let e := { e with moneyManager }
      let oldBounds ← e.orThrow (calculateBounds c e.map t)
      let t ← e.orThrow (t.upgrade c)
      let e := { e with manager.towers := e.manager.towers.set i t }
      let newBounds ← e.orThrow (calculateBounds c e.map t)
      -- territory that was already set before the upgrade is skipped
      (newBounds.cells.filter fun cell => ¬ oldBounds.Contains cell).foldlM markTerritory e

/-- Consumes the queue of upgrades. -/
def handleTowerUpgradeUpdates (c : Constants K) (e : TowerEnv K) : TowerM K (TowerEnv K) :=
  e.manager.towersToUpgrade.foldlM (upgradeNext c) e

/-- One round of `HandleTowerSuicideUpdates`. -/
def suicideNext (e : TowerEnv K) (towerId : ℤ) : TowerM K (TowerEnv K) := do
  let e := { e with manager.towersToSuicide := e.manager.towersToSuicide.tail }
  match towerIndex towerId e.manager.towers with
  | none => .error (.outOfRange "Cannot suicide non-existent tower", e)
  | some i =>
    let t ← e.orThrow (vectorAt e.manager.towers i)
    let t ← e.orThrow (t.setHp 0)
    let e := { e with manager.towers := e.manager.towers.set i t }
    let moneyManager ← e.orThrow (e.moneyManager.rewardSuicide t)
    return { e with moneyManager }

/-- Consumes the queue of suicides. -/
def handleTowerSuicideUpdates (e : TowerEnv K) : TowerM K (TowerEnv K) :=
  e.manager.towersToSuicide.foldlM suicideNext e

/-- The indices of the dead towers, in ascending order. -/
def deadIndices (towers : List (Tower K)) : List ℕ :=
  (List.range towers.length).filter fun i => (towers[i]?.map Tower.hp) = some 0

/-- Give up the territory of the tower at an index and take it off the list. -/
def deleteTower (c : Constants K) (e : TowerEnv K) (i : ℕ) : TowerM K (TowerEnv K) := do
  let t ← e.orThrow (vectorAt e.manager.towers i)
  let bounds ← e.orThrow (calculateBounds c e.map t)
  let e ← bounds.cells.foldlM unmarkTerritory e
  return { e with
    manager.towersToDelete1 := e.manager.towersToDelete1 ++ [t]
    manager.towers := e.manager.towers.eraseIdx i }

/-- Removes the dead towers, and shifts the lists of the removed ones. -/
def handleTowerDeathUpdates (c : Constants K) (e : TowerEnv K) : TowerM K (TowerEnv K) :=
  let e := { e with
    manager.towersToDelete0 := e.manager.towersToDelete1
    manager.towersToDelete1 := [] }
  (deadIndices e.manager.towers).reverse.foldlM (deleteTower c) e

/-- `Update`. -/
def update (c : Constants K) (e : TowerEnv K) : TowerM K (TowerEnv K) := do
  let e ← handleTowerBuildUpdates c e
  let e ← handleTowerUpgradeUpdates c e
  let e ← handleTowerSuicideUpdates e
  handleTowerDeathUpdates c e

end TowerEnv

end Simulator
