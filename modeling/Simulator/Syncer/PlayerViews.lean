import Simulator.Logger.Logger

/-!
# Refreshing the players' copies

`UpdatePlayerStates` writes what a player may see of the state into the player's copy,
resets the members the player writes its commands to, and has the state logged.

Player 2 sees everything turned by half a turn, so that both players see their base in
the same corner.  The map is turned in place: `FlipMap` exchanges the elements of the
first half with those of the second, and the territory flags of each with one another.
Positions are turned by `FlipPosition`.

## As the source has it

Two things in the source are kept here although a refresh could be written without them.  The
local map is copied from the state once and not made anew for the second player, whose round turns
what the round of the first has left, with its marks.  And the loop that writes the soldiers of an
enemy asks for their number once, and from then on for that of the other player, so that it runs
as far as the one or the other says (`numSoldierRounds`); in a game both teams are equally large.

A copy has the player's own actors in its own frame and those of the opponent in the same frame,
so that a player never sees a position as the other does (`viewer`).
-/

namespace Simulator

open Foundation

variable {K : Type}

namespace StateSyncer

/-! ## Towers and soldiers -/

/-- The state of a soldier, as a player sees it. -/
def soldierState : SoldierState → PlayerState.SoldierState
  | .idle => .idle
  | .move => .move
  | .attack => .attack
  | .pursuit => .pursuit
  | .dead _ => .dead

section Attributes

variable [Field K]

/-- A position, as player `p` sees it. -/
def shownPosition (m : GameMap) (p : PlayerId) (position : Vector K) : Vector K :=
  if p = .player1 then position else flipPosition m position

/-- The player whose frame the actors of player `id` are shown in. -/
def viewer (id : PlayerId) (isEnemy : Bool) : PlayerId := if isEnemy then id.opponent else id

/-- `AssignTowerAttributes`. -/
def assignTowerAttributes {n : ℕ} (st : State K) (id : PlayerId) (isEnemy : Bool)
    (towers : Fin n → PlayerState.Tower K) : Except Fault (Fin n → PlayerState.Tower K) :=
  (List.range (st.towers id).length).foldlM (fun towers (i : ℕ) => do
    let t ← vectorAt (st.towers id) i
    arraySet towers i {
      id := t.id
      position := shownPosition st.map (viewer id isEnemy) t.position
      hp := t.hp
      level := t.towerLevel
      upgradeTower := false
      suicide := false }) towers

/-- The number of rounds of `AssignSoldierAttributes`.  The loop over the soldiers of an
enemy asks for their number once, and from then on for that of the other player. -/
def numSoldierRounds (st : State K) (id : PlayerId) (isEnemy : Bool) : ℕ :=
  let numSoldiers := (st.soldiers id).length
  if isEnemy then
    if numSoldiers = 0 then 0 else max 1 (st.soldiers id.opponent).length
  else numSoldiers

/-- `AssignSoldierAttributes`. -/
def assignSoldierAttributes {n : ℕ} (st : State K) (id : PlayerId) (isEnemy : Bool)
    (soldiers : Fin n → PlayerState.Soldier K) : Except Fault (Fin n → PlayerState.Soldier K) :=
  (List.range (numSoldierRounds st id isEnemy)).foldlM (fun soldiers (i : ℕ) => do
    let s ← vectorAt (st.soldiers id) i
    arraySet soldiers i {
      id := s.id
      position := shownPosition st.map (viewer id isEnemy) s.position
      hp := s.hp
      state := soldierState s.state
      isImmune := s.isInvulnerable
      towerTarget := -1
      soldierTarget := -1
      destination := Vector.ofInt (-1) (-1) }) soldiers

end Attributes

/-! ## The map -/

/-- The local variable `player_map`, a grid with the side of the map. -/
abbrev PlayerMap := Cell → PlayerState.MapElement

/-- The map of the state, as it is copied first.  `valid_territory` is set later. -/
def copyMap (m : GameMap) : PlayerMap := fun cell => {
  territory := m.owns .player1 cell
  enemyTerritory := m.owns .player2 cell
  validTerritory := false
  buildTower := false }

/-- `std::swap` of the territory flags of an element. -/
def swapTerritory (e : PlayerState.MapElement) : PlayerState.MapElement :=
  { e with territory := e.enemyTerritory, enemyTerritory := e.territory }

/-- `std::swap` of two elements. -/
def swapElements (playerMap : PlayerMap) (cell cell' : Cell) : PlayerMap :=
  Function.update (Function.update playerMap cell (playerMap cell')) cell' (playerMap cell)

/-- The cell on the other side of the centre. -/
def oppositeCell (mapSize : ℕ) (cell : Cell) : Cell := (mapSize - 1 - cell.1, mapSize - 1 - cell.2)

/-- The body of the loops of `FlipMap`. -/
def flipElements (mapSize : ℕ) (playerMap : PlayerMap) (cell : Cell) : PlayerMap :=
  let cell' := oppositeCell mapSize cell
  let playerMap := Function.update playerMap cell (swapTerritory (playerMap cell))
  let playerMap := Function.update playerMap cell' (swapTerritory (playerMap cell'))
  swapElements playerMap cell cell'

/-- `FlipMap`. -/
def flipMap (mapSize : ℕ) (playerMap : PlayerMap) : PlayerMap :=
  let half : ℤ := mapSize / 2
  let playerMap := (Bounds.mk 0 (half - 1) 0 (mapSize - 1)).cells.foldl (flipElements mapSize)
    playerMap
  if mapSize % 2 ≠ 0 then
    -- the first half of the row in the middle
    (intRange 0 (half - 1)).foldl (fun playerMap j => flipElements mapSize playerMap (half, j))
      playerMap
  else playerMap

/-- What belongs to the player alone is valid territory. -/
def markValidTerritory (playerMap : PlayerMap) : PlayerMap := fun cell =>
  let e := playerMap cell
  { e with validTerritory := ¬ (e.territory = false ∨ e.enemyTerritory = true) }

section Offsets

variable [Field K] [LinearOrder K] [FloorRing K]

/-- The element of `player_map` a tower stands on, in the frame of player `p`. -/
def towerElement (m : GameMap) (p : PlayerId) (t : Tower K) : Except Fault Cell :=
  let offset := ((shownPosition m p t.position).divide (.ofInt m.elementSize)).floor
  match offset.x, offset.y with
  | .num _, .num _ =>
    let cell := (offset.x.toInt, offset.y.toInt)
    if m.Contains cell then .ok cell else .error .undefined
  | _, _ => .error .undefined

/-- Where a tower stands is no valid territory. -/
def maskTowers (st : State K) (p : PlayerId) (playerMap : PlayerMap) : Except Fault PlayerMap :=
  (st.towers p).foldlM (fun playerMap t => do
    let cell ← towerElement st.map p t
    return Function.update playerMap cell { playerMap cell with validTerritory := false }) playerMap

end Offsets

/-- Copy `player_map` into the array of a player. -/
def writeMap {n : ℕ} (mapSize : ℕ) (playerMap : PlayerMap)
    (map : Fin n → Fin n → PlayerState.MapElement) :
    Except Fault (Fin n → Fin n → PlayerState.MapElement) :=
  if mapSize ≤ n then
    .ok fun i j => if (i : ℕ) < mapSize ∧ (j : ℕ) < mapSize then playerMap (i, j) else map i j
  else .error .undefined

/-! ## The players' copies -/

section Players

variable [Field K] [LinearOrder K] [FloorRing K]

/-- One round of the loop over the players.  `player_map` is kept for the next round. -/
def updatePlayerState {c : Constants K} (st : State K)
    (x : PlayerMap × (PlayerId → PlayerState c)) (p : PlayerId) :
    Except Fault (PlayerMap × (PlayerId → PlayerState c)) := do
  let (playerMap, playerStates) := x
  let ps := playerStates p
  -- player 2 sees the map from the other side
  let playerMap := if p = .player2 then flipMap st.map.size playerMap else playerMap
  let towers ← assignTowerAttributes st p false ps.towers
  let enemyTowers ← assignTowerAttributes st p.opponent true ps.enemyTowers
  let soldiers ← assignSoldierAttributes st p false ps.soldiers
  let enemySoldiers ← assignSoldierAttributes st p.opponent true ps.enemySoldiers
  let playerMap ← maskTowers st p (markValidTerritory playerMap)
  let map ← writeMap st.map.size playerMap ps.map
  return (playerMap, Function.update playerStates p {
    map, soldiers, enemySoldiers, towers, enemyTowers
    numTowers := (st.towers p).length
    numEnemyTowers := (st.towers p.opponent).length
    money := st.moneyManager.playerMoney p })

/-- `UpdatePlayerStates`. -/
def updatePlayerStates {c : Constants K} (st : State K) (logger : Logger)
    (playerStates : PlayerId → PlayerState c) :
    Except Fault (Logger × (PlayerId → PlayerState c)) := do
  let (_, playerStates) ← PlayerId.all.foldlM (updatePlayerState st) (copyMap st.map, playerStates)
  -- the turn is over
  let logger ← logger.logState c st
  return (logger, playerStates)

/-- The two rounds of a refresh, and the frame it logs. -/
theorem exists_rounds_of_updatePlayerStates {c : Constants K} {st : State K}
    {logger logger' : Logger} {playerStates playerStates' : PlayerId → PlayerState c}
    (h : updatePlayerStates st logger playerStates = .ok (logger', playerStates')) :
    ∃ x₁ x₂, updatePlayerState st (copyMap st.map, playerStates) .player1 = .ok x₁ ∧
      updatePlayerState st x₁ .player2 = .ok x₂ ∧ playerStates' = x₂.2 ∧
      logger.logState c st = .ok logger' := by
  obtain ⟨x₂, hrounds, h⟩ := bind_eq_ok.mp h
  obtain ⟨l, hlog, h⟩ := bind_eq_ok.mp h
  obtain ⟨rfl, rfl⟩ := Prod.mk.inj (Except.ok.inj h)
  simp only [PlayerId.all, List.foldlM_cons, List.foldlM_nil, bind_eq_ok, pure_eq_ok,
    Except.ok.injEq] at hrounds
  obtain ⟨x₁, h₁, x₂', h₂, rfl⟩ := hrounds
  exact ⟨x₁, _, h₁, h₂, rfl, hlog⟩

end Players

end StateSyncer

end Simulator
