import Simulator.Main.Game
import Simulator.State.Update

/-!
# The initial state

`BuildState` returns, and the state it returns is rested: every player has a base tower, whose
range it owns, and soldiers without orders.  It is the base case of everything that is proved of
games.

## A constructor that can throw

`BuildState` makes the map, the soldiers of both players and the money, and then the tower
managers, each with the base tower of its player.  The constructor of a tower manager computes the
range of that tower and marks it on the map, which fails when the table of ranges has no entry for
its level or a cell of the range is not on the map.  That both constructors return is proved for
every ruleset, whatever its base positions (`exists_construct`): what is asked of a tower is that
it is sound, and a sound tower has a range.

The second manager is constructed over the map that the first has painted.  It paints the flags of
its own player only, so that what the first has painted stays (`exists_started`).

## What is known of the state

`State.Started` lists what the rest of the development needs of a state that `BuildState` has
left: the soldiers as they were built, with their ids, the base towers, and the money.  From it
`Started.rested` follows without a look at the constructors.  A base tower is created with the hp
of the lowest level and is a tower like any other, but for its mark; that it stays what it is, is
another matter.
-/

namespace Simulator

open Foundation

variable {K : Type} [Field K] [LinearOrder K] [FloorRing K]

/-! ## The base towers -/

omit [Field K] [LinearOrder K] [FloorRing K] in
/-- The base tower of a player. -/
def baseTower (c : Constants K) (p : PlayerId) (id : ℤ) : Tower K where
  id := id
  playerId := p
  hp := c.towerHps[0]?.getD 0
  maxHp := c.towerHps[0]?.getD 0
  position := c.baseTowerPositions p
  isBase := true
  towerLevel := 1

omit [Field K] [LinearOrder K] [FloorRing K] in
theorem buildBaseTower_eq (r : Ruleset K) (p : PlayerId) (id : ℤ) :
    buildBaseTower r.toConstants p id = .ok (baseTower r.toConstants p id) := by
  rw [buildBaseTower, TowerEnv.exists_vectorAt_zero r.length_towerHps, ok_bind]
  rfl

omit [Field K] [LinearOrder K] [FloorRing K] in
theorem sound_baseTower (r : Ruleset K) (p : PlayerId) (id : ℤ) :
    (baseTower r.toConstants p id).Sound r.toConstants p := by
  have hat := TowerEnv.exists_vectorAt_zero r.length_towerHps
  have hpos : (0 : ℤ) < r.towerHps[0]?.getD 0 := r.towerHps_pos _ (mem_of_vectorAt hat)
  have hlen : 0 < r.towerBuildCosts.length := List.length_pos_of_ne_nil r.towerBuildCosts_ne_nil
  exact ⟨rfl, le_refl _, by simp only [baseTower]; omega, by simpa [baseTower] using hat, hpos.le,
    le_refl _⟩

omit [Field K] [LinearOrder K] [FloorRing K] in
/-- The manager of a player at the beginning of a game. -/
def startManager (t : Tower K) (p : PlayerId) (territoryRefs : Cell → ℤ) : TowerManager K where
  towers := [t]
  playerId := p
  towersToBuildOffsets := []
  towersToUpgrade := []
  towersToSuicide := []
  towersToDelete0 := []
  towersToDelete1 := []
  territoryRefs := territoryRefs

omit [Field K] [LinearOrder K] [FloorRing K] in
theorem sound_startManager {r : Ruleset K} {t : Tower K} {p : PlayerId}
    (ht : t.Sound r.toConstants p) {bound : ℤ} (hge : 2 * r.numSoldiers ≤ t.id)
    (hlt : t.id < bound) (refs : Cell → ℤ) :
    (startManager t p refs).Sound r.toConstants p bound where
  playerId_eq := rfl
  tower := by simpa [startManager, TowerManager.allocatedTowers] using ht
  sorted := List.pairwise_singleton ..
  nodup := by simp [startManager, TowerManager.allocatedTowers]
  deleted := by simp [startManager]
  id_ge := by simpa [startManager, TowerManager.allocatedTowers] using hge
  id_lt := by simpa [startManager, TowerManager.allocatedTowers] using hlt
  bound_ge := by omega

/-! ## The soldiers -/

theorem soldiers_of_buildState {c : Constants K} {st : State K} (h : buildState c = .ok st) :
    st.soldiers = buildSoldiers c := by
  obtain ⟨e₁, -, h⟩ := bind_eq_ok.mp h
  obtain ⟨e₂, -, h⟩ := bind_eq_ok.mp h
  obtain rfl := Except.ok.inj h
  rfl

omit [LinearOrder K] [FloorRing K] in
theorem getElem?_buildSoldiers {c : Constants K} {p : PlayerId} {i : ℕ} {s : Soldier K}
    (hs : (buildSoldiers c p)[i]? = some s) :
    s = buildSoldier c p (c.numSoldiers * p.index + i) := by
  unfold buildSoldiers at hs
  rw [List.getElem?_map, Option.map_eq_some_iff] at hs
  obtain ⟨k, hk, rfl⟩ := hs
  obtain ⟨-, rfl⟩ := List.getElem?_eq_some_iff.mp hk
  simp

omit [LinearOrder K] [FloorRing K] in
theorem sound_buildSoldier (r : Ruleset K) (p : PlayerId) (i : ℕ) :
    (buildSoldier r.toConstants p (r.numSoldiers * p.index + i)).Sound r.toConstants p i where
  id_eq := rfl
  playerId_eq := rfl
  maxHp_eq := rfl
  speed_eq := rfl
  attackRange_eq := rfl
  attackDamage_eq := rfl
  damage_nonneg := le_refl _
  damage_le := r.soldierMaxHp_pos.le
  hp_le := le_refl _
  dead_iff := by simp [buildSoldier, SoldierState.isDead, r.soldierMaxHp_pos.ne']
  remaining := nofun
  dead_quiet := fun _ => ⟨rfl, rfl⟩
  one_order := nofun
  busy := fun _ hidle => absurd rfl hidle

/-! ## The whole state -/

variable [IsStrictOrderedRing K]

/-- **A tower manager with one sound tower** can be constructed. -/
theorem exists_construct {r : Ruleset K} {t : Tower K} {p : PlayerId} (ht : t.Sound r.toConstants p)
    (money : MoneyManager) (map : GameMap) (id : ℤ) :
    ∃ e, TowerEnv.construct r.toConstants [t] p money map id = .ok e ∧
      e.manager = startManager t p e.manager.territoryRefs ∧ e.moneyManager = money ∧
      e.actorIdIncrement = id := by
  obtain ⟨bounds, hb⟩ := TowerEnv.exists_calculateBounds ht map
  set e : TowerEnv K := {
    manager := startManager t p fun _ => 0
    moneyManager := money, map, actorIdIncrement := id } with he
  refine ⟨e.setTerritory (e.territory.claim bounds.cells), ?_, rfl, rfl, rfl⟩
  have hmark := TowerEnv.foldlM_markTerritory e fun cell hcell =>
    TowerEnv.contains_of_calculateBounds hb (Bounds.mem_cells.mp hcell)
  simp only [TowerEnv.construct, List.foldlM_cons, List.foldlM_nil, hb, TowerEnv.orThrow_ok,
    ok_bind, pure_eq_ok]
  change (bounds.cells.foldlM TowerEnv.markTerritory e >>= fun e => .ok e) = _
  rw [hmark, ok_bind]

namespace State

omit [IsStrictOrderedRing K] in
/-- A state as `BuildState` leaves it. -/
structure Started (c : Constants K) (st : State K) : Prop where
  soldiers : st.soldiers = buildSoldiers c
  manager : ∀ p, ∃ refs, st.towerManagers p =
    startManager (baseTower c p (2 * c.numSoldiers + p.index)) p refs
  moneyManager : st.moneyManager = buildMoneyManager c
  actorIdIncrement : st.actorIdIncrement = 2 * c.numSoldiers + 2
  size : st.map.size = c.mapSize
  elementSize : st.map.elementSize = c.mapElementSize
  painted : ∀ p, (st.towerEnv p).Painted c

omit [LinearOrder K] [FloorRing K] [IsStrictOrderedRing K] in
/-- The initial state, when the two managers have been constructed. -/
def startState (c : Constants K) (e₁ e₂ : TowerEnv K) : State K where
  soldiers := buildSoldiers c
  map := e₂.map
  moneyManager := e₂.moneyManager
  towerManagers
    | .player1 => e₁.manager
    | .player2 => e₂.manager
  actorIdIncrement := e₂.actorIdIncrement

/-- The second manager is constructed over the map of the first, and paints its own
flags only. -/
theorem exists_started (r : Ruleset K) :
    ∃ st, buildState r.toConstants = .ok st ∧ st.Started r.toConstants := by
  set money := buildMoneyManager r.toConstants with hmoney
  obtain ⟨e₁, h₁, hm₁, hmoney₁, hid₁⟩ := exists_construct (sound_baseTower r .player1
    (2 * r.numSoldiers)) money (buildMap r.toConstants) (2 * r.numSoldiers + 1)
  obtain ⟨e₂, h₂, hm₂, hmoney₂, hid₂⟩ := exists_construct (sound_baseTower r .player2
    (2 * r.numSoldiers + 1)) money e₁.map (2 * r.numSoldiers + 1 + 1)
  obtain ⟨hp₁, -, hpl₁, hs₁, he₁, ho₁⟩ := TowerEnv.painted_of_construct (fun _ => rfl) h₁
  obtain ⟨hp₂, -, hpl₂, hs₂, he₂, ho₂⟩ := TowerEnv.painted_of_construct
    (fun cell => by rw [ho₁ .player2 (by decide)]; rfl) h₂
  set st := startState r.toConstants e₁ e₂ with hst
  have hbuild : buildState r.toConstants = .ok st := by
    have hb₁ : buildTowerManager r.toConstants .player1 money (buildMap r.toConstants)
        (2 * r.numSoldiers) = .ok e₁ := by
      rw [buildTowerManager, buildBaseTower_eq, ok_bind, h₁]
      rfl
    have hb₂ : buildTowerManager r.toConstants .player2 e₁.moneyManager e₁.map
        e₁.actorIdIncrement = .ok e₂ := by
      rw [buildTowerManager, buildBaseTower_eq, ok_bind, hmoney₁, hid₁, h₂]
      rfl
    rw [buildState, ← hmoney, hb₁, ok_bind, hb₂]
    rfl
  refine ⟨st, hbuild, rfl, ?_, hmoney₂, ?_, hs₂.trans hs₁, he₂.trans he₁, ?_⟩
  · intro p
    cases p with
    | player1 => exact ⟨_, by simpa [hst, startState, PlayerId.index] using hm₁⟩
    | player2 => exact ⟨_, by simpa [hst, startState, PlayerId.index] using hm₂⟩
  · simp only [hst, startState, hid₂]
    ring
  · intro p
    cases p with
    | player1 =>
      refine hp₁.congr rfl hs₂ he₂ ?_
      simp only [State.towerEnv, TowerEnv.territory, hst, startState, hpl₁]
      rw [ho₂ .player1 (by decide)]
    | player2 => exact hp₂

section Started

variable {r : Ruleset K} {st : State K} (h : st.Started r.toConstants)

include h

omit [IsStrictOrderedRing K]

theorem Started.towers (p : PlayerId) :
    st.towers p = [baseTower r.toConstants p (2 * r.numSoldiers + p.index)] := by
  obtain ⟨refs, hm⟩ := h.manager p
  rw [State.towers, hm]
  rfl

theorem Started.allocatedTowers (p : PlayerId) : (st.towerManagers p).allocatedTowers =
    [baseTower r.toConstants p (2 * r.numSoldiers + p.index)] := by
  obtain ⟨refs, hm⟩ := h.manager p
  rw [hm]
  rfl

theorem Started.soldier {p : PlayerId} {i : ℕ} {s : Soldier K}
    (hs : (st.soldiers p)[i]? = some s) :
    s = buildSoldier r.toConstants p (r.numSoldiers * p.index + i) :=
  getElem?_buildSoldiers (by rwa [h.soldiers] at hs)

theorem Started.sound : st.Sound r.toConstants where
  length_soldiers := fun p => by simp [h.soldiers, buildSoldiers]
  soldier := fun p i s hs => h.soldier hs ▸ sound_buildSoldier r p i
  target := fun p i s ptr hs hptr => by
    rw [h.soldier hs] at hptr
    cases hptr
  manager := fun p => by
    obtain ⟨refs, hm⟩ := h.manager p
    have hindex : (p.index : ℤ) = 0 ∨ (p.index : ℤ) = 1 := by
      cases p <;> simp [PlayerId.index]
    have hlt : (2 * r.numSoldiers + p.index : ℤ) < st.actorIdIncrement := by
      rw [h.actorIdIncrement]
      omega
    rw [hm]
    exact sound_startManager (sound_baseTower r p _) (by simp only [baseTower]; omega) hlt refs
  disjoint := fun p t ht u hu => by
    rw [h.allocatedTowers, List.mem_singleton] at ht hu
    rw [ht, hu]
    cases p <;> simp [baseTower, PlayerId.index, PlayerId.opponent]
  tables := by
    rw [h.moneyManager]
    exact ⟨rfl, rfl, rfl⟩
  size := h.size
  elementSize := h.elementSize
  painted := h.painted

theorem Started.rested : st.Rested r where
  sound := h.sound
  undamaged := fun p i s hs => by
    rw [h.soldier hs]
    rfl
  targeting := {
    tower := fun p i s q id hs hptr => by
      rw [h.soldier hs] at hptr
      cases hptr
    soldier := fun p i s q j u n hs hptr => by
      rw [h.soldier hs] at hptr
      cases hptr }
  settled := fun p i s hs => by
    rw [h.soldier hs]
    exact ⟨fun _ => ⟨rfl, rfl⟩, nofun, nofun⟩
  buildsDone := fun p => by
    obtain ⟨refs, hm⟩ := h.manager p
    rw [hm]
    rfl
  upgradesDone := fun p => by
    obtain ⟨refs, hm⟩ := h.manager p
    rw [hm]
    rfl
  suicidesDone := fun p => by
    obtain ⟨refs, hm⟩ := h.manager p
    rw [hm]
    rfl
  room := fun p => by
    rw [h.towers]
    exact r.maxNumTowers_pos

end Started

end State

/-- **`BuildState` returns a rested state**, in which each player has its base
tower, and no reward has been paid. -/
theorem exists_buildState (r : Ruleset K) :
    ∃ st, buildState r.toConstants = .ok st ∧ st.Rested r ∧
      (∀ p, st.towers p = [baseTower r.toConstants p (2 * r.numSoldiers + p.index)]) ∧
      st.moneyManager = buildMoneyManager r.toConstants := by
  obtain ⟨st, hst, hstarted⟩ := State.exists_started r
  exact ⟨st, hst, hstarted.rested, hstarted.towers, hstarted.moneyManager⟩

end Simulator
