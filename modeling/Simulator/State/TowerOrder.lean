import Simulator.Foundation.Renaming
import Simulator.State.SoldierOrder

/-!
# The order of the players in the towers' phase

The update of a tower manager reads and writes what belongs to its own player: the
towers, the queues and the counters of the manager, the balance of the player, its
payouts, and its flags on the map.  The one thing that both updates use is the
counter that hands out actor ids.  So an update that succeeds in one environment
succeeds in every other that has the same for this player, and does the same there,
except that the new towers get other ids.

`TowerEnv.within` is the other environment, and `Fits.update` says this.

## Round by round

A statement about two environments is proved along the program, like one about two runs.  For each
of the four loops there is a lemma that a round which returns here returns elsewhere, and that
what it leaves there is what it leaves here, moved.  The moving is a function with three
arguments, a renaming, a shift of the counter, and the rest of the other environment, and the
round commutes with it.  The ids that requests name have to be ids from before the shift, as those
stay what they are.

## Both players

Each player's update is first made on its own (`Updates`).  The update that comes second finds the
counter further on and the other player's things changed, which is an environment that fits.  So the
towers' phase puts the two updates together, in either order, and what depends on the order is which
of the two players' new towers have the earlier ids (`Updates.combine_eq`).
-/

namespace Simulator

open Foundation

variable {K : Type}

/-- The tower under another id. -/
def Tower.rename (f : ℤ → ℤ) (t : Tower K) : Tower K := { t with id := f t.id }

theorem Tower.upgrade_rename {c : Constants K} {t t' : Tower K} (f : ℤ → ℤ)
    (h : t.upgrade c = .ok t') : (t.rename f).upgrade c = .ok (t'.rename f) := by
  obtain ⟨hp, hhp, rfl⟩ := TowerEnv.upgrade_eq_ok.mp h
  exact TowerEnv.upgrade_eq_ok.mpr ⟨hp, hhp, rfl⟩

/-- The state with the towers under other ids. -/
def State.rename (f : ℤ → ℤ) (st : State K) : State K :=
  { st with towerManagers := fun p => (st.towerManagers p).mapTowers (Tower.rename f) }

/-- The money with what belongs to one player taken from elsewhere. -/
def MoneyManager.withShare (m : MoneyManager) (p : PlayerId) (m' : MoneyManager) : MoneyManager :=
  { m with
    playerMoney := Function.update m.playerMoney p (m'.playerMoney p)
    payouts := Function.update m.payouts p (m'.payouts p) }

namespace TowerEnv

/-- The environment moved: what belongs to the player stays, everything else is taken
from elsewhere, the towers have other ids and the counter is `k` further. -/
def within (f : ℤ → ℤ) (k : ℤ) (m : MoneyManager) (map : GameMap) (e : TowerEnv K) :
    TowerEnv K where
  manager := e.manager.mapTowers (Tower.rename f)
  moneyManager := m.withShare e.manager.playerId e.moneyManager
  map := map.withOwner e.manager.playerId (e.map.owns e.manager.playerId)
  actorIdIncrement := e.actorIdIncrement + k

section Within

variable {f : ℤ → ℤ} {k : ℤ} {m : MoneyManager} {map : GameMap} {e : TowerEnv K}

@[simp] theorem territory_within : (e.within f k m map).territory = e.territory := by
  simp [territory, within, TowerManager.mapTowers]

theorem built_within (t : Tower K) (cost : ℤ) (cells : List Cell) :
    (e.built t cost cells).within f k m map =
      (e.within f k m map).built (t.rename f) cost cells := by
  have hid : e.actorIdIncrement + 1 + k = e.actorIdIncrement + k + 1 := by omega
  rw [built, built, territory_within]
  simp [within, setTerritory, TowerManager.mapTowers, MoneyManager.withShare,
    MoneyManager.setBalance, hid]

theorem upgraded_within (i : ℕ) (t : Tower K) (cost : ℤ) (cells : List Cell) :
    (e.upgraded i t cost cells).within f k m map =
      (e.within f k m map).upgraded i (t.rename f) cost cells := by
  rw [upgraded, upgraded, territory_within]
  simp [within, setTerritory, TowerManager.mapTowers, MoneyManager.withShare,
    MoneyManager.setBalance, List.map_set]

theorem demolished_within (i : ℕ) {t : Tower K} (amount : ℤ)
    (hplayer : t.playerId = e.manager.playerId) (hid : f t.id = t.id)
    (hmax : m.maxMoney = e.moneyManager.maxMoney) :
    (e.demolished i t amount).within f k m map =
      (e.within f k m map).demolished i (t.rename f) amount := by
  simp [demolished, within, TowerManager.mapTowers, MoneyManager.withShare, MoneyManager.pay,
    MoneyManager.record, MoneyManager.increased, MoneyManager.setBalance, List.map_set,
    Tower.rename, hplayer, hid, hmax]

theorem deleted_within (i : ℕ) (t : Tower K) (cells : List Cell) :
    (e.deleted i t cells).within f k m map =
      (e.within f k m map).deleted i (t.rename f) cells := by
  rw [deleted, deleted, territory_within]
  simp [within, setTerritory, TowerManager.mapTowers, List.eraseIdx_map]

end Within

/-! ## The rounds, elsewhere -/

/-- The other environment has the same map sizes and the same tables; the counter is
past `a`, and the requests are for towers from before. -/
structure Fits (a : ℤ) (m : MoneyManager) (map : GameMap) (e : TowerEnv K) : Prop where
  bound : a ≤ e.actorIdIncrement
  upgrades : ∀ towerId ∈ e.manager.towersToUpgrade, towerId < a
  suicides : ∀ towerId ∈ e.manager.towersToSuicide, towerId < a
  size : map.size = e.map.size
  elementSize : map.elementSize = e.map.elementSize
  maxMoney : m.maxMoney = e.moneyManager.maxMoney
  towerSuicide : m.towerSuicideRewardAmounts = e.moneyManager.towerSuicideRewardAmounts
  playerId : ∀ t ∈ e.manager.towers, t.playerId = e.manager.playerId

section Rounds

variable [Field K] [LinearOrder K] [FloorRing K] {c : Constants K} {a k : ℤ} {m : MoneyManager}
  {map : GameMap} {e e' : TowerEnv K}

theorem Fits.calculateBounds_rename (h : e.Fits a m map) (f : ℤ → ℤ) (t : Tower K) :
    calculateBounds c (e.within f k m map).map (t.rename f) = calculateBounds c e.map t :=
  (calculateBounds_congr h.size h.elementSize _).trans (calculateBounds_tower_congr rfl rfl)

omit [Field K] [LinearOrder K] [FloorRing K] in
@[simp] theorem getElem?_within {f : ℤ → ℤ} (i : ℕ) :
    (e.within f k m map).manager.towers[i]? = e.manager.towers[i]?.map (Tower.rename f) := by
  simp [within, TowerManager.mapTowers]

omit [Field K] [LinearOrder K] [FloorRing K] in
@[simp] theorem playerMoney_within {f : ℤ → ℤ} :
    (e.within f k m map).moneyManager.playerMoney (e.within f k m map).manager.playerId =
      e.moneyManager.playerMoney e.manager.playerId := by
  simp [within, TowerManager.mapTowers, MoneyManager.withShare]

omit [Field K] [LinearOrder K] [FloorRing K] in
theorem towerIndex_within (hk : 0 ≤ k) {towerId : ℤ} (h : towerId < a) :
    TowerManager.towerIndex towerId (e.within (shiftFrom a k) k m map).manager.towers =
      TowerManager.towerIndex towerId e.manager.towers := by
  show TowerManager.towerIndex towerId (e.manager.towers.map (Tower.rename (shiftFrom a k))) = _
  induction e.manager.towers with
  | nil => rfl
  | cons t ts ih =>
    have hid : (t.rename (shiftFrom a k)).id = towerId ↔ t.id = towerId := shiftFrom_eq_iff hk h
    rw [List.map_cons, TowerManager.towerIndex, TowerManager.towerIndex, ih]
    simp only [hid]

omit [LinearOrder K] [FloorRing K] in
theorem Fits.newTower (h : e.Fits a m map) {offset : Vector K} {t : Tower K}
    (ht : TowerEnv.newTower c e offset = .ok t) :
    TowerEnv.newTower c (e.within (shiftFrom a k) k m map) offset =
      .ok (t.rename (shiftFrom a k)) := by
  obtain ⟨hp, hhp, rfl⟩ := newTower_eq_ok.mp ht
  refine newTower_eq_ok.mpr ⟨hp, hhp, ?_⟩
  simp only [Tower.rename, shiftFrom_of_le h.bound, within, GameMap.elementSize_withOwner,
    h.elementSize]
  rfl

variable [IsStrictOrderedRing K]

theorem Fits.buildNext (h : e.Fits a m map) {offset : Vector K}
    (hround : TowerEnv.buildNext c e offset = .ok e') :
    TowerEnv.buildNext c (e.within (shiftFrom a k) k m map) offset =
      .ok (e'.within (shiftFrom a k) k m map) ∧ e'.Fits a m map := by
  obtain ⟨cost, t, bounds, hcost, hpos, hle, ht, hb, rfl⟩ := buildNext_eq_ok.mp hround
  constructor
  · exact buildNext_eq_ok.mpr ⟨cost, t.rename (shiftFrom a k), bounds, hcost, hpos,
      by rwa [playerMoney_within], h.newTower ht, (h.calculateBounds_rename _ t).trans hb,
      (built_within t cost bounds.cells).symm⟩
  · obtain ⟨hp, -, rfl⟩ := newTower_eq_ok.mp ht
    refine ⟨h.bound.trans (le_add_of_nonneg_right Int.one_nonneg), h.upgrades, h.suicides, h.size,
      h.elementSize, h.maxMoney, h.towerSuicide, ?_⟩
    intro u hu
    rcases List.mem_append.mp hu with hu | hu
    · exact h.playerId u hu
    · rw [List.mem_singleton.mp hu]
      rfl

theorem Fits.upgradeNext (h : e.Fits a m map) (hk : 0 ≤ k) {towerId : ℤ} (hid : towerId < a)
    (hround : TowerEnv.upgradeNext c e towerId = .ok e') :
    TowerEnv.upgradeNext c (e.within (shiftFrom a k) k m map) towerId =
      .ok (e'.within (shiftFrom a k) k m map) ∧ e'.Fits a m map := by
  obtain ⟨i, t, cost, oldBounds, t', newBounds, hi, ht, hlevel, hcost, hpos, hle, hold, hup, hnew,
    rfl⟩ := upgradeNext_eq_ok.mp hround
  constructor
  · refine upgradeNext_eq_ok.mpr ⟨i, t.rename (shiftFrom a k), cost, oldBounds,
      t'.rename (shiftFrom a k), newBounds, (towerIndex_within hk hid).trans hi, ?_, hlevel, hcost,
      hpos, ?_, (h.calculateBounds_rename _ t).trans hold, Tower.upgrade_rename _ hup,
      (h.calculateBounds_rename _ t').trans hnew, (upgraded_within i t' cost _).symm⟩
    · rw [getElem?_within, ht]
      rfl
    · rwa [playerMoney_within]
  · refine ⟨h.bound, fun id hid => h.upgrades id (List.mem_of_mem_tail hid), h.suicides, h.size,
      h.elementSize, h.maxMoney, h.towerSuicide, ?_⟩
    intro u hu
    rcases List.mem_or_eq_of_mem_set hu with hu | rfl
    · exact h.playerId u hu
    · obtain ⟨hp, -, rfl⟩ := upgrade_eq_ok.mp hup
      exact h.playerId t (List.mem_of_getElem? ht)

omit [Field K] [LinearOrder K] [FloorRing K] [IsStrictOrderedRing K] in
theorem Fits.suicideNext (h : e.Fits a m map) (hk : 0 ≤ k) {towerId : ℤ} (hid : towerId < a)
    (hround : TowerEnv.suicideNext e towerId = .ok e') :
    TowerEnv.suicideNext (e.within (shiftFrom a k) k m map) towerId =
      .ok (e'.within (shiftFrom a k) k m map) ∧ e'.Fits a m map := by
  obtain ⟨i, t, amount, hi, ht, hhp, hamount, hpos, rfl⟩ := suicideNext_eq_ok.mp hround
  have hplayer := h.playerId t (List.mem_of_getElem? ht)
  obtain ⟨t', ht', hid'⟩ := TowerManager.getElem?_of_towerIndex hi
  obtain rfl := Option.some.inj (ht.symm.trans ht')
  constructor
  · refine suicideNext_eq_ok.mpr ⟨i, t.rename (shiftFrom a k), amount,
      (towerIndex_within hk hid).trans hi, by rw [getElem?_within, ht]; rfl, hhp, ?_, hpos,
      (demolished_within i amount hplayer (shiftFrom_of_lt (hid' ▸ hid)) h.maxMoney).symm⟩
    exact (congrArg (fun l => vectorAt l (t.towerLevel - 1)) h.towerSuicide).trans hamount
  · refine ⟨h.bound, h.upgrades, fun id hid => h.suicides id (List.mem_of_mem_tail hid), h.size,
      h.elementSize, h.maxMoney, h.towerSuicide, ?_⟩
    intro u hu
    rcases List.mem_or_eq_of_mem_set hu with hu | rfl
    · exact h.playerId u hu
    · exact hplayer

theorem Fits.deleteTower (h : e.Fits a m map) {i : ℕ}
    (hround : TowerEnv.deleteTower c e i = .ok e') :
    TowerEnv.deleteTower c (e.within (shiftFrom a k) k m map) i =
      .ok (e'.within (shiftFrom a k) k m map) ∧ e'.Fits a m map := by
  obtain ⟨t, bounds, ht, hb, rfl⟩ := exists_of_deleteTower hround
  constructor
  · rw [deleted_within]
    exact deleteTower_eq_ok (by rw [getElem?_within, ht]; rfl)
      ((h.calculateBounds_rename _ t).trans hb)
  · exact ⟨h.bound, h.upgrades, h.suicides, h.size, h.elementSize, h.maxMoney, h.towerSuicide,
      fun u hu => h.playerId u (List.mem_of_mem_eraseIdx hu)⟩

omit [Field K] [LinearOrder K] [FloorRing K] [IsStrictOrderedRing K] in
theorem deadIndices_rename (f : ℤ → ℤ) (ts : List (Tower K)) :
    deadIndices (ts.map (Tower.rename f)) = deadIndices ts := by
  unfold deadIndices
  rw [List.length_map]
  refine List.filter_congr ?_
  intro i _
  rw [List.getElem?_map, Option.map_map]
  rfl

theorem Fits.handleTowerDeathUpdates (h : e.Fits a m map)
    (hrun : TowerEnv.handleTowerDeathUpdates c e = .ok e') :
    TowerEnv.handleTowerDeathUpdates c (e.within (shiftFrom a k) k m map) =
      .ok (e'.within (shiftFrom a k) k m map) := by
  have haged : e.aged.Fits a m map :=
    ⟨h.bound, h.upgrades, h.suicides, h.size, h.elementSize, h.maxMoney, h.towerSuicide, h.playerId⟩
  have hindices : deadIndices (e.within (shiftFrom a k) k m map).aged.manager.towers =
      deadIndices e.aged.manager.towers := deadIndices_rename (shiftFrom a k) e.manager.towers
  have hloop := foldlM_transport (TowerEnv.within (shiftFrom a k) k m map)
    (I := fun e : TowerEnv K => e.Fits a m map) (fun _ _ _ h _ hround => h.deleteTower hround)
    haged hrun
  show (deadIndices (e.within (shiftFrom a k) k m map).aged.manager.towers).reverse.foldlM
    (TowerEnv.deleteTower c) (e.within (shiftFrom a k) k m map).aged = _
  rw [hindices]
  exact hloop.1

/-- **The update of a tower manager elsewhere** does what it does here. -/
theorem Fits.update (h : e.Fits a m map) (hk : 0 ≤ k) (hrun : TowerEnv.update c e = .ok e') :
    TowerEnv.update c (e.within (shiftFrom a k) k m map) =
      .ok (e'.within (shiftFrom a k) k m map) := by
  simp only [TowerEnv.update, bind_eq_ok] at hrun
  obtain ⟨e₁, h₁, e₂, h₂, e₃, h₃, h₄⟩ := hrun
  obtain ⟨hbuild, hI₁⟩ := foldlM_transport (TowerEnv.within (shiftFrom a k) k m map)
    (I := fun e : TowerEnv K => e.Fits a m map) (fun _ _ _ h _ hround => h.buildNext hround) h h₁
  obtain ⟨hupgrade, hI₂⟩ := foldlM_transport (TowerEnv.within (shiftFrom a k) k m map)
    (I := fun e : TowerEnv K => e.Fits a m map)
    (fun _ _ id h hid hround => h.upgradeNext hk (hI₁.upgrades id hid) hround) hI₁ h₂
  obtain ⟨hsuicide, hI₃⟩ := foldlM_transport (TowerEnv.within (shiftFrom a k) k m map)
    (I := fun e : TowerEnv K => e.Fits a m map)
    (fun _ _ id h hid hround => h.suicideNext hk (hI₂.suicides id hid) hround) hI₂ h₃
  exact bind_eq_ok.mpr ⟨_, hbuild, bind_eq_ok.mpr ⟨_, hupgrade, bind_eq_ok.mpr ⟨_, hsuicide,
    hI₃.handleTowerDeathUpdates h₄⟩⟩⟩

end Rounds

end TowerEnv

namespace State

variable [Field K] [LinearOrder K] [FloorRing K] [IsStrictOrderedRing K]

/-! ## Both players -/

/-- What the updates of the two tower managers make of the state when each is made on
its own. -/
structure Updates (r : Ruleset K) (st : State K) (e : PlayerId → TowerEnv K) : Prop where
  update : ∀ p, TowerEnv.update r.toConstants (st.towerEnv p) = .ok (e p)
  playerId : ∀ p, (e p).manager.playerId = p
  context : ∀ p, (st.towerEnv p).SameContext (e p)
  tables : ∀ p, (e p).moneyManager.HasTables r.toConstants
  id_lt : ∀ p, ∀ t ∈ (e p).manager.allocatedTowers, t.id < (e p).actorIdIncrement
  actorIdIncrement : ∀ p, (e p).actorIdIncrement =
    st.actorIdIncrement + (st.towerManagers p).towersToBuildOffsets.length
  playerMoney : ∀ p q, q ≠ p → (e p).moneyManager.playerMoney q = st.moneyManager.playerMoney q
  payouts : ∀ p q, q ≠ p → (e p).moneyManager.payouts q = st.moneyManager.payouts q

theorem Ready.exists_updates {r : Ruleset K} {st : State K} (h : st.Ready r) :
    ∃ e, st.Updates r e := by
  have hspec : ∀ p, ∃ e, TowerEnv.update r.toConstants (st.towerEnv p) = .ok e ∧
      e.Sound r.toConstants p ∧ (st.towerEnv p).SameContext e ∧
      (∀ q, q ≠ p → e.moneyManager.payouts q = st.moneyManager.payouts q) ∧
      (∀ q, q ≠ p → e.moneyManager.playerMoney q = st.moneyManager.playerMoney q) ∧
      e.actorIdIncrement =
        st.actorIdIncrement + (st.towerManagers p).towersToBuildOffsets.length := by
    intro p
    obtain ⟨e, hrun, hs, hctx, -, hpay, hmoney, hid⟩ :=
      TowerEnv.update_spec (h.sound.env p) (h.queued p)
    refine ⟨e, hrun, hs, hctx, ?_, hmoney, hid⟩
    intro q hq
    rw [hpay, Function.update_of_ne hq]
    rfl
  choose e hrun hs hctx hpay hmoney hid using hspec
  exact ⟨e, hrun, fun p => (hs p).manager.playerId_eq, hctx, fun p => (hs p).tables,
    fun p => (hs p).manager.id_lt, hid, hmoney, hpay⟩

omit [Field K] [LinearOrder K] [FloorRing K] [IsStrictOrderedRing K] in
/-- Both updates together, that of player `p` first. -/
def combine (st : State K) (e : PlayerId → TowerEnv K) (p : PlayerId) : State K :=
  let k := (e p).actorIdIncrement - st.actorIdIncrement
  (st.setTowerEnv p (e p)).setTowerEnv p.opponent
    ((e p.opponent).within (shiftFrom st.actorIdIncrement k) k (e p).moneyManager (e p).map)

section Updates

variable {r : Ruleset K} {st : State K} {e : PlayerId → TowerEnv K}

omit [IsStrictOrderedRing K] in
/-- What the second player finds after the update of the first. -/
theorem Updates.towerEnv_eq (h : st.Updates r e) (hst : st.Ready r) (p : PlayerId) :
    let k := (e p).actorIdIncrement - st.actorIdIncrement
    (st.setTowerEnv p (e p)).towerEnv p.opponent =
      (st.towerEnv p.opponent).within (shiftFrom st.actorIdIncrement k) k (e p).moneyManager
        (e p).map := by
  intro k
  have hne := PlayerId.opponent_ne p
  have hplayer : (st.towerManagers p.opponent).playerId = p.opponent :=
    (hst.sound.manager p.opponent).playerId_eq
  have hplayer' : (st.towerEnv p).manager.playerId = p := (hst.sound.manager p).playerId_eq
  refine TowerEnv.ext ?_ ?_ ?_ ?_
  · have hsame : ∀ t ∈ (st.towerManagers p.opponent).allocatedTowers,
        t.rename (shiftFrom st.actorIdIncrement k) = t := fun t ht => by
      rw [Tower.rename, shiftFrom_of_lt ((hst.sound.manager p.opponent).id_lt t ht)]
    show Function.update st.towerManagers p (e p).manager p.opponent =
      (st.towerManagers p.opponent).mapTowers (Tower.rename (shiftFrom st.actorIdIncrement k))
    rw [Function.update_of_ne hne, TowerManager.mapTowers_congr hsame, TowerManager.mapTowers_id]
  · show (e p).moneyManager = (e p).moneyManager.withShare (st.towerManagers p.opponent).playerId
      st.moneyManager
    rw [hplayer, MoneyManager.withShare, ← h.playerMoney p _ hne, ← h.payouts p _ hne,
      Function.update_eq_self, Function.update_eq_self]
  · show (e p).map = (e p).map.withOwner (st.towerManagers p.opponent).playerId
      (st.map.owns (st.towerManagers p.opponent).playerId)
    have howns : (e p).map.owns p.opponent = st.map.owns p.opponent :=
      (h.context p).owns p.opponent (by rw [hplayer']; exact hne)
    rw [hplayer, ← howns, GameMap.withOwner_owns]
  · show (e p).actorIdIncrement = st.actorIdIncrement + k
    omega

/-- **The towers' phase puts the two updates together.** -/
theorem Updates.foldlM_updateTowers (h : st.Updates r e) (hst : st.Ready r) (p : PlayerId) :
    [p, p.opponent].foldlM (updateTowers r.toConstants) st = .ok (st.combine e p) := by
  have hplayer : (st.towerEnv p).manager.playerId = p := (hst.sound.manager p).playerId_eq
  have hfirst : updateTowers r.toConstants st p = .ok (st.setTowerEnv p (e p)) := by
    rw [updateTowers, h.update p]
  have hfits : (st.towerEnv p.opponent).Fits st.actorIdIncrement (e p).moneyManager (e p).map := by
    have hold := (hst.sound.manager p.opponent).id_lt
    have hqueued := hst.queued p.opponent
    refine ⟨le_rfl, ?_, ?_, (h.context p).size,
      (h.context p).elementSize,
      (h.context p).maxMoney, ?_, ?_⟩
    · intro id hid
      obtain ⟨t, ht, rfl, -⟩ := hqueued.upgrades id hid
      exact hold t (TowerManager.mem_allocatedTowers_of_mem ht)
    · intro id hid
      obtain ⟨t, ht, rfl⟩ := hqueued.suicides id hid
      exact hold t (TowerManager.mem_allocatedTowers_of_mem ht)
    · exact (h.tables p).towerSuicide.trans hst.sound.tables.towerSuicide.symm
    · intro t ht
      exact ((hst.sound.manager p.opponent).tower t
        (TowerManager.mem_allocatedTowers_of_mem ht)).playerId_eq.trans
          (hst.sound.manager p.opponent).playerId_eq.symm
  have hle : 0 ≤ (e p).actorIdIncrement - st.actorIdIncrement := by
    rw [h.actorIdIncrement p]
    omega
  have hsecond : updateTowers r.toConstants (st.setTowerEnv p (e p)) p.opponent =
      .ok (st.combine e p) := by
    rw [updateTowers, h.towerEnv_eq hst p, hfits.update hle (h.update p.opponent)]
    rfl
  simp [hfirst, hsecond]

omit [IsStrictOrderedRing K] in
theorem Updates.map_eq (h : st.Updates r e) :
    (e .player2).map.withOwner .player1 ((e .player1).map.owns .player1) =
      (e .player1).map.withOwner .player2 ((e .player2).map.owns .player2) := by
  have hctx₁ := h.context .player1
  have hctx₂ := h.context .player2
  refine GameMap.ext (hctx₂.size.trans hctx₁.size.symm)
    (hctx₂.elementSize.trans hctx₁.elementSize.symm) (funext fun cell => MapElement.ext ?_ ?_)
  · exact (hctx₂.terrainType cell).trans (hctx₁.terrainType cell).symm
  · ext q
    cases q <;> rfl

omit [IsStrictOrderedRing K] in
theorem Updates.moneyManager_eq (h : st.Updates r e) :
    (e .player2).moneyManager.withShare .player1 (e .player1).moneyManager =
      (e .player1).moneyManager.withShare .player2 (e .player2).moneyManager := by
  have htables₁ := h.tables .player1
  have htables₂ := h.tables .player2
  refine MoneyManager.ext ?_
    ((h.context .player2).maxMoney.trans (h.context .player1).maxMoney.symm)
    (htables₂.towerKill.trans htables₁.towerKill.symm)
    (htables₂.soldierKill.trans htables₁.soldierKill.symm)
    (htables₂.towerSuicide.trans htables₁.towerSuicide.symm) ?_
  · ext q
    cases q <;> rfl
  · ext q
    cases q <;> rfl

omit [IsStrictOrderedRing K] in
/-- **The order of the players decides over the ids of the new towers**, and over
nothing else. -/
theorem Updates.combine_eq (h : st.Updates r e) :
    st.combine e .player2 = (st.combine e .player1).rename
      (exchange st.actorIdIncrement (st.towerManagers .player1).towersToBuildOffsets.length
        (st.towerManagers .player2).towersToBuildOffsets.length) := by
  set n₁ := (st.towerManagers .player1).towersToBuildOffsets.length with hn₁
  set n₂ := (st.towerManagers .player2).towersToBuildOffsets.length with hn₂
  have hid₁ : (e .player1).actorIdIncrement = st.actorIdIncrement + n₁ := h.actorIdIncrement _
  have hid₂ : (e .player2).actorIdIncrement = st.actorIdIncrement + n₂ := h.actorIdIncrement _
  have hk₁ : (e .player1).actorIdIncrement - st.actorIdIncrement = n₁ := by omega
  have hk₂ : (e .player2).actorIdIncrement - st.actorIdIncrement = n₂ := by omega
  have hp₁ : (e .player1).manager.playerId = .player1 := h.playerId _
  have hp₂ : (e .player2).manager.playerId = .player2 := h.playerId _
  refine State.ext rfl ?_ ?_ ?_ ?_
  · show (e .player2).map.withOwner (e .player1).manager.playerId
      ((e .player1).map.owns (e .player1).manager.playerId) =
        (e .player1).map.withOwner (e .player2).manager.playerId
          ((e .player2).map.owns (e .player2).manager.playerId)
    rw [hp₁, hp₂]
    exact h.map_eq
  · show (e .player2).moneyManager.withShare (e .player1).manager.playerId
        (e .player1).moneyManager =
      (e .player1).moneyManager.withShare (e .player2).manager.playerId (e .player2).moneyManager
    rw [hp₁, hp₂]
    exact h.moneyManager_eq
  · ext q
    cases q with
    | player1 =>
      show (e .player1).manager.mapTowers (Tower.rename (shiftFrom st.actorIdIncrement
        ((e .player2).actorIdIncrement - st.actorIdIncrement))) =
          (e .player1).manager.mapTowers (Tower.rename (exchange st.actorIdIncrement n₁ n₂))
      rw [hk₂]
      refine TowerManager.mapTowers_congr ?_
      intro t ht
      have hlt : t.id < st.actorIdIncrement + n₁ := hid₁ ▸ h.id_lt .player1 t ht
      rw [Tower.rename, Tower.rename, exchange_eq_shiftFrom hlt]
    | player2 =>
      show (e .player2).manager = ((e .player2).manager.mapTowers (Tower.rename (shiftFrom
        st.actorIdIncrement ((e .player1).actorIdIncrement - st.actorIdIncrement)))).mapTowers
          (Tower.rename (exchange st.actorIdIncrement n₁ n₂))
      have hsame : ∀ t ∈ (e .player2).manager.allocatedTowers, (Tower.rename
          (exchange st.actorIdIncrement n₁ n₂) ∘
            Tower.rename (shiftFrom st.actorIdIncrement n₁)) t =
            t := fun t ht => by
        have hlt : t.id < st.actorIdIncrement + n₂ := hid₂ ▸ h.id_lt .player2 t ht
        simp only [Function.comp_apply, Tower.rename, exchange_shiftFrom hlt]
      rw [hk₁, TowerManager.mapTowers_mapTowers, TowerManager.mapTowers_congr hsame,
        TowerManager.mapTowers_id]
  · show (e .player1).actorIdIncrement + ((e .player2).actorIdIncrement - st.actorIdIncrement) =
      (e .player2).actorIdIncrement + ((e .player1).actorIdIncrement - st.actorIdIncrement)
    omega

end Updates

end State

end Simulator
