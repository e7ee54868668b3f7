import Simulator.State.Effects
import Simulator.State.TowerRun

/-!
# Sound states

`State.Sound` is what holds of a state at every moment of a game: during the
commands, between the updates of two soldiers, and between two turns.  It has one
part for the soldiers, one for what their target pointers point to, one for each
tower manager, and one for the territory.  A target need not be listed: in the
middle of an update it may be a tower that has just been removed, but its memory
has not been released, and its hp is zero.

## Why one invariant

The state of a game goes through many calls in a turn, and each of them is a program of its own
with things that it needs.  An update of a soldier needs that the pointer does not dangle; an
upgrade needs that the tables have an entry for the level; a deletion needs that the range of the
tower can be computed.  Each of these is kept by calls that have nothing to do with it.  So there
is one structure with all of it, and every call is shown to keep it as a whole, while what holds
only between the phases of a turn is said on top of it.

## Wear

While soldiers act, towers lose hp and nothing else happens to them (`Worn`).  That is enough for
a tower manager to stay sound (`TowerManager.Sound.mapTowers`) and for the territory to stay what
it is (`Painted.map`), since neither the range of a tower nor its place depends on its hp.
-/

namespace Simulator

open Foundation

variable {K : Type}

/-- What holds of a tower of player `p` at all times. -/
structure Tower.Sound (c : Constants K) (p : PlayerId) (t : Tower K) : Prop where
  playerId_eq : t.playerId = p
  level_pos : 1 ≤ t.towerLevel
  level_le : t.towerLevel ≤ c.towerBuildCosts.length
  maxHp_eq : vectorAt c.towerHps (t.towerLevel - 1) = .ok t.maxHp
  hp_nonneg : 0 ≤ t.hp
  hp_le : t.hp ≤ t.maxHp

/-- What holds of the tower manager of player `p` at all times; `bound` is the next
actor id. -/
structure TowerManager.Sound (c : Constants K) (p : PlayerId) (bound : ℤ) (m : TowerManager K) :
    Prop where
  playerId_eq : m.playerId = p
  tower : ∀ t ∈ m.allocatedTowers, t.Sound c p
  sorted : m.towers.Pairwise fun t u => t.id < u.id
  nodup : (m.allocatedTowers.map Tower.id).Nodup
  deleted : ∀ t ∈ m.towersToDelete1 ++ m.towersToDelete0, t.hp = 0
  id_ge : ∀ t ∈ m.allocatedTowers, 2 * c.numSoldiers ≤ t.id
  id_lt : ∀ t ∈ m.allocatedTowers, t.id < bound
  bound_ge : 2 * c.numSoldiers ≤ bound

/-- The reward tables are those of the game. -/
structure MoneyManager.HasTables (c : Constants K) (m : MoneyManager) : Prop where
  towerKill : m.towerKillRewardAmounts = c.towerKillRewardAmounts
  soldierKill : m.soldierKillRewardAmount = c.soldierKillRewardAmount
  towerSuicide : m.towerSuicideRewardAmounts = c.towerSuicideRewardAmounts

namespace State

/-- The pointer points to an actor a soldier of player `p` may target: a soldier or
a tower of the opponent whose memory has not been released. -/
def Designates (st : State K) (p : PlayerId) : ActorPtr → Prop
  | .soldier q i => q = p.opponent ∧ i < (st.soldiers q).length
  | .tower q id => q = p.opponent ∧ ∃ t ∈ (st.towerManagers q).allocatedTowers, t.id = id

variable [Field K] [LinearOrder K] [FloorRing K]

/-- What holds of the state of a game at all times. -/
structure Sound (c : Constants K) (st : State K) : Prop where
  length_soldiers : ∀ p, (st.soldiers p).length = c.numSoldiers
  soldier : ∀ p (i : ℕ) s, (st.soldiers p)[i]? = some s → s.Sound c p i
  target : ∀ p (i : ℕ) s ptr, (st.soldiers p)[i]? = some s → s.attackTarget = some ptr →
    st.Designates p ptr
  manager : ∀ p, (st.towerManagers p).Sound c p st.actorIdIncrement
  disjoint : ∀ p, ∀ t ∈ (st.towerManagers p).allocatedTowers,
    ∀ u ∈ (st.towerManagers p.opponent).allocatedTowers, t.id ≠ u.id
  tables : st.moneyManager.HasTables c
  size : st.map.size = c.mapSize
  elementSize : st.map.elementSize = c.mapElementSize
  painted : ∀ p, (st.towerEnv p).Painted c

section Slots

variable {c : Constants K} {st : State K}

theorem Sound.slot_lt (h : st.Sound c) {p : PlayerId} {i : ℕ} {s : Soldier K}
    (hs : (st.soldiers p)[i]? = some s) : i < c.numSoldiers := by
  rw [← h.length_soldiers p]
  exact (List.getElem?_eq_some_iff.mp hs).1

theorem Sound.exists_soldier (h : st.Sound c) (p : PlayerId) {i : ℕ} (hi : i < c.numSoldiers) :
    ∃ s, (st.soldiers p)[i]? = some s :=
  ⟨_, List.getElem?_eq_getElem ((h.length_soldiers p).symm ▸ hi)⟩

end Slots

end State

/-! ## Towers -/

namespace Tower

/-- The second tower is the first with less hp. -/
structure Worn (t t' : Tower K) : Prop where
  id : t'.id = t.id
  playerId : t'.playerId = t.playerId
  maxHp : t'.maxHp = t.maxHp
  position : t'.position = t.position
  isBase : t'.isBase = t.isBase
  towerLevel : t'.towerLevel = t.towerLevel
  hp_nonneg : 0 ≤ t.hp → 0 ≤ t'.hp
  hp_le : 0 ≤ t.hp → t'.hp ≤ t.hp

theorem Worn.refl (t : Tower K) : t.Worn t :=
  ⟨rfl, rfl, rfl, rfl, rfl, rfl, fun h => h, fun _ => le_refl _⟩

theorem Worn.trans {t u v : Tower K} (h : t.Worn u) (h' : u.Worn v) : t.Worn v where
  id := h'.id.trans h.id
  playerId := h'.playerId.trans h.playerId
  maxHp := h'.maxHp.trans h.maxHp
  position := h'.position.trans h.position
  isBase := h'.isBase.trans h.isBase
  towerLevel := h'.towerLevel.trans h.towerLevel
  hp_nonneg := fun h0 => h'.hp_nonneg (h.hp_nonneg h0)
  hp_le := fun h0 => (h'.hp_le (h.hp_nonneg h0)).trans (h.hp_le h0)

theorem worn_damage (t : Tower K) {damageAmount : ℤ} (h : 0 ≤ damageAmount) :
    t.Worn (t.damage damageAmount) where
  id := rfl
  playerId := rfl
  maxHp := rfl
  position := rfl
  isBase := rfl
  towerLevel := rfl
  hp_nonneg := fun _ => le_max_left _ _
  hp_le := fun h0 => max_le h0 (sub_le_self _ h)

theorem Sound.worn {c : Constants K} {p : PlayerId} {t t' : Tower K} (h : t.Sound c p)
    (hw : t.Worn t') : t'.Sound c p where
  playerId_eq := hw.playerId.trans h.playerId_eq
  level_pos := hw.towerLevel ▸ h.level_pos
  level_le := hw.towerLevel ▸ h.level_le
  maxHp_eq := by rw [hw.towerLevel, hw.maxHp, h.maxHp_eq]
  hp_nonneg := hw.hp_nonneg h.hp_nonneg
  hp_le := hw.maxHp ▸ (hw.hp_le h.hp_nonneg).trans h.hp_le

theorem Worn.hp_eq_zero {t t' : Tower K} (hw : t.Worn t') (h : t.hp = 0) : t'.hp = 0 :=
  le_antisymm (h ▸ hw.hp_le h.ge) (hw.hp_nonneg h.ge)

end Tower

/-- Wear keeps a tower manager sound. -/
theorem TowerManager.Sound.mapTowers {c : Constants K} {p : PlayerId} {bound : ℤ}
    {m : TowerManager K} (h : m.Sound c p bound) {g : Tower K → Tower K}
    (hg : ∀ t ∈ m.allocatedTowers, t.Worn (g t)) : (m.mapTowers g).Sound c p bound := by
  have hforall : ∀ {P : Tower K → Prop}, (∀ t ∈ m.allocatedTowers, P (g t)) →
      ∀ t ∈ (m.mapTowers g).allocatedTowers, P t := by
    intro P hP t ht
    rw [allocatedTowers_mapTowers, List.mem_map] at ht
    obtain ⟨u, hu, rfl⟩ := ht
    exact hP u hu
  constructor
  · exact h.playerId_eq
  · exact hforall fun t ht => (h.tower t ht).worn (hg t ht)
  · have hid : ∀ t ∈ m.towers, (g t).id = t.id := fun t ht =>
      (hg t (mem_allocatedTowers_of_mem ht)).id
    exact List.pairwise_map.mpr (h.sorted.imp_of_mem fun ht hu hlt => by
      rw [hid _ ht, hid _ hu]
      exact hlt)
  · have hid : ((m.mapTowers g).allocatedTowers.map Tower.id) = m.allocatedTowers.map Tower.id := by
      rw [allocatedTowers_mapTowers, List.map_map]
      exact List.map_congr_left fun t ht => (hg t ht).id
    exact hid ▸ h.nodup
  · intro t ht
    rw [TowerManager.mapTowers, ← List.map_append, List.mem_map] at ht
    obtain ⟨u, hu, rfl⟩ := ht
    exact (hg u (by simp only [allocatedTowers, List.mem_append] at hu ⊢; tauto)).hp_eq_zero
      (h.deleted u hu)
  · exact hforall fun t ht => by rw [(hg t ht).id]; exact h.id_ge t ht
  · exact hforall fun t ht => by rw [(hg t ht).id]; exact h.id_lt t ht
  · exact h.bound_ge

/-- Towers of a sound manager with the same id are the same. -/
theorem TowerManager.Sound.eq_of_id {c : Constants K} {p : PlayerId} {bound : ℤ}
    {m : TowerManager K} (h : m.Sound c p bound) {t u : Tower K} (ht : t ∈ m.allocatedTowers)
    (hu : u ∈ m.allocatedTowers) (hid : t.id = u.id) : t = u :=
  List.inj_on_of_nodup_map h.nodup ht hu hid

theorem TowerManager.Sound.listed_of_alive {c : Constants K} {p : PlayerId} {bound : ℤ}
    {m : TowerManager K} (h : m.Sound c p bound) {t : Tower K} (ht : t ∈ m.allocatedTowers)
    (halive : t.hp ≠ 0) : t ∈ m.towers := by
  by_contra hlisted
  refine halive (h.deleted t ?_)
  simp only [allocatedTowers, List.mem_append] at ht ⊢
  tauto

/-- Where no two towers have the same id, an id finds its tower. -/
theorem find?_id_of_nodup {towers : List (Tower K)} (hids : (towers.map Tower.id).Nodup)
    {t : Tower K} (ht : t ∈ towers) : towers.find? (fun u => u.id = t.id) = some t := by
  cases hfind : towers.find? (fun u => u.id = t.id) with
  | none => simpa using List.find?_eq_none.mp hfind t ht
  | some u =>
    have hid : u.id = t.id := by simpa using List.find?_some hfind
    rw [List.inj_on_of_nodup_map hids (List.mem_of_find?_eq_some hfind) ht hid]

theorem TowerManager.Sound.find?_eq_some {c : Constants K} {p : PlayerId} {bound : ℤ}
    {m : TowerManager K} (h : m.Sound c p bound) {t : Tower K} {id : ℤ} :
    m.allocatedTowers.find? (fun u => u.id = id) = some t ↔ t ∈ m.allocatedTowers ∧ t.id = id := by
  constructor
  · intro hfind
    exact ⟨List.mem_of_find?_eq_some hfind, by simpa using List.find?_some hfind⟩
  · rintro ⟨ht, rfl⟩
    exact find?_id_of_nodup h.nodup ht

namespace TowerEnv

variable [Field K] [LinearOrder K] [FloorRing K]

/-- Wear does not change the territory. -/
theorem Painted.map {c : Constants K} {e e' : TowerEnv K} (h : e.Painted c)
    {g : Tower K → Tower K} (hg : ∀ t ∈ e.manager.towers, t.Worn (g t))
    (htowers : e'.manager.towers = e.manager.towers.map g) (hmap : e'.map = e.map)
    (hterritory : e'.territory = e.territory) : e'.Painted c := by
  refine h.step_of_eq (by rw [hmap]) (by rw [hmap]) ?_ (hterritory ▸ h.consistent) ?_
  · intro t ht
    rw [htowers, List.mem_map] at ht
    obtain ⟨u, hu, rfl⟩ := ht
    rw [calculateBounds_tower_congr (hg u hu).position (hg u hu).towerLevel]
    exact h.charted u hu
  · intro cell
    have hcount : ((e.manager.towers.map g).countP fun t => Covers c e.map t cell) =
        e.manager.towers.countP fun t => Covers c e.map t cell := by
      rw [List.countP_map]
      exact List.countP_congr fun t ht => by
        simp [covers_tower_congr (hg t ht).position (hg t ht).towerLevel]
    simp only [excess, RefCover.excess, RefCover.count, htowers, hterritory, hcount]

end TowerEnv

end Simulator
