import Simulator.State.Soundness
import Mathlib.Algebra.Order.BigOperators.Group.List

/-!
# The tower managers' phase of an update

`TowerEnv.Sound` is the part of `State.Sound` that concerns one tower manager, and
every round keeps it.  `TowerManager.Queued` says what has to be true of the
requests for an update to carry all of them out: the balance covers them, and each
names a listed tower, that can be upgraded where an upgrade is asked for.

`update_spec` then says what the update does: it succeeds, and the towers listed
afterwards are those of before and the newly built ones, each upgraded or
demolished if that was asked for, except those with hp zero.

## Three queues, one balance

The requests are paid for in the order of the queues, and the condition on the balance is about
all of them together.  The towers that are built do not change what the upgrades cost, and a tower
is upgraded once at most, so that the sum of the prices can be said before the update begins
(`upgradeCost`), and what is left after each round covers what is still to come.  Demolitions pay,
but too late to pay for anything.

## What a loop leaves

Each loop has a round lemma, which says what one request does to the towers (`exists_buildNext`,
`exists_upgradeNext`, `exists_suicideNext`), and a lemma for the whole queue in closed form: the
builds append `freshTowers`, and the upgrades and demolitions map a function over the list that
rewrites the towers with the ids of the queue.  That replacing a tower by its index is such a
rewriting is a matter of distinct ids (`set_eq_map`).  The deaths then filter the list.

At the level of the state the targets of soldiers come in.  A tower that is removed stays in memory,
so that a pointer which was good before the update is good after it (`TowersUpdated.designates`), if
what it points to was listed.
-/

namespace Simulator

open Foundation

variable {K : Type}

/-! ## Sound tower managers -/

namespace TowerManager

theorem Sound.of_perm {c : Constants K} {p : PlayerId} {bound : ℤ} {m m' : TowerManager K}
    (h : m.Sound c p bound) (hp : m'.playerId = m.playerId)
    (hperm : m'.allocatedTowers.Perm m.allocatedTowers)
    (hsorted : m'.towers.Pairwise fun t u => t.id < u.id)
    (hdeleted : ∀ t ∈ m'.towersToDelete1 ++ m'.towersToDelete0, t.hp = 0) :
    m'.Sound c p bound where
  playerId_eq := hp.trans h.playerId_eq
  tower := fun t ht => h.tower t (hperm.mem_iff.mp ht)
  sorted := hsorted
  nodup := (hperm.map Tower.id).nodup_iff.mpr h.nodup
  deleted := hdeleted
  id_ge := fun t ht => h.id_ge t (hperm.mem_iff.mp ht)
  id_lt := fun t ht => h.id_lt t (hperm.mem_iff.mp ht)
  bound_ge := h.bound_ge

theorem Sound.congr {c : Constants K} {p : PlayerId} {bound : ℤ} {m m' : TowerManager K}
    (h : m.Sound c p bound) (hp : m'.playerId = m.playerId) (ht : m'.towers = m.towers)
    (h₀ : m'.towersToDelete0 = m.towersToDelete0) (h₁ : m'.towersToDelete1 = m.towersToDelete1) :
    m'.Sound c p bound := by
  have halloc : m'.allocatedTowers = m.allocatedTowers := by
    rw [allocatedTowers, ht, h₀, h₁, allocatedTowers]
  exact h.of_perm hp (halloc ▸ .refl _) (ht ▸ h.sorted) (by rw [h₀, h₁]; exact h.deleted)

theorem Sound.mono {c : Constants K} {p : PlayerId} {bound bound' : ℤ} {m : TowerManager K}
    (h : m.Sound c p bound) (hle : bound ≤ bound') : m.Sound c p bound' :=
  { h with
    id_lt := fun t ht => (h.id_lt t ht).trans_le hle
    bound_ge := h.bound_ge.trans hle }

theorem Sound.append {c : Constants K} {p : PlayerId} {bound : ℤ} {m m' : TowerManager K}
    (h : m.Sound c p bound) {t : Tower K} (ht : t.Sound c p) (hid : t.id = bound)
    (hp : m'.playerId = m.playerId) (hm : m'.towers = m.towers ++ [t])
    (h₀ : m'.towersToDelete0 = m.towersToDelete0) (h₁ : m'.towersToDelete1 = m.towersToDelete1) :
    m'.Sound c p (bound + 1) := by
  have hperm : m'.allocatedTowers.Perm (t :: m.allocatedTowers) := by
    simp only [allocatedTowers, hm, h₀, h₁, List.append_assoc, List.singleton_append]
    exact List.perm_middle
  have hforall : ∀ {P : Tower K → Prop}, P t → (∀ u ∈ m.allocatedTowers, P u) →
      ∀ u ∈ m'.allocatedTowers, P u := fun hPt hP u hu =>
    (List.mem_cons.mp (hperm.mem_iff.mp hu)).elim (fun heq => heq ▸ hPt) (hP u)
  have hbound := h.bound_ge
  constructor
  · exact hp.trans h.playerId_eq
  · exact hforall ht h.tower
  · rw [hm, List.pairwise_append]
    refine ⟨h.sorted, List.pairwise_singleton .., ?_⟩
    intro u hu v hv
    rw [List.mem_singleton.mp hv, hid]
    exact h.id_lt u (mem_allocatedTowers_of_mem hu)
  · rw [(hperm.map Tower.id).nodup_iff, List.map_cons, List.nodup_cons]
    refine ⟨?_, h.nodup⟩
    intro hmem
    obtain ⟨u, hu, huid⟩ := List.mem_map.mp hmem
    have := h.id_lt u hu
    omega
  · rw [h₀, h₁]
    exact h.deleted
  · exact hforall (by omega) h.id_ge
  · exact hforall (by omega) fun u hu => (h.id_lt u hu).trans (by omega)
  · omega

theorem Sound.set {c : Constants K} {p : PlayerId} {bound : ℤ} {m m' : TowerManager K}
    (h : m.Sound c p bound) {i : ℕ} {t t' : Tower K} (hi : m.towers[i]? = some t)
    (ht' : t'.Sound c p) (hid : t'.id = t.id) (hp : m'.playerId = m.playerId)
    (hm : m'.towers = m.towers.set i t') (h₀ : m'.towersToDelete0 = m.towersToDelete0)
    (h₁ : m'.towersToDelete1 = m.towersToDelete1) : m'.Sound c p bound := by
  obtain ⟨hlt, rfl⟩ := List.getElem?_eq_some_iff.mp hi
  have hids : m'.towers.map Tower.id = m.towers.map Tower.id := by
    rw [hm, List.map_set, hid]
    refine List.ext_getElem (by simp) ?_
    intro k h₁ h₂
    by_cases hk : i = k
    · subst hk
      simp
    · simp [hk]
  have hforall : ∀ {P : Tower K → Prop}, P t' → (∀ u ∈ m.allocatedTowers, P u) →
      ∀ u ∈ m'.allocatedTowers, P u := by
    intro P hPt hP u hu
    simp only [allocatedTowers, hm, h₀, h₁, List.mem_append] at hu
    rcases hu with (hu | hu) | hu
    · rcases List.mem_or_eq_of_mem_set hu with hu | rfl
      · exact hP u (mem_allocatedTowers_of_mem hu)
      · exact hPt
    · exact hP u (by simp [allocatedTowers, hu])
    · exact hP u (by simp [allocatedTowers, hu])
  have hmem := mem_allocatedTowers_of_mem (List.getElem_mem hlt)
  constructor
  · exact hp.trans h.playerId_eq
  · exact hforall ht' h.tower
  · have hsorted : (m'.towers.map Tower.id).Pairwise (· < ·) :=
      hids ▸ List.pairwise_map.mpr h.sorted
    exact List.pairwise_map.mp hsorted
  · have halloc : m'.allocatedTowers.map Tower.id = m.allocatedTowers.map Tower.id := by
      simp only [allocatedTowers, List.map_append, hids, h₀, h₁]
    exact halloc ▸ h.nodup
  · rw [h₀, h₁]
    exact h.deleted
  · exact hforall (hid ▸ h.id_ge _ hmem) h.id_ge
  · exact hforall (hid ▸ h.id_lt _ hmem) h.id_lt
  · exact h.bound_ge

theorem Sound.nodup_towers {c : Constants K} {p : PlayerId} {bound : ℤ} {m : TowerManager K}
    (h : m.Sound c p bound) : (m.towers.map Tower.id).Nodup :=
  (List.pairwise_map.mpr h.sorted).imp fun hlt => hlt.ne

theorem Sound.towerIndex_eq_some {c : Constants K} {p : PlayerId} {bound : ℤ} {m : TowerManager K}
    (h : m.Sound c p bound) {t : Tower K} (ht : t ∈ m.towers) :
    ∃ i, towerIndex t.id m.towers = some i ∧ m.towers[i]? = some t := by
  cases hi : towerIndex t.id m.towers with
  | none => exact absurd rfl (towerIndex_eq_none.mp hi t ht)
  | some i =>
    obtain ⟨u, hu, hid⟩ := getElem?_of_towerIndex hi
    have hut : u = t := h.eq_of_id (mem_allocatedTowers_of_mem (List.mem_of_getElem? hu))
      (mem_allocatedTowers_of_mem ht) hid
    exact ⟨i, rfl, hut ▸ hu⟩

end TowerManager

namespace TowerEnv

open TowerManager

variable [Field K] [LinearOrder K] [FloorRing K]

/-- What holds of a tower manager and of what it reaches at all times. -/
structure Sound (c : Constants K) (p : PlayerId) (e : TowerEnv K) : Prop where
  manager : e.manager.Sound c p e.actorIdIncrement
  tables : e.moneyManager.HasTables c
  painted : e.Painted c

omit [LinearOrder K] [FloorRing K] in
theorem sound_of_newTower {r : Ruleset K} {p : PlayerId} {e : TowerEnv K} {offset : Vector K}
    {t : Tower K} (hp : e.manager.playerId = p) (h : newTower r.toConstants e offset = .ok t) :
    t.Sound r.toConstants p := by
  obtain ⟨hp₀, hat, rfl⟩ := newTower_eq_ok.mp h
  have hpos : 0 < hp₀ := r.towerHps_pos hp₀ (mem_of_vectorAt hat)
  have hlen : 0 < r.towerBuildCosts.length := List.length_pos_of_ne_nil r.towerBuildCosts_ne_nil
  exact ⟨hp, le_refl _, by simp only; omega, by simpa using hat, hpos.le, le_refl _⟩

omit [Field K] [LinearOrder K] [FloorRing K] in
/-- A tower that is upgraded is sound, and alive. -/
theorem sound_of_upgrade {r : Ruleset K} {p : PlayerId} {t t' : Tower K}
    (ht : t.Sound r.toConstants p) (hmax : t.towerLevel ≠ r.towerBuildCosts.length)
    (h : t.upgrade r.toConstants = .ok t') : t'.Sound r.toConstants p ∧ t'.hp ≠ 0 := by
  obtain ⟨hp₀, hat, rfl⟩ := upgrade_eq_ok.mp h
  have hpos : 0 < hp₀ := r.towerHps_pos hp₀ (mem_of_vectorAt hat)
  have := ht.level_pos
  have := ht.level_le
  exact ⟨⟨ht.playerId_eq, by simp only; omega, by simp only; omega, by simpa using hat, hpos.le,
    le_refl _⟩, hpos.ne'⟩

/-! ## The builds -/

omit [Field K] [LinearOrder K] [FloorRing K] in
/-- The price of a tower. -/
def buildCost (c : Constants K) : ℤ := c.towerBuildCosts[0]?.getD 0

omit [LinearOrder K] [FloorRing K] in
/-- The tower that is built at an offset. -/
def freshTower (c : Constants K) (p : PlayerId) (elementSize id : ℤ) (offset : Vector K) :
    Tower K where
  id := id
  playerId := p
  hp := c.towerHps[0]?.getD 0
  maxHp := c.towerHps[0]?.getD 0
  position :=
    ⟨.ofInt elementSize * offset.x + .ofInt (elementSize / 2),
      .ofInt elementSize * offset.y + .ofInt (elementSize / 2)⟩
  isBase := false
  towerLevel := 1

omit [LinearOrder K] [FloorRing K] in
/-- The towers that are built at a list of offsets, with ids from `id` on. -/
def freshTowers (c : Constants K) (p : PlayerId) (elementSize id : ℤ) :
    List (Vector K) → List (Tower K)
  | [] => []
  | offset :: offsets =>
    freshTower c p elementSize id offset :: freshTowers c p elementSize (id + 1) offsets

omit [LinearOrder K] [FloorRing K] in
@[simp] theorem length_freshTowers (c : Constants K) (p : PlayerId) (elementSize id : ℤ)
    (offsets : List (Vector K)) :
    (freshTowers c p elementSize id offsets).length = offsets.length := by
  induction offsets generalizing id with
  | nil => rfl
  | cons offset offsets ih => simp [freshTowers, ih]

omit [LinearOrder K] [FloorRing K] in
theorem mem_freshTowers {c : Constants K} {p : PlayerId} {elementSize id : ℤ}
    {offsets : List (Vector K)} {t : Tower K}
    (h : t ∈ freshTowers c p elementSize id offsets) :
    ∃ offset ∈ offsets, ∃ id', id ≤ id' ∧ t = freshTower c p elementSize id' offset := by
  induction offsets generalizing id with
  | nil => simp [freshTowers] at h
  | cons offset offsets ih =>
    rcases List.mem_cons.mp h with rfl | h
    · exact ⟨offset, List.mem_cons_self .., id, le_refl _, rfl⟩
    · obtain ⟨offset', hmem, id', hle, ht⟩ := ih h
      exact ⟨offset', List.mem_cons_of_mem _ hmem, id', by omega, ht⟩

variable [IsStrictOrderedRing K]

omit [Field K] [LinearOrder K] [FloorRing K] [IsStrictOrderedRing K] in
theorem exists_vectorAt_zero {r : Ruleset K} {l : List ℤ}
    (h : l.length = r.towerBuildCosts.length) : vectorAt l 0 = .ok (l[0]?.getD 0) := by
  have hlen : 0 < r.towerBuildCosts.length := List.length_pos_of_ne_nil r.towerBuildCosts_ne_nil
  rw [vectorAt_eq_ok]
  cases hl : l with
  | nil => simp [hl] at h; omega
  | cons x l => simp

omit [LinearOrder K] [FloorRing K] [IsStrictOrderedRing K] in
theorem newTower_eq {r : Ruleset K} (e : TowerEnv K) (offset : Vector K) :
    newTower r.toConstants e offset = .ok
      (freshTower r.toConstants e.manager.playerId e.map.elementSize e.actorIdIncrement offset) :=
  newTower_eq_ok.mpr ⟨_, exists_vectorAt_zero r.length_towerHps, rfl⟩

omit [IsStrictOrderedRing K] in
theorem exists_calculateBounds {r : Ruleset K} {p : PlayerId} {t : Tower K}
    (ht : t.Sound r.toConstants p) (m : GameMap) :
    ∃ bounds, calculateBounds r.toConstants m t = .ok bounds := by
  obtain ⟨range, -, hrange⟩ := vectorAt_of_lt (l := r.towerRanges) (sub_nonneg.mpr ht.level_pos)
    (by
      have := ht.level_le
      rw [r.length_towerRanges]
      omega)
  exact ⟨_, calculateBounds_eq_ok.mpr ⟨range, hrange, rfl⟩⟩

theorem Sound.built {r : Ruleset K} {p : PlayerId} {e e' : TowerEnv K}
    (h : e.Sound r.toConstants p) {offset : Vector K}
    (hround : buildNext r.toConstants e offset = .ok e') : e'.Sound r.toConstants p := by
  obtain ⟨cost, t, bounds, -, -, -, ht, hb, rfl⟩ := buildNext_eq_ok.mp hround
  have hid : t.id = e.actorIdIncrement := by
    obtain ⟨_, -, rfl⟩ := newTower_eq_ok.mp ht
    rfl
  exact ⟨h.manager.append (sound_of_newTower h.manager.playerId_eq ht) hid rfl rfl rfl rfl,
    ⟨h.tables.towerKill, h.tables.soldierKill, h.tables.towerSuicide⟩, h.painted.built cost hb⟩

/-- One round of the builds: the new tower is listed last and paid for. -/
theorem Sound.exists_buildNext {r : Ruleset K} {p : PlayerId} {e : TowerEnv K}
    (h : e.Sound r.toConstants p) (offset : Vector K)
    (hcost : buildCost r.toConstants ≤ e.moneyManager.playerMoney p) :
    ∃ e', buildNext r.toConstants e offset = .ok e' ∧ e'.Sound r.toConstants p ∧
      e.SameContext e' ∧
      e'.manager = { e.manager with
        towers := e.manager.towers ++
          [freshTower r.toConstants p e.map.elementSize e.actorIdIncrement offset]
        towersToBuildOffsets := e.manager.towersToBuildOffsets.tail
        territoryRefs := e'.manager.territoryRefs } ∧
      e'.moneyManager = e.moneyManager.setBalance p
        (e.moneyManager.playerMoney p - buildCost r.toConstants) ∧
      e'.actorIdIncrement = e.actorIdIncrement + 1 := by
  have hp := h.manager.playerId_eq
  have hat := exists_vectorAt_zero (r := r) (l := r.towerBuildCosts) rfl
  have hpos : 0 < buildCost r.toConstants := r.towerBuildCosts_pos _ (mem_of_vectorAt hat)
  have ht := newTower_eq (r := r) e offset
  obtain ⟨bounds, hb⟩ := exists_calculateBounds (sound_of_newTower hp ht) e.map
  have hround : buildNext r.toConstants e offset = .ok (e.built
      (freshTower r.toConstants e.manager.playerId e.map.elementSize e.actorIdIncrement offset)
      (buildCost r.toConstants) bounds.cells) :=
    buildNext_eq_ok.mpr ⟨_, _, bounds, hat, hpos, by rw [hp, ← buildCost]; omega, ht, hb, rfl⟩
  refine ⟨_, hround, h.built hround, sameContext_built .., ?_, ?_, rfl⟩
  · rw [hp]
    rfl
  · rw [← hp]
    rfl

/-- **The builds**, when the balance covers them. -/
theorem foldlM_buildNext {r : Ruleset K} {p : PlayerId} {e : TowerEnv K}
    (h : e.Sound r.toConstants p) {l : List (Vector K)}
    (hcost : l = [] ∨ l.length * buildCost r.toConstants ≤ e.moneyManager.playerMoney p) :
    ∃ e', l.foldlM (buildNext r.toConstants) e = .ok e' ∧ e'.Sound r.toConstants p ∧
      e.SameContext e' ∧
      e'.manager = { e.manager with
        towers := e.manager.towers ++
          freshTowers r.toConstants p e.map.elementSize e.actorIdIncrement l
        towersToBuildOffsets := e.manager.towersToBuildOffsets.drop l.length
        territoryRefs := e'.manager.territoryRefs } ∧
      e'.moneyManager = e.moneyManager.setBalance p
        (e.moneyManager.playerMoney p - l.length * buildCost r.toConstants) ∧
      e'.actorIdIncrement = e.actorIdIncrement + l.length := by
  induction l generalizing e with
  | nil =>
    refine ⟨e, rfl, h, SameContext.refl e, by simp [freshTowers], ?_, by simp⟩
    simp [MoneyManager.setBalance]
  | cons offset l ih =>
    have hpos : 0 < buildCost r.toConstants :=
      r.towerBuildCosts_pos _ (mem_of_vectorAt (exists_vectorAt_zero (r := r) rfl))
    have hrest : 0 ≤ (l.length : ℤ) * buildCost r.toConstants := by positivity
    have hsum : (l.length + 1 : ℤ) * buildCost r.toConstants =
        l.length * buildCost r.toConstants + buildCost r.toConstants := by ring
    have hle : (l.length + 1 : ℤ) * buildCost r.toConstants ≤ e.moneyManager.playerMoney p := by
      simpa using hcost
    obtain ⟨e₁, hround, hs₁, hctx₁, hm₁, hmoney₁, hid₁⟩ :=
      h.exists_buildNext offset (by omega)
    obtain ⟨e₂, hloop, hs₂, hctx, hm, hmoney, hid⟩ := ih hs₁ (.inr (by
      rw [hmoney₁, MoneyManager.playerMoney_setBalance, Function.update_self]
      omega))
    refine ⟨e₂, by rw [List.foldlM_cons, hround, ok_bind, hloop], hs₂, hctx₁.trans hctx,
      ?_, ?_, ?_⟩
    · rw [hm, hm₁, hctx₁.elementSize, hid₁]
      simp [freshTowers]
    · rw [hmoney, hmoney₁]
      simp only [MoneyManager.setBalance, Function.update_idem, Function.update_self,
        List.length_cons]
      push_cast
      rw [hsum]
      congr 2
      omega
    · rw [hid, hid₁, List.length_cons]
      push_cast
      ring

/-! ## The upgrades -/

omit [Field K] [LinearOrder K] [FloorRing K] [IsStrictOrderedRing K] in
/-- The tower after an upgrade. -/
def upgradedTower (c : Constants K) (t : Tower K) : Tower K :=
  { t with
    towerLevel := t.towerLevel + 1
    maxHp := c.towerHps[t.towerLevel.toNat]?.getD 0
    hp := c.towerHps[t.towerLevel.toNat]?.getD 0 }

omit [Field K] [LinearOrder K] [FloorRing K] [IsStrictOrderedRing K] in
/-- The price of an upgrade of a listed tower. -/
def upgradeCost (c : Constants K) (towers : List (Tower K)) (towerId : ℤ) : ℤ :=
  match towers.find? fun t => t.id = towerId with
  | some t => c.towerBuildCosts[t.towerLevel.toNat]?.getD 0
  | none => 0

omit [Field K] [LinearOrder K] [FloorRing K] [IsStrictOrderedRing K] in
theorem sum_upgradeCost_nonneg {r : Ruleset K} (towers : List (Tower K)) (l : List ℤ) :
    0 ≤ (l.map (upgradeCost r.toConstants towers)).sum := by
  refine List.sum_nonneg ?_
  intro x hx
  obtain ⟨id, -, rfl⟩ := List.mem_map.mp hx
  unfold upgradeCost
  split
  · rename_i u _
    cases hu : r.towerBuildCosts[u.towerLevel.toNat]? with
    | none => simp
    | some x => exact (r.towerBuildCosts_pos x (List.mem_of_getElem? hu)).le
  · exact le_refl _

omit [Field K] [LinearOrder K] [FloorRing K] [IsStrictOrderedRing K] in
theorem upgradeCost_of_mem {c : Constants K} {p : PlayerId} {bound : ℤ}
    {m : TowerManager K} (h : m.Sound c p bound) {t : Tower K} (ht : t ∈ m.towers) :
    upgradeCost c m.towers t.id = c.towerBuildCosts[t.towerLevel.toNat]?.getD 0 := by
  rw [upgradeCost, find?_id_of_nodup h.nodup_towers ht]

omit [Field K] [LinearOrder K] [FloorRing K] [IsStrictOrderedRing K] in
theorem upgradeCost_append {c : Constants K} {towers : List (Tower K)} {t : Tower K}
    (ht : t ∈ towers) (new : List (Tower K)) :
    upgradeCost c (towers ++ new) t.id = upgradeCost c towers t.id := by
  unfold upgradeCost
  rw [List.find?_append]
  cases hfind : towers.find? fun u => decide (u.id = t.id) with
  | none => simpa using List.find?_eq_none.mp hfind t ht
  | some u => rfl

omit [Field K] [LinearOrder K] [FloorRing K] [IsStrictOrderedRing K] in
/-- In a list with distinct ids, replacing a tower is rewriting those with its id. -/
theorem set_eq_map {towers : List (Tower K)} (hsorted : towers.Pairwise fun t u => t.id < u.id)
    {i : ℕ} {t : Tower K} (hi : towers[i]? = some t) (g : Tower K → Tower K) :
    towers.set i (g t) = towers.map fun u => if u.id = t.id then g u else u := by
  obtain ⟨hlt, rfl⟩ := List.getElem?_eq_some_iff.mp hi
  refine List.ext_getElem (by simp) ?_
  intro k hk hk'
  have hklt : k < towers.length := by simpa using hk'
  by_cases hki : k = i
  · subst hki
    simp
  · have hne : towers[k].id ≠ towers[i].id := by
      rcases lt_or_gt_of_ne hki with hlt' | hlt'
      · exact (List.pairwise_iff_getElem.mp hsorted k i hklt hlt hlt').ne
      · exact (List.pairwise_iff_getElem.mp hsorted i k hlt hklt hlt').ne'
    simp [Ne.symm hki, hne]

omit [Field K] [LinearOrder K] [FloorRing K] [IsStrictOrderedRing K] in
/-- A loop that rewrites the towers with the ids of a list, one id after the other. -/
theorem map_map_of_id {g : Tower K → Tower K} (hg : ∀ t, (g t).id = t.id) {a : ℤ} {l : List ℤ}
    (ha : a ∉ l) (towers : List (Tower K)) :
    (towers.map fun t => if t.id = a then g t else t).map (fun t => if t.id ∈ l then g t else t) =
      towers.map fun t => if t.id ∈ a :: l then g t else t := by
  rw [List.map_map]
  refine List.map_congr_left ?_
  intro t _
  by_cases hta : t.id = a
  · simp [Function.comp, hta, hg, ha]
  · simp [Function.comp, hta]

omit [Field K] [LinearOrder K] [FloorRing K] [IsStrictOrderedRing K] in
theorem upgradeCost_map {c : Constants K} {g : Tower K → Tower K} (hg : ∀ t, (g t).id = t.id)
    {a towerId : ℤ} (hne : towerId ≠ a) (towers : List (Tower K)) :
    upgradeCost c (towers.map fun t => if t.id = a then g t else t) towerId =
      upgradeCost c towers towerId := by
  unfold upgradeCost
  rw [List.find?_map]
  have hcomp :
      ((fun t : Tower K => decide (t.id = towerId)) ∘ fun t => if t.id = a then g t else t) =
      fun t => decide (t.id = towerId) := by
    ext t
    by_cases hta : t.id = a <;> simp [Function.comp, hta, hg]
  rw [hcomp]
  cases hfind : towers.find? fun t => decide (t.id = towerId) with
  | none => rfl
  | some t =>
    have hid : t.id = towerId := by simpa using List.find?_some hfind
    simp [hid, hne]

theorem Sound.upgraded {r : Ruleset K} {p : PlayerId} {e e' : TowerEnv K}
    (h : e.Sound r.toConstants p) {towerId : ℤ}
    (hround : upgradeNext r.toConstants e towerId = .ok e') : e'.Sound r.toConstants p := by
  obtain ⟨i, t, cost, oldBounds, t', newBounds, hi, ht, hmax, -, -, -, hold, hup, hnew, rfl⟩ :=
    upgradeNext_eq_ok.mp hround
  have hmem := mem_allocatedTowers_of_mem (List.mem_of_getElem? ht)
  have hid : t'.id = t.id := by
    obtain ⟨_, -, rfl⟩ := upgrade_eq_ok.mp hup
    rfl
  exact ⟨h.manager.set ht (sound_of_upgrade (h.manager.tower t hmem) hmax hup).1
      hid rfl rfl rfl rfl,
    ⟨h.tables.towerKill, h.tables.soldierKill, h.tables.towerSuicide⟩,
    h.painted.upgraded ht cost hold hnew fun hmono _ => covers_upgrade hup hnew hmono⟩

/-- One round of the upgrades: the listed tower is upgraded in its place and paid for. -/
theorem Sound.exists_upgradeNext {r : Ruleset K} {p : PlayerId} {e : TowerEnv K}
    (h : e.Sound r.toConstants p) {t : Tower K} (ht : t ∈ e.manager.towers)
    (hmax : t.towerLevel ≠ r.towerBuildCosts.length)
    (hcost : upgradeCost r.toConstants e.manager.towers t.id ≤ e.moneyManager.playerMoney p) :
    ∃ e', upgradeNext r.toConstants e t.id = .ok e' ∧ e'.Sound r.toConstants p ∧
      e.SameContext e' ∧
      e'.manager = { e.manager with
        towers := e.manager.towers.map fun u =>
          if u.id = t.id then upgradedTower r.toConstants u else u
        towersToUpgrade := e.manager.towersToUpgrade.tail
        territoryRefs := e'.manager.territoryRefs } ∧
      e'.moneyManager = e.moneyManager.setBalance p (e.moneyManager.playerMoney p -
        upgradeCost r.toConstants e.manager.towers t.id) ∧
      e'.actorIdIncrement = e.actorIdIncrement := by
  have hp := h.manager.playerId_eq
  have hsound := h.manager.tower t (mem_allocatedTowers_of_mem ht)
  have hlevel : 0 ≤ t.towerLevel ∧ t.towerLevel < r.towerBuildCosts.length := by
    have := hsound.level_pos
    have := hsound.level_le
    omega
  -- what the tables have for the next level
  have htable : ∀ xs : List ℤ, xs.length = r.towerBuildCosts.length →
      vectorAt xs t.towerLevel = .ok (xs[t.towerLevel.toNat]?.getD 0) := fun xs hxs => by
    rw [vectorAt_eq_ok, List.getElem?_eq_getElem (by omega)]
    exact ⟨hlevel.1, rfl⟩
  have hup : t.upgrade r.toConstants = .ok (upgradedTower r.toConstants t) :=
    upgrade_eq_ok.mpr ⟨_, htable r.towerHps r.length_towerHps, rfl⟩
  have hcosts := htable r.towerBuildCosts rfl
  have hpos := r.towerBuildCosts_pos _ (mem_of_vectorAt hcosts)
  rw [← upgradeCost_of_mem h.manager ht] at hcosts hpos
  obtain ⟨i, hi, hti⟩ := h.manager.towerIndex_eq_some ht
  obtain ⟨oldBounds, hold⟩ := exists_calculateBounds hsound e.map
  obtain ⟨newBounds, hnew⟩ := exists_calculateBounds (sound_of_upgrade hsound hmax hup).1 e.map
  have hround : upgradeNext r.toConstants e t.id =
      .ok (e.upgraded i (upgradedTower r.toConstants t)
        (upgradeCost r.toConstants e.manager.towers t.id)
        (newBounds.cells.filter fun cell => ¬ oldBounds.Contains cell)) :=
    upgradeNext_eq_ok.mpr ⟨i, t, _, oldBounds, _, newBounds, hi, hti, hmax, hcosts, hpos,
      by rw [hp]; omega, hold, hup, hnew, rfl⟩
  refine ⟨_, hround, h.upgraded hround, sameContext_upgraded .., ?_, ?_, rfl⟩
  · rw [← set_eq_map h.manager.sorted hti (upgradedTower r.toConstants)]
    rfl
  · rw [← hp]
    rfl

/-- **The upgrades**, when each is of another listed tower below the maximum level
and the balance covers them. -/
theorem foldlM_upgradeNext {r : Ruleset K} {p : PlayerId} {e : TowerEnv K}
    (h : e.Sound r.toConstants p) {l : List ℤ} (hl : l.Nodup)
    (hlisted : ∀ id ∈ l, ∃ t ∈ e.manager.towers,
      t.id = id ∧ t.towerLevel ≠ r.towerBuildCosts.length)
    (hcost : l = [] ∨ (l.map (upgradeCost r.toConstants e.manager.towers)).sum ≤
      e.moneyManager.playerMoney p) :
    ∃ e', l.foldlM (upgradeNext r.toConstants) e = .ok e' ∧ e'.Sound r.toConstants p ∧
      e.SameContext e' ∧
      e'.manager = { e.manager with
        towers := e.manager.towers.map fun t =>
          if t.id ∈ l then upgradedTower r.toConstants t else t
        towersToUpgrade := e.manager.towersToUpgrade.drop l.length
        territoryRefs := e'.manager.territoryRefs } ∧
      e'.moneyManager = e.moneyManager.setBalance p (e.moneyManager.playerMoney p -
        (l.map (upgradeCost r.toConstants e.manager.towers)).sum) ∧
      e'.actorIdIncrement = e.actorIdIncrement := by
  induction l generalizing e with
  | nil =>
    refine ⟨e, rfl, h, SameContext.refl e, by simp, ?_, rfl⟩
    simp [MoneyManager.setBalance]
  | cons a l ih =>
    obtain ⟨ha, hl'⟩ := List.nodup_cons.mp hl
    obtain ⟨t, ht, rfl, hmax⟩ := hlisted a (List.mem_cons_self ..)
    have hrest := sum_upgradeCost_nonneg (r := r) e.manager.towers l
    have hle : upgradeCost r.toConstants e.manager.towers t.id +
        (l.map (upgradeCost r.toConstants e.manager.towers)).sum ≤
          e.moneyManager.playerMoney p := by
      simpa using hcost
    obtain ⟨e₁, hround, hs₁, hctx₁, hm₁, hmoney₁, hid₁⟩ :=
      h.exists_upgradeNext ht hmax (by omega)
    have htowers : e₁.manager.towers = e.manager.towers.map fun u =>
        if u.id = t.id then upgradedTower r.toConstants u else u := by rw [hm₁]
    have hkept : ∀ u : Tower K, (upgradedTower r.toConstants u).id = u.id := fun _ => rfl
    have hother : ∀ id ∈ l, id ≠ t.id := fun id hid heq => ha (by rwa [heq] at hid)
    have hprices : l.map (upgradeCost r.toConstants e₁.manager.towers) =
        l.map (upgradeCost r.toConstants e.manager.towers) := by
      refine List.map_congr_left ?_
      intro id hid
      rw [htowers]
      exact upgradeCost_map hkept (hother id hid) _
    obtain ⟨e₂, hloop, hs₂, hctx, hm, hmoney, hid⟩ := ih hs₁ hl'
      (fun id hid => by
        obtain ⟨u, hu, rfl, humax⟩ := hlisted id (List.mem_cons_of_mem _ hid)
        refine ⟨u, ?_, rfl, humax⟩
        rw [htowers, List.mem_map]
        exact ⟨u, hu, if_neg (hother u.id hid)⟩)
      (.inr (by
        rw [hprices, hmoney₁, MoneyManager.playerMoney_setBalance, Function.update_self]
        omega))
    refine ⟨e₂, by rw [List.foldlM_cons, hround, ok_bind, hloop], hs₂, hctx₁.trans hctx,
      ?_, ?_, hid.trans hid₁⟩
    · rw [hm, htowers, map_map_of_id hkept ha, hm₁]
      simp
    · rw [hmoney, hprices, hmoney₁]
      simp only [MoneyManager.setBalance, Function.update_idem, Function.update_self,
        List.map_cons, List.sum_cons]
      congr 2
      omega

/-! ## The demolitions -/

omit [Field K] [LinearOrder K] [FloorRing K] [IsStrictOrderedRing K] in
/-- The tower after its demolition. -/
def demolishedTower (t : Tower K) : Tower K := { t with hp := 0 }

omit [Field K] [LinearOrder K] [FloorRing K] [IsStrictOrderedRing K] in
theorem sound_demolished {c : Constants K} {p : PlayerId} {t : Tower K} (h : t.Sound c p) :
    (demolishedTower t).Sound c p :=
  { h with
    hp_nonneg := le_refl _
    hp_le := h.hp_nonneg.trans h.hp_le }

omit [IsStrictOrderedRing K] in
/-- One round of the demolitions: the listed tower has hp 0 and is paid for. -/
theorem Sound.exists_suicideNext {r : Ruleset K} {p : PlayerId} {e : TowerEnv K}
    (h : e.Sound r.toConstants p) {t : Tower K} (ht : t ∈ e.manager.towers) :
    ∃ e', suicideNext e t.id = .ok e' ∧ e'.Sound r.toConstants p ∧ e.SameContext e' ∧
      e'.manager = { e.manager with
        towers := e.manager.towers.map fun u => if u.id = t.id then demolishedTower u else u
        towersToSuicide := e.manager.towersToSuicide.tail } ∧
      e'.moneyManager.payouts = Function.update e.moneyManager.payouts p
        (e.moneyManager.payouts p ++ [.towerSuicide t.id]) ∧
      (∀ q, q ≠ p → e'.moneyManager.playerMoney q = e.moneyManager.playerMoney q) ∧
      e'.actorIdIncrement = e.actorIdIncrement := by
  have hsound := h.manager.tower t (mem_allocatedTowers_of_mem ht)
  obtain ⟨i, hi, hti⟩ := h.manager.towerIndex_eq_some ht
  obtain ⟨amount, hmem, hamount⟩ : ∃ x ∈ r.towerSuicideRewardAmounts,
      vectorAt r.towerSuicideRewardAmounts (t.towerLevel - 1) = .ok x :=
    vectorAt_of_lt (sub_nonneg.mpr hsound.level_pos) (by
      have := hsound.level_le
      rw [r.length_towerSuicideRewardAmounts]
      omega)
  have hround : suicideNext e t.id = .ok (e.demolished i t amount) :=
    suicideNext_eq_ok.mpr ⟨i, t, amount, hi, hti, hsound.hp_nonneg.trans hsound.hp_le,
      by rw [h.tables.towerSuicide]; exact hamount,
      r.towerSuicideRewardAmounts_pos amount hmem, rfl⟩
  have hs₁ : (e.demolished i t amount).Sound r.toConstants p :=
    ⟨h.manager.set hti (sound_demolished hsound) rfl rfl rfl rfl rfl,
      ⟨h.tables.towerKill, h.tables.soldierKill, h.tables.towerSuicide⟩,
      h.painted.set hti (u := demolishedTower t) rfl rfl rfl rfl rfl⟩
  refine ⟨_, hround, hs₁, sameContext_demolished .., ?_, ?_, ?_, rfl⟩
  · rw [← set_eq_map h.manager.sorted hti demolishedTower]
    rfl
  · simp [demolished, hsound.playerId_eq]
  · intro q hq
    simp [demolished, hsound.playerId_eq, hq]

omit [IsStrictOrderedRing K] in
/-- **The demolitions**, when each is of another listed tower. -/
theorem foldlM_suicideNext {r : Ruleset K} {p : PlayerId} {e : TowerEnv K}
    (h : e.Sound r.toConstants p) {l : List ℤ} (hl : l.Nodup)
    (hlisted : ∀ id ∈ l, ∃ t ∈ e.manager.towers, t.id = id) :
    ∃ e', l.foldlM suicideNext e = .ok e' ∧ e'.Sound r.toConstants p ∧ e.SameContext e' ∧
      e'.manager = { e.manager with
        towers := e.manager.towers.map fun t => if t.id ∈ l then demolishedTower t else t
        towersToSuicide := e.manager.towersToSuicide.drop l.length
        territoryRefs := e'.manager.territoryRefs } ∧
      e'.moneyManager.payouts = Function.update e.moneyManager.payouts p
        (e.moneyManager.payouts p ++ l.map .towerSuicide) ∧
      (∀ q, q ≠ p → e'.moneyManager.playerMoney q = e.moneyManager.playerMoney q) ∧
      e'.actorIdIncrement = e.actorIdIncrement := by
  induction l generalizing e with
  | nil => exact ⟨e, rfl, h, SameContext.refl e, by simp, by simp, fun _ _ => rfl, rfl⟩
  | cons a l ih =>
    obtain ⟨ha, hl'⟩ := List.nodup_cons.mp hl
    obtain ⟨t, ht, rfl⟩ := hlisted a (List.mem_cons_self ..)
    obtain ⟨e₁, hround, hs₁, hctx₁, hm₁, hpayouts₁, hmoney₁, hid₁⟩ := h.exists_suicideNext ht
    have hkept : ∀ u : Tower K, (demolishedTower u).id = u.id := fun _ => rfl
    obtain ⟨e₂, hloop, hs₂, hctx, hm, hpayouts, hmoney, hid⟩ := ih hs₁ hl' (fun id hid => by
      obtain ⟨u, hu, rfl⟩ := hlisted id (List.mem_cons_of_mem _ hid)
      refine ⟨u, ?_, rfl⟩
      rw [hm₁, List.mem_map]
      exact ⟨u, hu, if_neg fun heq => ha (by rwa [heq] at hid)⟩)
    refine ⟨e₂, by rw [List.foldlM_cons, hround, ok_bind, hloop], hs₂, hctx₁.trans hctx,
      ?_, ?_, fun q hq => (hmoney q hq).trans (hmoney₁ q hq), hid.trans hid₁⟩
    · rw [hm, hm₁, map_map_of_id hkept ha]
      simp
    · rw [hpayouts, hpayouts₁]
      simp

/-! ## The deaths -/

/-- **The deaths**: the towers with hp zero leave the list. -/
theorem Sound.handleTowerDeathUpdates {r : Ruleset K} {p : PlayerId} {e : TowerEnv K}
    (h : e.Sound r.toConstants p) :
    ∃ e', TowerEnv.handleTowerDeathUpdates r.toConstants e = .ok e' ∧
      e'.Sound r.toConstants p ∧ e.SameContext e' ∧
      e'.manager = { e.manager with
        towers := e.manager.towers.filter fun t => t.hp ≠ 0
        towersToDelete0 := e.manager.towersToDelete1
        towersToDelete1 := (e.manager.towers.filter fun t => t.hp = 0).reverse
        territoryRefs := e'.manager.territoryRefs } ∧
      e'.moneyManager = e.moneyManager ∧ e'.actorIdIncrement = e.actorIdIncrement := by
  have haged : e.aged.Sound r.toConstants p := by
    have hsub : ∀ t ∈ e.aged.manager.allocatedTowers, t ∈ e.manager.allocatedTowers := by
      intro t ht
      simp only [aged, allocatedTowers, List.mem_append] at ht ⊢
      tauto
    refine ⟨⟨h.manager.playerId_eq, fun t ht => h.manager.tower t (hsub t ht), h.manager.sorted, ?_,
      ?_, fun t ht => h.manager.id_ge t (hsub t ht), fun t ht => h.manager.id_lt t (hsub t ht),
      h.manager.bound_ge⟩, h.tables, h.painted.congr rfl rfl rfl rfl⟩
    · have hsublist : e.aged.manager.allocatedTowers.Sublist e.manager.allocatedTowers := by
        simp only [aged, allocatedTowers, List.append_nil]
        exact List.sublist_append_left ..
      exact h.manager.nodup.sublist (hsublist.map _)
    · intro t ht
      refine h.manager.deleted t ?_
      simp only [aged, List.mem_append] at ht ⊢
      tauto
  obtain ⟨e', hrun, ⟨hs, hctx⟩, hm, hmoney, hid⟩ := handleTowerDeathUpdates_total
    (c := r.toConstants) (I := fun e₁ => e₁.Sound r.toConstants p ∧ e.SameContext e₁)
    (fun e₁ h₁ => h₁.1.painted.charted)
    (fun e₁ xs t ys bounds hinv htowers hdead hb => by
      obtain ⟨h₁, hctx⟩ := hinv
      have herase : (e₁.deleted xs.length t bounds.cells).manager.towers = xs ++ ys := by
        simp [TowerEnv.deleted, setTerritory, htowers, List.eraseIdx_append_of_length_le]
      refine ⟨⟨h₁.manager.of_perm rfl ?_ ?_ ?_, h₁.tables, h₁.painted.deleted htowers hb⟩,
        hctx.trans (sameContext_deleted ..)⟩
      · simp only [allocatedTowers, herase, htowers]
        simp only [TowerEnv.deleted, setTerritory, List.append_assoc, List.cons_append]
        refine List.Perm.append_left xs ?_
        rw [← List.append_assoc ys]
        exact (List.perm_middle).trans (by simp)
      · rw [herase]
        refine h₁.manager.sorted.sublist ?_
        rw [htowers]
        exact (List.Sublist.refl xs).append (List.sublist_cons_self t ys)
      · intro u hu
        simp only [TowerEnv.deleted, setTerritory, List.mem_append, List.mem_singleton] at hu
        rcases hu with (hu | rfl) | hu
        · exact h₁.manager.deleted u (List.mem_append_left _ hu)
        · exact hdead
        · exact h₁.manager.deleted u (List.mem_append_right _ hu))
    (e := e) ⟨haged, sameContext_aged e⟩
  exact ⟨e', hrun, hs, hctx, hm, hmoney, hid⟩

/-! ## The whole update -/

end TowerEnv

namespace TowerManager

/-- What the requests have to satisfy for an update to carry all of them out. -/
structure Queued (c : Constants K) (m : TowerManager K) (balance : ℤ) : Prop where
  affordable : m.towersToBuildOffsets = [] ∧ m.towersToUpgrade = [] ∨
    m.towersToBuildOffsets.length * TowerEnv.buildCost c +
      (m.towersToUpgrade.map (TowerEnv.upgradeCost c m.towers)).sum ≤ balance
  upgrades_nodup : m.towersToUpgrade.Nodup
  upgrades : ∀ id ∈ m.towersToUpgrade, ∃ t ∈ m.towers,
    t.id = id ∧ t.towerLevel ≠ c.towerBuildCosts.length
  suicides_nodup : m.towersToSuicide.Nodup
  suicides : ∀ id ∈ m.towersToSuicide, ∃ t ∈ m.towers, t.id = id
  disjoint : ∀ id ∈ m.towersToUpgrade, id ∉ m.towersToSuicide

section Queued

variable {c : Constants K} {m : TowerManager K} {balance : ℤ}

theorem Queued.builds_affordable [Field K] [LinearOrder K] [FloorRing K] [IsStrictOrderedRing K]
    {r : Ruleset K} (h : m.Queued r.toConstants balance) : m.towersToBuildOffsets = [] ∨
      m.towersToBuildOffsets.length * TowerEnv.buildCost r.toConstants ≤ balance := by
  have hupgrades := TowerEnv.sum_upgradeCost_nonneg (r := r) m.towers m.towersToUpgrade
  rcases h.affordable with ⟨hnil, -⟩ | hle
  · exact .inl hnil
  · exact .inr (by omega)

theorem Queued.upgrades_affordable (h : m.Queued c balance) : m.towersToUpgrade = [] ∨
    (m.towersToUpgrade.map (TowerEnv.upgradeCost c m.towers)).sum ≤
      balance - m.towersToBuildOffsets.length * TowerEnv.buildCost c := by
  rcases h.affordable with ⟨-, hnil⟩ | hle
  · exact .inl hnil
  · exact .inr (by omega)

theorem Queued.upgradeCosts_append (h : m.Queued c balance) (new : List (Tower K)) :
    m.towersToUpgrade.map (TowerEnv.upgradeCost c (m.towers ++ new)) =
      m.towersToUpgrade.map (TowerEnv.upgradeCost c m.towers) := by
  refine List.map_congr_left ?_
  intro id hid
  obtain ⟨t, ht, rfl, -⟩ := h.upgrades id hid
  rw [TowerEnv.upgradeCost_append ht]

end Queued

/-- What the requests make of a tower. -/
def processed (c : Constants K) (m : TowerManager K) (t : Tower K) : Tower K :=
  let t := if t.id ∈ m.towersToUpgrade then TowerEnv.upgradedTower c t else t
  if t.id ∈ m.towersToSuicide then TowerEnv.demolishedTower t else t

theorem processed_eq (c : Constants K) (m : TowerManager K) (t : Tower K) :
    m.processed c t = { t with
      towerLevel := (m.processed c t).towerLevel
      maxHp := (m.processed c t).maxHp
      hp := (m.processed c t).hp } := by
  unfold processed TowerEnv.demolishedTower TowerEnv.upgradedTower
  dsimp only
  split <;> split <;> rfl

@[simp] theorem id_processed (c : Constants K) (m : TowerManager K) (t : Tower K) :
    (m.processed c t).id = t.id := by rw [processed_eq]

@[simp] theorem position_processed (c : Constants K) (m : TowerManager K) (t : Tower K) :
    (m.processed c t).position = t.position := by rw [processed_eq]

@[simp] theorem isBase_processed (c : Constants K) (m : TowerManager K) (t : Tower K) :
    (m.processed c t).isBase = t.isBase := by rw [processed_eq]

@[simp] theorem playerId_processed (c : Constants K) (m : TowerManager K) (t : Tower K) :
    (m.processed c t).playerId = t.playerId := by rw [processed_eq]

variable [Field K] [LinearOrder K] [FloorRing K]

omit [LinearOrder K] [FloorRing K] in
/-- The towers of before and the new ones, as the requests leave them. -/
def worked (c : Constants K) (elementSize bound : ℤ) (m : TowerManager K) : List (Tower K) :=
  (m.towers ++ TowerEnv.freshTowers c m.playerId elementSize bound m.towersToBuildOffsets).map
    (m.processed c)

end TowerManager

namespace TowerEnv

open TowerManager

variable [Field K] [LinearOrder K] [FloorRing K] [IsStrictOrderedRing K]

/-- **The builds and the upgrades.**  The towers that are built do not change what the upgrades
cost, so the money that is left after the builds is enough for them. -/
theorem purchases_spec {r : Ruleset K} {p : PlayerId} {e : TowerEnv K}
    (h : e.Sound r.toConstants p)
    (hq : e.manager.Queued r.toConstants (e.moneyManager.playerMoney p)) :
    ∃ e₁ e₂, handleTowerBuildUpdates r.toConstants e = .ok e₁ ∧
      handleTowerUpgradeUpdates r.toConstants e₁ = .ok e₂ ∧ e₂.Sound r.toConstants p ∧
      e.SameContext e₂ ∧
      e₂.manager = { e.manager with
        towers := (e.manager.towers ++ freshTowers r.toConstants p e.map.elementSize
          e.actorIdIncrement e.manager.towersToBuildOffsets).map fun t =>
            if t.id ∈ e.manager.towersToUpgrade then upgradedTower r.toConstants t else t
        towersToBuildOffsets := []
        towersToUpgrade := []
        territoryRefs := e₂.manager.territoryRefs } ∧
      e₂.moneyManager = (e.moneyManager.setBalance p (e.moneyManager.playerMoney p -
          e.manager.towersToBuildOffsets.length * buildCost r.toConstants)).setBalance p
        (e.moneyManager.playerMoney p -
          e.manager.towersToBuildOffsets.length * buildCost r.toConstants -
          (e.manager.towersToUpgrade.map (upgradeCost r.toConstants e.manager.towers)).sum) ∧
      e₂.actorIdIncrement = e.actorIdIncrement + e.manager.towersToBuildOffsets.length := by
  obtain ⟨e₁, h₁, hs₁, hc₁, hm₁, hmoney₁, hid₁⟩ := foldlM_buildNext h hq.builds_affordable
  have htowers₁ : e₁.manager.towers = e.manager.towers ++ freshTowers r.toConstants p
      e.map.elementSize e.actorIdIncrement e.manager.towersToBuildOffsets := by rw [hm₁]
  have hlisted : ∀ id ∈ e.manager.towersToUpgrade, ∃ t ∈ e₁.manager.towers,
      t.id = id ∧ t.towerLevel ≠ r.towerBuildCosts.length := fun id hid => by
    obtain ⟨t, ht, hrest⟩ := hq.upgrades id hid
    exact ⟨t, by rw [htowers₁]; exact List.mem_append_left _ ht, hrest⟩
  have hprices : e.manager.towersToUpgrade.map (upgradeCost r.toConstants e₁.manager.towers) =
      e.manager.towersToUpgrade.map (upgradeCost r.toConstants e.manager.towers) := by
    rw [htowers₁, hq.upgradeCosts_append]
  have hleft : e₁.moneyManager.playerMoney p = e.moneyManager.playerMoney p -
      e.manager.towersToBuildOffsets.length * buildCost r.toConstants := by
    rw [hmoney₁, MoneyManager.playerMoney_setBalance, Function.update_self]
  have hafford : e.manager.towersToUpgrade = [] ∨ (e.manager.towersToUpgrade.map
      (upgradeCost r.toConstants e₁.manager.towers)).sum ≤ e₁.moneyManager.playerMoney p := by
    rw [hprices, hleft]
    exact hq.upgrades_affordable
  have hqueue : e₁.manager.towersToUpgrade = e.manager.towersToUpgrade := by rw [hm₁]
  obtain ⟨e₂, h₂, hs₂, hc₂, hm₂, hmoney₂, hid₂⟩ :=
    foldlM_upgradeNext hs₁ hq.upgrades_nodup hlisted hafford
  refine ⟨e₁, e₂, h₁, ?_, hs₂, hc₁.trans hc₂, ?_, ?_, ?_⟩
  · rw [handleTowerUpgradeUpdates, hqueue, h₂]
  · rw [hm₂, hm₁]
    simp
  · rw [hmoney₂, hprices, hleft, hmoney₁]
  · rw [hid₂, hid₁]

/-- **What the update of a tower manager does.** -/
theorem update_spec {r : Ruleset K} {p : PlayerId} {e : TowerEnv K} (h : e.Sound r.toConstants p)
    (hq : e.manager.Queued r.toConstants (e.moneyManager.playerMoney p)) :
    ∃ e', update r.toConstants e = .ok e' ∧ e'.Sound r.toConstants p ∧ e.SameContext e' ∧
      e'.manager = {
        towers := (e.manager.worked r.toConstants e.map.elementSize e.actorIdIncrement).filter
          fun t => t.hp ≠ 0
        playerId := p
        towersToBuildOffsets := []
        towersToUpgrade := []
        towersToSuicide := []
        towersToDelete0 := e.manager.towersToDelete1
        towersToDelete1 :=
          ((e.manager.worked r.toConstants e.map.elementSize e.actorIdIncrement).filter
            fun t => t.hp = 0).reverse
        territoryRefs := e'.manager.territoryRefs } ∧
      e'.moneyManager.payouts = Function.update e.moneyManager.payouts p
        (e.moneyManager.payouts p ++ e.manager.towersToSuicide.map .towerSuicide) ∧
      (∀ q, q ≠ p → e'.moneyManager.playerMoney q = e.moneyManager.playerMoney q) ∧
      e'.actorIdIncrement = e.actorIdIncrement + e.manager.towersToBuildOffsets.length := by
  have hp := h.manager.playerId_eq
  obtain ⟨e₁, e₂, h₁, h₂, hs₂, hc₂, hm₂, hmoney₂, hid₂⟩ := purchases_spec h hq
  have hlisted₂ : ∀ id ∈ e.manager.towersToSuicide, ∃ t ∈ e₂.manager.towers, t.id = id := by
    intro id hid
    obtain ⟨t, ht, rfl⟩ := hq.suicides id hid
    rw [hm₂]
    refine ⟨_, List.mem_map_of_mem (List.mem_append_left _ ht), ?_⟩
    split <;> rfl
  obtain ⟨e₃, h₃, hs₃, hc₃, hm₃, hpay₃, hmoney₃, hid₃⟩ :=
    foldlM_suicideNext hs₂ hq.suicides_nodup hlisted₂
  obtain ⟨e₄, h₄, hs₄, hc₄, hm₄, hmoney₄, hid₄⟩ := hs₃.handleTowerDeathUpdates
  have hworked : e₃.manager.towers =
      e.manager.worked r.toConstants e.map.elementSize e.actorIdIncrement := by
    rw [hm₃, hm₂, worked, List.map_map, hp]
    refine List.map_congr_left ?_
    intro t _
    have hid : (if t.id ∈ e.manager.towersToUpgrade then upgradedTower r.toConstants t
        else t).id = t.id := by
      split <;> rfl
    simp only [Function.comp, processed, hid]
  have hqueue : e₂.manager.towersToSuicide = e.manager.towersToSuicide := by rw [hm₂]
  refine ⟨e₄, ?_, hs₄, (hc₂.trans hc₃).trans hc₄, ?_, ?_, ?_, ?_⟩
  · simp only [update, h₁, ok_bind, h₂, handleTowerSuicideUpdates, hqueue, h₃, h₄]
  · rw [hm₄, hworked, hm₃, hm₂]
    simp [hp]
  · rw [hmoney₄, hpay₃, hmoney₂]
    rfl
  · intro q hq
    rw [hmoney₄, hmoney₃ q hq, hmoney₂]
    simp [hq]
  · rw [hid₄, hid₃, hid₂]

end TowerEnv

namespace State

variable [Field K] [LinearOrder K] [FloorRing K]

omit [LinearOrder K] [FloorRing K] in
/-- The towers of a player, old and new, as the requests leave them. -/
def workedTowers (c : Constants K) (st : State K) (p : PlayerId) : List (Tower K) :=
  (st.towerManagers p).worked c st.map.elementSize st.actorIdIncrement

omit [LinearOrder K] [FloorRing K] in
/-- What the update of the towers of player `p` has done to a state. -/
structure TowersUpdated (c : Constants K) (p : PlayerId) (st st' : State K) : Prop where
  soldiers : st'.soldiers = st.soldiers
  other : ∀ q, q ≠ p → st'.towerManagers q = st.towerManagers q
  manager : st'.towerManagers p = {
    towers := (st.workedTowers c p).filter fun t => t.hp ≠ 0
    playerId := p
    towersToBuildOffsets := []
    towersToUpgrade := []
    towersToSuicide := []
    towersToDelete0 := (st.towerManagers p).towersToDelete1
    towersToDelete1 := ((st.workedTowers c p).filter fun t => t.hp = 0).reverse
    territoryRefs := (st'.towerManagers p).territoryRefs }
  payouts : st'.moneyManager.payouts = Function.update st.moneyManager.payouts p
    (st.moneyManager.payouts p ++ (st.towerManagers p).towersToSuicide.map .towerSuicide)
  money : ∀ q, q ≠ p → st'.moneyManager.playerMoney q = st.moneyManager.playerMoney q
  owns : ∀ q, q ≠ p → st'.map.owns q = st.map.owns q
  elementSize : st'.map.elementSize = st.map.elementSize
  actorIdIncrement : st'.actorIdIncrement =
    st.actorIdIncrement + (st.towerManagers p).towersToBuildOffsets.length

omit [LinearOrder K] [FloorRing K] in
theorem TowersUpdated.payouts_eq {c : Constants K} {p : PlayerId} {st st₁ st₂ : State K}
    (hu₁ : st.TowersUpdated c p st₁) (hu₂ : st₁.TowersUpdated c p.opponent st₂) (q : PlayerId) :
    st₂.moneyManager.payouts q = st.moneyManager.payouts q ++
      (st.towerManagers q).towersToSuicide.map Payout.towerSuicide := by
  by_cases hq : q = p
  · subst hq
    rw [hu₂.payouts, Function.update_of_ne (PlayerId.ne_opponent q), hu₁.payouts,
      Function.update_self]
  · obtain rfl := PlayerId.eq_opponent_of_ne hq
    rw [hu₂.payouts, Function.update_self, hu₁.payouts, Function.update_of_ne hq, hu₁.other _ hq]

omit [LinearOrder K] [FloorRing K] in
theorem TowersUpdated.towers_alive {c : Constants K} {p : PlayerId} {st st₁ st₂ : State K}
    (hu₁ : st.TowersUpdated c p st₁) (hu₂ : st₁.TowersUpdated c p.opponent st₂) (q : PlayerId) :
    ∀ t ∈ st₂.towers q, t.hp ≠ 0 := by
  intro t ht
  by_cases hq : q = p
  · subst hq
    rw [State.towers, hu₂.other _ (PlayerId.ne_opponent q), hu₁.manager] at ht
    simpa using (List.mem_filter.mp ht).2
  · obtain rfl := PlayerId.eq_opponent_of_ne hq
    rw [State.towers, hu₂.manager] at ht
    simpa using (List.mem_filter.mp ht).2

/-- The soldiers that target towers of player `p` target listed ones. -/
def TargetsListed (st : State K) (p : PlayerId) : Prop :=
  ∀ (i : ℕ) s id, (st.soldiers p.opponent)[i]? = some s →
    s.attackTarget = some (.tower p id) → ∃ t ∈ st.towers p, t.id = id

theorem Sound.env {c : Constants K} {st : State K} (h : st.Sound c) (p : PlayerId) :
    (st.towerEnv p).Sound c p :=
  ⟨h.manager p, h.tables, h.painted p⟩

omit [LinearOrder K] [FloorRing K] in
/-- The id of a tower after the update is an old one or a new one. -/
theorem TowersUpdated.id_cases {c : Constants K} {p : PlayerId} {st st' : State K}
    (h : st.TowersUpdated c p st') {t : Tower K}
    (ht : t ∈ (st'.towerManagers p).allocatedTowers) :
    (∃ u ∈ (st.towerManagers p).allocatedTowers, u.id = t.id) ∨ st.actorIdIncrement ≤ t.id := by
  have hworked : ∀ u ∈ st.workedTowers c p,
      (∃ v ∈ (st.towerManagers p).allocatedTowers, v.id = u.id) ∨ st.actorIdIncrement ≤ u.id := by
    intro u hu
    obtain ⟨v, hv, rfl⟩ := List.mem_map.mp hu
    rw [TowerManager.id_processed]
    rcases List.mem_append.mp hv with hv | hv
    · exact .inl ⟨v, TowerManager.mem_allocatedTowers_of_mem hv, rfl⟩
    · obtain ⟨_, -, id', hle, rfl⟩ := TowerEnv.mem_freshTowers hv
      exact .inr hle
  rw [h.manager] at ht
  simp only [TowerManager.allocatedTowers, List.mem_append, List.mem_reverse] at ht
  rcases ht with (ht | ht) | ht
  · exact hworked t (List.mem_of_mem_filter ht)
  · exact hworked t (List.mem_of_mem_filter ht)
  · exact .inl ⟨t, by simp [TowerManager.allocatedTowers, ht], rfl⟩

omit [LinearOrder K] [FloorRing K] in
theorem TowersUpdated.exists_allocated {c : Constants K} {p : PlayerId} {st st' : State K}
    (h : st.TowersUpdated c p st') {t : Tower K} (ht : t ∈ st.towers p) :
    ∃ u ∈ (st'.towerManagers p).allocatedTowers, u.id = t.id := by
  have hmem : (st.towerManagers p).processed c t ∈ st.workedTowers c p :=
    List.mem_map_of_mem (List.mem_append_left _ ht)
  refine ⟨_, ?_, TowerManager.id_processed c (st.towerManagers p) t⟩
  rw [h.manager]
  simp only [TowerManager.allocatedTowers, List.mem_append, List.mem_reverse, List.mem_filter,
    decide_eq_true_eq]
  by_cases hp0 : ((st.towerManagers p).processed c t).hp = 0
  · exact .inl (.inr ⟨hmem, hp0⟩)
  · exact .inl (.inl ⟨hmem, hp0⟩)

omit [LinearOrder K] [FloorRing K] in
/-- The towers of a player after the update of its towers: those of before that the
requests leave alive, and new ones. -/
theorem TowersUpdated.mem_towers {c : Constants K} {p : PlayerId} {st st' : State K}
    (h : st.TowersUpdated c p st') {t' : Tower K} (ht' : t' ∈ st'.towers p) :
    (∃ t ∈ st.towers p, (st.towerManagers p).processed c t = t' ∧ t'.hp ≠ 0) ∨
      st.actorIdIncrement ≤ t'.id := by
  rw [State.towers, h.manager, List.mem_filter] at ht'
  obtain ⟨hworked, hhp⟩ := ht'
  obtain ⟨t, ht, rfl⟩ := List.mem_map.mp hworked
  rcases List.mem_append.mp ht with ht | ht
  · exact .inl ⟨t, ht, rfl, by simpa using hhp⟩
  · obtain ⟨_, -, id', hle, rfl⟩ := TowerEnv.mem_freshTowers ht
    rw [TowerManager.id_processed]
    exact .inr hle

omit [LinearOrder K] [FloorRing K] in
/-- A tower that the requests leave alive stays listed. -/
theorem TowersUpdated.processed_mem {c : Constants K} {p : PlayerId} {st st' : State K}
    (h : st.TowersUpdated c p st') {t : Tower K} (ht : t ∈ st.towers p)
    (hhp : ((st.towerManagers p).processed c t).hp ≠ 0) :
    (st.towerManagers p).processed c t ∈ st'.towers p := by
  rw [State.towers, h.manager, List.mem_filter]
  exact ⟨List.mem_map_of_mem (List.mem_append_left _ ht), by simpa using hhp⟩

omit [LinearOrder K] [FloorRing K] in
theorem TowersUpdated.length_towers {c : Constants K} {p : PlayerId} {st st' : State K}
    (h : st.TowersUpdated c p st') : (st'.towers p).length ≤
      (st.towers p).length + (st.towerManagers p).towersToBuildOffsets.length := by
  have hle : ((st.workedTowers c p).filter fun t => t.hp ≠ 0).length ≤
      (st.workedTowers c p).length := List.length_filter_le ..
  rw [State.towers, h.manager]
  simpa [workedTowers, TowerManager.worked, State.towers] using hle

variable [IsStrictOrderedRing K]

omit [LinearOrder K] [FloorRing K] [IsStrictOrderedRing K] in
/-- A pointer a soldier may hold still is one, if the tower it may point to was listed. -/
theorem TowersUpdated.designates {c : Constants K} {p : PlayerId} {st st' : State K}
    (hu : st.TowersUpdated c p st') {q : PlayerId} {ptr : ActorPtr} (hptr : st.Designates q ptr)
    (hlisted : ∀ id, ptr = .tower p id → ∃ t ∈ st.towers p, t.id = id) :
    st'.Designates q ptr := by
  cases ptr with
  | soldier q' k => exact ⟨hptr.1, hu.soldiers ▸ hptr.2⟩
  | tower q' id =>
    obtain ⟨rfl, u, hmem, hid⟩ := hptr
    refine ⟨rfl, ?_⟩
    by_cases hqp : q.opponent = p
    · subst hqp
      obtain ⟨t, ht, htid⟩ := hlisted id rfl
      obtain ⟨v, hv, hvid⟩ := hu.exists_allocated ht
      exact ⟨v, hv, hvid.trans htid⟩
    · rw [hu.other _ hqp]
      exact ⟨u, hmem, hid⟩

omit [IsStrictOrderedRing K] in
theorem TowersUpdated.disjoint {c : Constants K} {p : PlayerId} {st st' : State K}
    (hu : st.TowersUpdated c p st') (h : st.Sound c) (q : PlayerId) :
    ∀ t ∈ (st'.towerManagers q).allocatedTowers,
      ∀ u ∈ (st'.towerManagers q.opponent).allocatedTowers, t.id ≠ u.id := by
  have hdisjoint : ∀ t ∈ (st'.towerManagers p).allocatedTowers,
      ∀ u ∈ (st.towerManagers p.opponent).allocatedTowers, t.id ≠ u.id := by
    intro t ht u hmem
    rcases hu.id_cases ht with ⟨v, hv, hvid⟩ | hge
    · exact hvid ▸ h.disjoint p v hv u hmem
    · exact ((((h.manager p.opponent).id_lt u hmem).trans_le hge).ne).symm
  intro t ht u hmem
  by_cases hqp : q = p
  · subst hqp
    rw [hu.other _ (PlayerId.opponent_ne q)] at hmem
    exact hdisjoint t ht u hmem
  · obtain rfl := PlayerId.eq_opponent_of_ne hqp
    rw [hu.other _ hqp] at ht
    rw [PlayerId.opponent_opponent] at hmem
    exact (hdisjoint u hmem t ht).symm

/-- **The update of the towers of one player** succeeds when its requests can be
carried out and its listed towers are all that is targeted, and keeps the state
sound. -/
theorem Sound.updateTowers {r : Ruleset K} {st : State K} (h : st.Sound r.toConstants)
    {p : PlayerId}
    (hq : (st.towerManagers p).Queued r.toConstants (st.moneyManager.playerMoney p))
    (ht : st.TargetsListed p) :
    ∃ st', updateTowers r.toConstants st p = .ok st' ∧ st'.Sound r.toConstants ∧
      st.TowersUpdated r.toConstants p st' := by
  obtain ⟨e, hrun, hs, hctx, hm, hpay, hmoney, hid⟩ := TowerEnv.update_spec (h.env p) hq
  have hp := (h.manager p).playerId_eq
  have hpEnv : (st.towerEnv p).manager.playerId = p := hp
  have hself : (st.setTowerEnv p e).towerManagers p = e.manager := by
    simp [setTowerEnv, setTowerManager]
  have hother : ∀ q, q ≠ p → (st.setTowerEnv p e).towerManagers q = st.towerManagers q :=
    fun q hq => by simp [setTowerEnv, setTowerManager, hq]
  have hupdated : st.TowersUpdated r.toConstants p (st.setTowerEnv p e) :=
    { soldiers := rfl
      other := hother
      manager := by
        rw [hself]
        exact hm
      payouts := hpay
      money := hmoney
      owns := fun q hq => hctx.owns q (by rwa [hpEnv])
      elementSize := hctx.elementSize
      actorIdIncrement := hid }
  have hbound : st.actorIdIncrement ≤ (st.setTowerEnv p e).actorIdIncrement := by
    rw [hupdated.actorIdIncrement]
    omega
  refine ⟨_, by rw [State.updateTowers, hrun], ?_, hupdated⟩
  constructor
  · exact h.length_soldiers
  · exact h.soldier
  · intro q i s ptr hsome hptr
    refine hupdated.designates (h.target q i s ptr hsome hptr) ?_
    intro id hid
    subst hid
    obtain ⟨rfl, -⟩ := h.target q i s _ hsome hptr
    exact ht i s id (by rwa [PlayerId.opponent_opponent]) hptr
  · intro q
    by_cases hqp : q = p
    · subst hqp
      rw [hself]
      exact hs.manager
    · rw [hother q hqp]
      exact (h.manager q).mono hbound
  · exact hupdated.disjoint h
  · exact hs.tables
  · exact hctx.size.trans h.size
  · exact hctx.elementSize.trans h.elementSize
  · intro q
    by_cases hqp : q = p
    · subst hqp
      exact hs.painted.congr (by rw [towerEnv, hself]) rfl rfl (by
        rw [towerEnv, TowerEnv.territory, hself]
        rfl)
    · refine (h.painted q).congr (by rw [towerEnv, hother q hqp]; rfl) hctx.size hctx.elementSize ?_
      simp only [towerEnv, TowerEnv.territory, hother q hqp, (h.manager q).playerId_eq]
      rw [hupdated.owns q hqp]

end State

end Simulator
