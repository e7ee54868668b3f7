import Simulator.State.Soundness

/-!
# The soldiers' phases of an update

In the first phase every soldier is updated, in the second every soldier is
late-updated.  From a sound state both phases succeed, and each round is an effect:
`runSoldier_update` for the first phase and `runSoldier_lateUpdate` for the second.

## From programs to effects

The model of a round takes the soldier out of its vector, finds what its pointer points to, runs
the state machine on the two and on the money, and writes all three back.  That this is an effect
rests on three things about a sound state.  The pointer of a soldier does not dangle, and what it
points to belongs to the opponent (`Sound.deref_of_designates`, `Sound.playerId_of_deref`), so
that soldier and target are two objects.  Ids of towers are not repeated, so that writing a tower
back under its pointer changes that tower and no other (`setActor_damage`).  And there is a reward
for every actor, so that a kill does not throw (`Sound.rewards`).

## What the phases keep

`Sound.apply` says what has to be shown of an effect for the state to stay sound: soldiers stay
sound and take no new target, towers only lose hp, and the reward tables stay.  `Sound.actEffect`
shows it of a round.  That soldiers take no new target is what keeps pointers from dangling while
the phase goes on, as nothing is removed from the lists before it is over.

A state after the first phase has more than soundness: every soldier is `Engaged`, which is to say
that its orders agree with its state and that its target, if it has one, is a living soldier or a
listed tower.  The second phase relies on the first half, and the commands of the next turn on the
second.  `actAll_invariant` is the rule for what a whole phase keeps.
-/

namespace Simulator

open Foundation

variable {K : Type}

namespace State

/-! ## Memory -/

@[simp] theorem deref_soldier (st : State K) (p : PlayerId) (i : ℕ) :
    st.deref (.soldier p i) = (st.soldiers p)[i]?.map Actor.soldier := rfl

theorem setSoldier_eq_apply (st : State K) (p : PlayerId) (i : ℕ) (s : Soldier K) :
    st.setSoldier p i s = st.apply
      { soldier := fun q k u => if q = p ∧ k = i then s else u
        tower := fun _ t => t
        money := fun m => m } := by
  have hsoldiers : Function.update st.soldiers p ((st.soldiers p).set i s) =
      fun q => (st.soldiers q).mapIdx fun k u => if q = p ∧ k = i then s else u := by
    funext q
    by_cases hq : q = p
    · subst hq
      refine List.ext_getElem? ?_
      intro k
      by_cases hk : k = i
      · subst hk
        by_cases hlt : k < (st.soldiers q).length
        · simp [hlt]
        · simp [not_lt.mp hlt]
      · simp [Ne.symm hk, hk]
    · simp [hq, List.mapIdx_eq_zipIdx_map]
  simp [setSoldier, apply, hsoldiers]

theorem setActor_tower_eq_apply (st : State K) (p : PlayerId) (id : ℤ) (t : Tower K) :
    st.setActor (.tower p id) (.tower t) = st.apply
      { soldier := fun _ _ s => s
        tower := fun q u => if q = p ∧ u.id = t.id then t else u
        money := fun m => m } := by
  have hmanagers : Function.update st.towerManagers p ((st.towerManagers p).replaceTower t) =
      fun q => (st.towerManagers q).mapTowers fun u => if q = p ∧ u.id = t.id then t else u := by
    ext q
    by_cases hq : q = p
    · subst hq
      simp [TowerManager.replaceTower, TowerManager.mapTowers]
    · simp [hq]
  simp [setActor, setTowerManager, apply, hmanagers, List.mapIdx_eq_zipIdx_map]

theorem setMoney_eq_apply (st : State K) (m : MoneyManager) :
    { st with moneyManager := m } = st.apply
      { soldier := fun _ _ s => s, tower := fun _ t => t, money := fun _ => m } := by
  simp [apply, List.mapIdx_eq_zipIdx_map]

/-- Damage to the actor behind a pointer, as an effect. -/
def damageEffect (ptr : ActorPtr) (damageAmount : ℤ) : Effect K where
  soldier q k u := if ptr = .soldier q k then u.damage damageAmount else u
  tower q t := if ptr = .tower q t.id then t.damage damageAmount else t
  money m := m

theorem setActor_damage {st : State K} {ptr : ActorPtr} {a : Actor K}
    (hid : ∀ p, ((st.towerManagers p).allocatedTowers.map Tower.id).Nodup)
    (ha : st.deref ptr = some a) (damageAmount : ℤ) :
    st.setActor ptr (a.damage damageAmount) = st.apply (damageEffect ptr damageAmount) := by
  cases ptr with
  | soldier q j =>
    obtain ⟨u, hu, rfl⟩ := Option.map_eq_some_iff.mp ha
    rw [Actor.damage, setActor, setSoldier_eq_apply]
    refine apply_congr ?_ (fun _ _ _ => by simp [damageEffect]) rfl
    intro q' k v hv
    by_cases hqk : q = q' ∧ j = k
    · obtain ⟨rfl, rfl⟩ := hqk
      cases hu.symm.trans hv
      simp [damageEffect]
    · have hqk' : ¬ (q' = q ∧ k = j) := fun h => hqk ⟨h.1.symm, h.2.symm⟩
      simp [damageEffect, hqk, hqk']
  | tower q id =>
    obtain ⟨t, ht, rfl⟩ := Option.map_eq_some_iff.mp ha
    have htid : t.id = id := by simpa using List.find?_some ht
    have hmem := List.mem_of_find?_eq_some ht
    rw [Actor.damage, setActor_tower_eq_apply]
    refine apply_congr (fun _ _ _ _ => by simp [damageEffect]) ?_ rfl
    intro q' v hv
    by_cases hqv : q = q' ∧ id = v.id
    · obtain ⟨rfl, rfl⟩ := hqv
      have hsame : t = v := List.inj_on_of_nodup_map (hid q) hmem hv htid
      simp [damageEffect, hsame, Tower.damage]
    · have hqv' : ¬ (q' = q ∧ v.id = (t.damage damageAmount).id) := fun h =>
        hqv ⟨h.1.symm, htid.symm.trans h.2.symm⟩
      simp [damageEffect, hqv, hqv']

theorem setActor_self {st : State K} {ptr : ActorPtr} {a : Actor K}
    (hid : ∀ p, ((st.towerManagers p).allocatedTowers.map Tower.id).Nodup)
    (ha : st.deref ptr = some a) : st.setActor ptr a = st := by
  cases ptr with
  | soldier q j =>
    obtain ⟨u, hu, rfl⟩ := Option.map_eq_some_iff.mp ha
    obtain ⟨hj, rfl⟩ := List.getElem?_eq_some_iff.mp hu
    simp [setActor, setSoldier]
  | tower q id =>
    obtain ⟨t, ht, rfl⟩ := Option.map_eq_some_iff.mp ha
    have hmem := List.mem_of_find?_eq_some ht
    have hsame : ∀ u ∈ (st.towerManagers q).allocatedTowers,
        (if u.id = t.id then t else u) = u := by
      intro u hu
      split
      · rename_i hut
        exact List.inj_on_of_nodup_map (hid q) hmem hu hut.symm
      · rfl
    have hreplace : (st.towerManagers q).replaceTower t = st.towerManagers q := by
      change (st.towerManagers q).mapTowers (fun u => if u.id = t.id then t else u) = _
      rw [TowerManager.mapTowers_congr hsame, TowerManager.mapTowers_id]
    simp [setActor, setTowerManager, hreplace]

section Sound

variable [Field K] [LinearOrder K] [FloorRing K]

theorem Sound.deref_tower {c : Constants K} {st : State K} (h : st.Sound c) {p : PlayerId} {id : ℤ}
    {a : Actor K} : st.deref (.tower p id) = some a ↔
      ∃ t ∈ (st.towerManagers p).allocatedTowers, t.id = id ∧ Actor.tower t = a := by
  simp only [deref, Option.map_eq_some_iff, (h.manager p).find?_eq_some, and_assoc]

/-- A tower is found under its own pointer only. -/
theorem Sound.exists_of_deref_eq_tower {c : Constants K} {st : State K} (h : st.Sound c)
    {ptr : ActorPtr} {t : Tower K} (hderef : st.deref ptr = some (.tower t)) :
    ∃ q, ptr = .tower q t.id ∧ t ∈ (st.towerManagers q).allocatedTowers := by
  cases ptr with
  | soldier q j =>
    obtain ⟨u, -, hcontra⟩ := Option.map_eq_some_iff.mp hderef
    cases hcontra
  | tower q id =>
    obtain ⟨u, hu, rfl, hut⟩ := h.deref_tower.mp hderef
    obtain rfl := Actor.tower.inj hut
    exact ⟨q, rfl, hu⟩

/-- A pointer a soldier may hold is not dangling. -/
theorem Sound.deref_of_designates {c : Constants K} {st : State K} (h : st.Sound c) {p : PlayerId}
    {ptr : ActorPtr} (hptr : st.Designates p ptr) : ∃ a, st.deref ptr = some a := by
  cases ptr with
  | soldier q i =>
    obtain ⟨-, hi⟩ := hptr
    exact ⟨_, by rw [deref_soldier, List.getElem?_eq_getElem hi]; rfl⟩
  | tower q id =>
    obtain ⟨-, t, ht, hid⟩ := hptr
    exact ⟨.tower t, h.deref_tower.mpr ⟨t, ht, hid, rfl⟩⟩

/-- What a pointer of a soldier of player `p` points to belongs to the opponent. -/
theorem Sound.playerId_of_deref {c : Constants K} {st : State K} (h : st.Sound c) {p : PlayerId}
    {ptr : ActorPtr} (hptr : st.Designates p ptr) {a : Actor K} (ha : st.deref ptr = some a) :
    a.playerId = p.opponent := by
  cases ptr with
  | soldier q i =>
    obtain ⟨rfl, -⟩ := hptr
    obtain ⟨s, hs, rfl⟩ := Option.map_eq_some_iff.mp ha
    exact (h.soldier _ i s hs).playerId_eq
  | tower q id =>
    obtain ⟨rfl, -⟩ := hptr
    obtain ⟨t, ht, -, rfl⟩ := h.deref_tower.mp ha
    exact ((h.manager _).tower t ht).playerId_eq

theorem Sound.rewards {r : Ruleset K} {st : State K} (h : st.Sound r.toConstants) {ptr : ActorPtr}
    {a : Actor K} (ha : st.deref ptr = some a) : st.moneyManager.Rewards a := by
  cases ptr with
  | soldier q i =>
    obtain ⟨s, hs, rfl⟩ := Option.map_eq_some_iff.mp ha
    refine ⟨_, rfl, ?_⟩
    rw [h.tables.soldierKill]
    exact r.soldierKillRewardAmount_pos
  | tower q id =>
    obtain ⟨t, ht, -, rfl⟩ := h.deref_tower.mp ha
    have hsound := (h.manager q).tower t ht
    obtain ⟨amount, hmem, hamount⟩ : ∃ x ∈ r.towerKillRewardAmounts,
        vectorAt r.towerKillRewardAmounts (t.towerLevel - 1) = .ok x :=
      vectorAt_of_lt (sub_nonneg.mpr hsound.level_pos) (by
        have := hsound.level_le
        rw [r.length_towerKillRewardAmounts]
        omega)
    refine ⟨amount, ?_, r.towerKillRewardAmounts_pos amount hmem⟩
    rw [MoneyManager.killRewardAmount, h.tables.towerKill]
    exact hamount

end Sound

/-! ## The first phase -/

/-- The objects the update of a soldier reaches. -/
def frameOf (st : State K) (s : Soldier K) : Frame K where
  soldier := s
  target := s.attackTarget.bind st.deref
  moneyManager := st.moneyManager

section Hits

variable [Field K] [LinearOrder K] [SquareRoot K]

theorem hits_eq {st : State K} {p : PlayerId} {i : ℕ} {s : Soldier K} {a : Actor K}
    (hs : (st.soldiers p)[i]? = some s) (ha : st.targetOf p i = some a) (ptr : ActorPtr) :
    st.hits p i ptr =
      if s.attackTarget = some ptr ∧ s.Strikes a then some s.attackDamage else none := by
  simp only [hits, hs, ha]

theorem kills_eq {st : State K} {p : PlayerId} {i : ℕ} {s : Soldier K} {a : Actor K}
    (hs : (st.soldiers p)[i]? = some s) (ha : st.targetOf p i = some a) :
    st.kills p i = if s.Strikes a ∧ (a.damage s.attackDamage).latestHp = 0 then
      some (a.damage s.attackDamage) else none := by
  simp only [kills, hs, ha]

theorem hits_eq_none {st : State K} {p : PlayerId} {i : ℕ} (ha : st.targetOf p i = none)
    (ptr : ActorPtr) : st.hits p i ptr = none := by
  unfold hits
  rw [ha]
  split <;> simp_all

theorem kills_eq_none {st : State K} {p : PlayerId} {i : ℕ} (ha : st.targetOf p i = none) :
    st.kills p i = none := by
  unfold kills
  rw [ha]
  split <;> simp_all

theorem exists_of_hits {st : State K} {p : PlayerId} {i : ℕ} {ptr : ActorPtr} {d : ℤ}
    (h : st.hits p i ptr = some d) : ∃ s a, (st.soldiers p)[i]? = some s ∧
      s.attackTarget = some ptr ∧ st.deref ptr = some a ∧ s.Strikes a ∧ s.attackDamage = d := by
  cases ha : st.targetOf p i with
  | none => simp [hits_eq_none ha] at h
  | some a =>
    obtain ⟨s, hs, hbind⟩ := Option.bind_eq_some_iff.mp ha
    obtain ⟨ptr', hptr, hderef⟩ := Option.bind_eq_some_iff.mp hbind
    rw [hits_eq hs ha] at h
    split at h
    · rename_i hcond
      obtain rfl := Option.some.inj (hptr.symm.trans hcond.1)
      exact ⟨s, a, hs, hptr, hderef, hcond.2, Option.some.inj h⟩
    · simp at h

theorem exists_of_kills {st : State K} {p : PlayerId} {i : ℕ} {a' : Actor K}
    (h : st.kills p i = some a') : ∃ s ptr a, (st.soldiers p)[i]? = some s ∧
      s.attackTarget = some ptr ∧ st.deref ptr = some a ∧ s.Strikes a ∧
      a.damage s.attackDamage = a' ∧ a'.latestHp = 0 ∧ st.hits p i ptr = some s.attackDamage := by
  cases ha : st.targetOf p i with
  | none => simp [kills_eq_none ha] at h
  | some a =>
    obtain ⟨s, hs, hbind⟩ := Option.bind_eq_some_iff.mp ha
    obtain ⟨ptr, hptr, hderef⟩ := Option.bind_eq_some_iff.mp hbind
    rw [kills_eq hs ha] at h
    split at h
    · rename_i hcond
      obtain rfl := Option.some.inj h
      exact ⟨s, ptr, a, hs, hptr, hderef, hcond.1, rfl, hcond.2, by
        rw [hits_eq hs ha, if_pos ⟨hptr, hcond.1⟩]⟩
    · simp at h

end Hits

variable [Field K] [LinearOrder K] [FloorRing K] [SquareRoot K]

omit [SquareRoot K] in
theorem Sound.ready {r : Ruleset K} {st : State K} (h : st.Sound r.toConstants) {p : PlayerId}
    {i : ℕ} {s : Soldier K} (hs : (st.soldiers p)[i]? = some s) :
    (st.frameOf s).Ready r.toConstants p i where
  sound := h.soldier p i s hs
  target_iff := by
    cases hptr : s.attackTarget with
    | none => simp [frameOf, hptr]
    | some ptr =>
      obtain ⟨a, ha⟩ := h.deref_of_designates (h.target p i s ptr hs hptr)
      simp [frameOf, hptr, ha]
  rewards := fun a ha => by
    obtain ⟨ptr, -, hderef⟩ := Option.bind_eq_some_iff.mp ha
    exact h.rewards hderef

/-- **A round of the first phase.** -/
theorem runSoldier_update {r : Ruleset K} {st : State K} (h : st.Sound r.toConstants)
    {p : PlayerId} {i : ℕ} (hi : i < (st.soldiers p).length) :
    runSoldier (Soldier.update r.toConstants) p st i =
      .ok (st.apply (st.actEffect r.toConstants p i)) := by
  obtain ⟨s, hs⟩ : ∃ s, (st.soldiers p)[i]? = some s := ⟨_, List.getElem?_eq_getElem hi⟩
  have hat : vectorAt (st.soldiers p) (i : ℤ) = .ok s := vectorAt_of_getElem? hs
  have hrun := Soldier.update_eq (h.ready hs) r.soldierMaxHp_pos
  rw [frameOf] at hrun
  simp only [runSoldier, hat, ok_bind, hrun, pure_eq_ok, Except.ok.injEq]
  -- the soldier, written last, is the only one that changes its state
  have hself : ∀ q k u, (st.soldiers q)[k]? = some u → q = p ∧ k = i → u = s := by
    rintro q k u hu ⟨rfl, rfl⟩
    exact Option.some.inj (hu.symm.trans hs)
  cases hptr : s.attackTarget with
  | none =>
    have htarget : st.targetOf p i = none := by simp [targetOf, hs, hptr]
    simp only [Option.bind_none, Frame.act, setSoldier_eq_apply]
    refine apply_congr ?_ ?_ ?_
    · intro q k u hu
      by_cases hqk : q = p ∧ k = i
      · simp [actEffect, hits_eq_none htarget, hqk, htarget, hself q k u hu hqk]
      · simp [actEffect, hits_eq_none htarget, hqk]
    · intro q t _
      simp [actEffect, hits_eq_none htarget]
    · simp [actEffect, kills_eq_none htarget]
  | some ptr =>
    have hdes := h.target p i s ptr hs hptr
    obtain ⟨a, ha⟩ := h.deref_of_designates hdes
    have htarget : st.targetOf p i = some a := by simp [targetOf, hs, hptr, ha]
    have hhits := hits_eq hs htarget
    have hkills := kills_eq hs htarget
    have hid : ∀ q, ((st.towerManagers q).allocatedTowers.map Tower.id).Nodup := fun q =>
      (h.manager q).nodup
    have hother : ptr ≠ .soldier p i := by
      rintro rfl
      exact PlayerId.ne_opponent p hdes.1
    simp only [Option.bind_some, ha, Frame.act]
    by_cases hstrike : s.Strikes a
    · have hwrite : ∀ m, { st with moneyManager := m }.setActor ptr (a.damage s.attackDamage) =
          { st with moneyManager := m }.apply (damageEffect ptr s.attackDamage) := fun m =>
        setActor_damage (by exact hid) (by exact ha) s.attackDamage
      simp only [if_pos hstrike]
      rw [hwrite, setMoney_eq_apply, setSoldier_eq_apply, apply_apply, apply_apply]
      refine apply_congr ?_ ?_ ?_
      · intro q k u hu
        by_cases hqk : q = p ∧ k = i
        · obtain ⟨rfl, rfl⟩ := hqk
          simp [actEffect, hhits, hptr, hother, htarget, hself q k u hu ⟨rfl, rfl⟩]
        · by_cases hhit : ptr = .soldier q k <;>
            simp [actEffect, damageEffect, hhits, hptr, hqk, hhit, hstrike]
      · intro q t _
        by_cases hhit : ptr = .tower q t.id <;>
          simp [actEffect, damageEffect, hhits, hptr, hhit, hstrike]
      · by_cases hkill : (a.damage s.attackDamage).latestHp = 0 <;>
          simp [actEffect, damageEffect, hkills, hstrike, hkill]
    · simp only [if_neg hstrike]
      rw [setActor_self hid ha, setSoldier_eq_apply]
      refine apply_congr ?_ ?_ ?_
      · intro q k u hu
        by_cases hqk : q = p ∧ k = i
        · simp [actEffect, hhits, hstrike, hqk, htarget, hself q k u hu hqk]
        · simp [actEffect, hhits, hstrike, hqk]
      · intro q t _
        simp [actEffect, hhits, hstrike]
      · simp [actEffect, hkills, hstrike]

/-! ## Effects that keep a state sound -/

omit [SquareRoot K] [Field K] [LinearOrder K] [FloorRing K] in
/-- The objects that pointers designate stay where they are. -/
theorem Designates.apply {st : State K} {E : Effect K}
    (ht : ∀ p, ∀ t ∈ (st.towerManagers p).allocatedTowers, t.Worn (E.tower p t)) {p : PlayerId}
    {ptr : ActorPtr} (h : st.Designates p ptr) : (st.apply E).Designates p ptr := by
  cases ptr with
  | soldier q i => exact ⟨h.1, by rw [length_soldiers_apply]; exact h.2⟩
  | tower q id =>
    obtain ⟨hq, t, htm, hid⟩ := h
    refine ⟨hq, E.tower q t, ?_, (ht q t htm).id.trans hid⟩
    rw [towerManagers_apply, TowerManager.allocatedTowers_mapTowers]
    exact List.mem_map_of_mem htm

omit [SquareRoot K] in
/-- **What has to be shown of an effect**: soldiers stay sound and take no new
target, towers only lose hp, and the reward tables stay. -/
theorem Sound.apply {c : Constants K} {st : State K} (h : st.Sound c) {E : Effect K}
    (hs : ∀ p (i : ℕ) s, (st.soldiers p)[i]? = some s → (E.soldier p i s).Sound c p i ∧
      ∀ ptr, (E.soldier p i s).attackTarget = some ptr → s.attackTarget = some ptr)
    (ht : ∀ p, ∀ t ∈ (st.towerManagers p).allocatedTowers, t.Worn (E.tower p t))
    (hm : (E.money st.moneyManager).HasTables c) : (st.apply E).Sound c := by
  constructor
  · exact fun p => (length_soldiers_apply st E p).trans (h.length_soldiers p)
  · intro p i s' hs'
    obtain ⟨s, hsome, rfl⟩ := Option.map_eq_some_iff.mp ((getElem?_apply st E p i).symm.trans hs')
    exact (hs p i s hsome).1
  · intro p i s' ptr hs' hptr
    obtain ⟨s, hsome, rfl⟩ := Option.map_eq_some_iff.mp ((getElem?_apply st E p i).symm.trans hs')
    exact (h.target p i s ptr hsome ((hs p i s hsome).2 ptr hptr)).apply ht
  · exact fun p => (h.manager p).mapTowers (ht p)
  · intro p t htm u hum
    rw [towerManagers_apply, TowerManager.allocatedTowers_mapTowers, List.mem_map] at htm hum
    obtain ⟨t, htm, rfl⟩ := htm
    obtain ⟨u, hum, rfl⟩ := hum
    rw [(ht p t htm).id, (ht _ u hum).id]
    exact h.disjoint p t htm u hum
  · exact hm
  · exact h.size
  · exact h.elementSize
  · exact fun p => (h.painted p).map
      (fun t htm => ht p t (TowerManager.mem_allocatedTowers_of_mem htm)) rfl rfl rfl

/-- The objects a soldier may have as its target after an update: living soldiers
and listed towers. -/
def Lists (st : State K) : ActorPtr → Prop
  | .soldier q i => ∃ s, (st.soldiers q)[i]? = some s ∧ s.hp ≠ 0
  | .tower q id => ∃ t ∈ st.towers q, t.id = id

omit [FloorRing K] in
/-- The target of a soldier after its update is one it has kept. -/
theorem attackTarget_next {c : Constants K} {s : Soldier K}
    (h : s.Orderly c) {target : Option (Actor K)} (htarget : target = none ↔ s.attackTarget = none)
    {ptr : ActorPtr} (hptr : (s.next c target).attackTarget = some ptr) :
    s.attackTarget = some ptr ∧ s.hp ≠ 0 ∧ ∃ a, target = some a ∧ a.latestHp ≠ 0 := by
  by_cases hhp : s.hp = 0
  · obtain ⟨n, hn⟩ := h.exists_dead hhp
    rw [Soldier.next_of_dead hn] at hptr
    split at hptr
    · simp [Soldier.respawned, Soldier.makeInvulnerable] at hptr
    · simp [(h.dead_quiet hhp).1] at hptr
  · rw [Soldier.next_of_alive (h.state_ne_dead hhp)] at hptr
    split at hptr
    · rename_i hdest
      have hnone := h.one_order hdest
      split at hptr
      · simp [hnone] at hptr
      · simp [Soldier.stepTowards, Soldier.setNewPosition, hnone] at hptr
    · cases target with
      | none => simp [htarget.mp rfl] at hptr
      | some a =>
        dsimp only at hptr
        split at hptr
        · simp at hptr
        · rename_i hlatest
          refine ⟨?_, hhp, a, rfl, hlatest⟩
          split at hptr
          · exact hptr
          · exact hptr

omit [FloorRing K] in
theorem hp_next (c : Constants K) (s : Soldier K) (target : Option (Actor K)) :
    (s.next c target).hp = s.hp ∨ (s.next c target).hp = s.maxHp := by
  cases hstate : s.state with
  | dead n =>
    rw [Soldier.next_of_dead hstate]
    split
    · exact .inr rfl
    · exact .inl rfl
  | idle | move | attack | pursuit =>
    rw [Soldier.next_of_alive (by rw [hstate]; rfl)]
    left
    split
    · split <;> rfl
    · cases target with
      | none => rfl
      | some a =>
        dsimp only
        split
        · rfl
        · split <;> rfl

omit [Field K] [LinearOrder K] [FloorRing K] [SquareRoot K] in
/-- What the update of a soldier finds behind its pointer, by its frame. -/
theorem targetOf_eq {st : State K} {p : PlayerId} {i : ℕ} {s : Soldier K}
    (hs : (st.soldiers p)[i]? = some s) : st.targetOf p i = (st.frameOf s).target := by
  simp [targetOf, frameOf, hs]

theorem Sound.hits_nonneg {r : Ruleset K} {st : State K} (h : st.Sound r.toConstants)
    {p : PlayerId} {i : ℕ} {ptr : ActorPtr} {d : ℤ} (hd : st.hits p i ptr = some d) : 0 ≤ d := by
  obtain ⟨s, -, hs, -, -, -, rfl⟩ := exists_of_hits hd
  rw [(h.soldier p i s hs).attackDamage_eq]
  exact r.soldierAttackDamage_nonneg

theorem Sound.hits_opponent {c : Constants K} {st : State K} (h : st.Sound c)
    {p : PlayerId} {i : ℕ} {ptr : ActorPtr} {d : ℤ} (hd : st.hits p i ptr = some d) :
    st.Designates p ptr := by
  obtain ⟨s, -, hs, hptr, -⟩ := exists_of_hits hd
  exact h.target p i s ptr hs hptr

theorem Sound.playerId_of_kills {c : Constants K} {st : State K} (h : st.Sound c) {p : PlayerId}
    {i : ℕ} {a : Actor K} (ha : st.kills p i = some a) : a.playerId = p.opponent := by
  obtain ⟨s, ptr, b, hs, hptr, hderef, -, rfl, -⟩ := exists_of_kills ha
  have hplayer : (b.damage s.attackDamage).playerId = b.playerId := by cases b <;> rfl
  rw [hplayer, h.playerId_of_deref (h.target p i s ptr hs hptr) hderef]

theorem Sound.hits_self {c : Constants K} {st : State K} (h : st.Sound c) (p : PlayerId) (i j : ℕ) :
    st.hits p i (.soldier p j) = none := by
  cases hd : st.hits p i (.soldier p j) with
  | none => rfl
  | some d => exact absurd (h.hits_opponent hd).1 (PlayerId.ne_opponent p)

theorem Sound.tower_actEffect_self {c : Constants K} {st : State K} (h : st.Sound c) (p : PlayerId)
    (i : ℕ) (t : Tower K) : (st.actEffect c p i).tower p t = t := by
  have hnone : st.hits p i (.tower p t.id) = none := by
    cases hd : st.hits p i (.tower p t.id) with
    | none => rfl
    | some d => exact absurd (h.hits_opponent hd).1 (PlayerId.ne_opponent p)
  rw [tower_actEffect, hnone, Option.elim_none]

theorem Sound.worn_actEffect {r : Ruleset K} {st : State K} (h : st.Sound r.toConstants)
    (p : PlayerId) (i : ℕ) (q : PlayerId) (t : Tower K) :
    t.Worn ((st.actEffect r.toConstants p i).tower q t) := by
  rw [tower_actEffect]
  cases hd : st.hits p i (.tower q t.id) with
  | none => exact Tower.Worn.refl t
  | some d => exact t.worn_damage (h.hits_nonneg hd)

theorem Sound.attackTarget_actEffect {r : Ruleset K} {st : State K} (h : st.Sound r.toConstants)
    (p : PlayerId) (i : ℕ) {q : PlayerId} {k : ℕ} {u : Soldier K}
    (hu : (st.soldiers q)[k]? = some u) {ptr : ActorPtr}
    (hptr : ((st.actEffect r.toConstants p i).soldier q k u).attackTarget = some ptr) :
    u.attackTarget = some ptr := by
  rw [soldier_actEffect] at hptr
  by_cases hqk : q = p ∧ k = i
  · obtain ⟨rfl, rfl⟩ := hqk
    rw [h.hits_self, targetOf_eq hu] at hptr
    exact (attackTarget_next (h.soldier q k u hu).orderly (h.ready hu).target_iff
      (by simpa using hptr)).1
  · simp only [if_neg hqk] at hptr
    cases hd : st.hits p i (.soldier q k) with
    | none => simpa [hd] using hptr
    | some d => simpa [hd, Soldier.damage] using hptr

/-- **A round of the first phase keeps the state sound.** -/
theorem Sound.actEffect {r : Ruleset K} {st : State K} (h : st.Sound r.toConstants) (p : PlayerId)
    (i : ℕ) : (st.apply (st.actEffect r.toConstants p i)).Sound r.toConstants := by
  refine h.apply (fun q k u hu => ⟨?_, fun ptr => h.attackTarget_actEffect p i hu⟩) ?_ ?_
  · have hsound := h.soldier q k u hu
    rw [soldier_actEffect]
    by_cases hqk : q = p ∧ k = i
    · obtain ⟨rfl, rfl⟩ := hqk
      rw [h.hits_self, targetOf_eq hu]
      simp only [and_self, if_true]
      exact (hsound.next r.soldierMaxHp_pos (h.ready hu).target_iff).1
    · simp only [if_neg hqk]
      cases hd : st.hits p i (.soldier q k) with
      | none => exact hsound
      | some d => exact hsound.damage (h.hits_nonneg hd)
  · exact fun q t _ => h.worn_actEffect p i q t
  · rw [money_actEffect]
    cases st.kills p i with
    | none => exact h.tables
    | some a => exact ⟨h.tables.towerKill, h.tables.soldierKill, h.tables.towerSuicide⟩

/-! ## The whole first phase -/

/-- The soldiers of both players, in the order the loops visit them. -/
def roster (c : Constants K) (order : List PlayerId) : List (PlayerId × ℕ) :=
  order.flatMap fun p => (List.range c.numSoldiers).map fun i => (p, i)

/-- The first phase, over any list of soldiers. -/
def actAll (c : Constants K) (l : List (PlayerId × ℕ)) (st : State K) : State K :=
  l.foldl (fun st x => st.apply (st.actEffect c x.1 x.2)) st

omit [Field K] [LinearOrder K] [FloorRing K] [SquareRoot K] in
theorem mem_roster {c : Constants K} {order : List PlayerId} {x : PlayerId × ℕ} :
    x ∈ roster c order ↔ x.1 ∈ order ∧ x.2 < c.numSoldiers := by
  obtain ⟨p, i⟩ := x
  simp only [roster, List.mem_flatMap, List.mem_map, List.mem_range, Prod.mk.injEq]
  constructor
  · rintro ⟨q, hq, k, hk, rfl, rfl⟩
    exact ⟨hq, hk⟩
  · rintro ⟨hp, hi⟩
    exact ⟨p, hp, i, hi, rfl, rfl⟩

omit [Field K] [LinearOrder K] [FloorRing K] [SquareRoot K] in
/-- Each of two loops over soldiers, one per player, is one loop over the roster. -/
theorem foldlM_forSoldiers {c : Constants K} {method : Frame K → Except Fault (Frame K)}
    {g : State K → PlayerId × ℕ → State K} {I : State K → Prop}
    (hlength : ∀ st, I st → ∀ p, (st.soldiers p).length = c.numSoldiers)
    (hmethod : ∀ st, I st → ∀ p i, i < c.numSoldiers →
      runSoldier method p st i = .ok (g st (p, i)))
    (hg : ∀ st, I st → ∀ x : PlayerId × ℕ, x.2 < c.numSoldiers → I (g st x))
    (order : List PlayerId) {st : State K} (hst : I st) :
    order.foldlM (forSoldiers method) st = .ok ((roster c order).foldl g st) := by
  induction order generalizing st with
  | nil => rfl
  | cons p order ih =>
    have hinner : forSoldiers method st p =
        .ok ((List.range c.numSoldiers).foldl (fun st i => g st (p, i)) st) := by
      rw [forSoldiers, hlength st hst p]
      exact foldlM_eq_foldl (I := I)
        (fun st hI i hi => hmethod st hI p i (List.mem_range.mp hi))
        (fun st hI i hi => hg st hI (p, i) (List.mem_range.mp hi)) hst
    have hI : I ((List.range c.numSoldiers).foldl (fun st i => g st (p, i)) st) :=
      foldl_invariant (fun st hI i hi => hg st hI (p, i) (List.mem_range.mp hi)) hst
    rw [List.foldlM_cons, hinner, ok_bind, ih hI]
    simp [roster, List.foldl_map]

/-- **The first phase** succeeds from a sound state. -/
theorem Sound.foldlM_update {r : Ruleset K} {st : State K} (h : st.Sound r.toConstants)
    (order : List PlayerId) :
    order.foldlM (forSoldiers (Soldier.update r.toConstants)) st =
      .ok (actAll r.toConstants (roster r.toConstants order) st) :=
  foldlM_forSoldiers (I := fun st : State K => st.Sound r.toConstants)
    (fun _ h => h.length_soldiers)
    (fun _ h p _ hi => runSoldier_update h (by rw [h.length_soldiers p]; exact hi))
    (fun _ h x _ => h.actEffect x.1 x.2) order h

theorem Sound.actAll {r : Ruleset K} {st : State K} (h : st.Sound r.toConstants)
    (l : List (PlayerId × ℕ)) : (st.actAll r.toConstants l).Sound r.toConstants :=
  foldl_invariant (I := fun st : State K => st.Sound r.toConstants)
    (fun _ h x _ => h.actEffect x.1 x.2) h

/-- **What the updates of the soldiers keep**: what each of them keeps of a sound
state. -/
theorem Sound.actAll_invariant {r : Ruleset K} {st : State K} (h : st.Sound r.toConstants)
    {I : State K → Prop} {l : List (PlayerId × ℕ)} (hI : I st)
    (hstep : ∀ st : State K, st.Sound r.toConstants → I st → ∀ x ∈ l,
      I (st.apply (st.actEffect r.toConstants x.1 x.2))) : I (st.actAll r.toConstants l) :=
  (foldl_invariant (I := fun st : State K => st.Sound r.toConstants ∧ I st)
    (fun st hst x hx => ⟨hst.1.actEffect x.1 x.2, hstep st hst.1 hst.2 x hx⟩) ⟨h, hI⟩).2

/-- A soldier whose update is over: its orders agree with its state, and its target
is a living soldier or a listed tower. -/
def Engaged (st : State K) (x : PlayerId × ℕ) : Prop :=
  ∀ s, (st.soldiers x.1)[x.2]? = some s →
    s.Settled ∧ ∀ ptr, s.attackTarget = some ptr → st.Lists ptr

/-- What a target pointer may keep pointing to is kept by a round. -/
theorem Lists.actEffect {r : Ruleset K} {st : State K} (h : st.Sound r.toConstants) {p : PlayerId}
    {i : ℕ} {ptr : ActorPtr} (hptr : st.Lists ptr) :
    (st.apply (st.actEffect r.toConstants p i)).Lists ptr := by
  cases ptr with
  | soldier q k =>
    obtain ⟨u, hu, hhp⟩ := hptr
    refine ⟨_, by rw [getElem?_apply, hu]; rfl, ?_⟩
    have hmax : u.maxHp ≠ 0 := (h.soldier q k u hu).maxHp_eq ▸ r.soldierMaxHp_pos.ne'
    have hnext : ∀ u' : Soldier K, u'.hp = u.hp → u'.maxHp = u.maxHp →
        (u'.next r.toConstants (st.targetOf p i)).hp ≠ 0 := fun u' h₁ h₂ => by
      rcases hp_next r.toConstants u' (st.targetOf p i) with h' | h'
      · rw [h', h₁]
        exact hhp
      · rw [h', h₂]
        exact hmax
    rw [soldier_actEffect]
    cases st.hits p i (.soldier q k) with
    | none =>
      by_cases hqk : q = p ∧ k = i
      · simpa only [if_pos hqk, Option.elim_none] using hnext u rfl rfl
      · simpa only [if_neg hqk, Option.elim_none] using hhp
    | some d =>
      by_cases hqk : q = p ∧ k = i
      · simpa only [if_pos hqk, Option.elim_some] using hnext (u.damage d) rfl rfl
      · rw [if_neg hqk]
        exact hhp
  | tower q id =>
    obtain ⟨t, ht, hid⟩ := hptr
    refine ⟨(st.actEffect r.toConstants p i).tower q t, List.mem_map_of_mem ht, ?_⟩
    rw [tower_actEffect]
    cases st.hits p i (.tower q t.id) <;> exact hid

omit [SquareRoot K] in
theorem Sound.lists_of_deref {c : Constants K} {st : State K} (h : st.Sound c) {ptr : ActorPtr}
    {a : Actor K} (ha : st.deref ptr = some a) (halive : a.latestHp ≠ 0) : st.Lists ptr := by
  cases ptr with
  | soldier q k =>
    obtain ⟨u, hu, rfl⟩ := Option.map_eq_some_iff.mp ha
    refine ⟨u, hu, fun h0 => halive ?_⟩
    have hsound := h.soldier q k u hu
    have := hsound.damage_le
    have := hsound.damage_nonneg
    change u.hp - u.damageIncurred = 0
    omega
  | tower q id =>
    obtain ⟨t, ht, hid, rfl⟩ := h.deref_tower.mp ha
    exact ⟨t, (h.manager q).listed_of_alive ht halive, hid⟩

/-- A round leaves its soldier engaged. -/
theorem Sound.engaged_actEffect {r : Ruleset K} {st : State K} (h : st.Sound r.toConstants)
    (x : PlayerId × ℕ) : (st.apply (st.actEffect r.toConstants x.1 x.2)).Engaged x := by
  obtain ⟨p, i⟩ := x
  intro s' hs'
  obtain ⟨s, hs, rfl⟩ := Option.map_eq_some_iff.mp ((getElem?_apply st _ p i).symm.trans hs')
  have hsound := h.soldier p i s hs
  have hready := (h.ready hs).target_iff
  have hself : (st.actEffect r.toConstants p i).soldier p i s =
      s.next r.toConstants (st.frameOf s).target := by
    rw [soldier_actEffect, h.hits_self, targetOf_eq hs]
    simp
  rw [hself]
  refine ⟨(hsound.next r.soldierMaxHp_pos hready).2, ?_⟩
  intro ptr hptr
  obtain ⟨hptr, -, a, ha, halive⟩ := attackTarget_next hsound.orderly hready hptr
  simp only [frameOf, hptr, Option.bind_some] at ha
  exact (h.lists_of_deref ha halive).actEffect h

/-- A round leaves the others engaged that were. -/
theorem Engaged.actEffect {r : Ruleset K} {st : State K} (h : st.Sound r.toConstants)
    (x : PlayerId × ℕ) {y : PlayerId × ℕ} (hy : st.Engaged y) :
    (st.apply (st.actEffect r.toConstants x.1 x.2)).Engaged y := by
  by_cases hxy : y = x
  · exact hxy ▸ h.engaged_actEffect y
  · intro s' hs'
    obtain ⟨s, hs, rfl⟩ :=
      Option.map_eq_some_iff.mp ((getElem?_apply st _ y.1 y.2).symm.trans hs')
    obtain ⟨hsettled, hlists⟩ := hy s hs
    have hne : ¬ (y.1 = x.1 ∧ y.2 = x.2) := fun heq => hxy (Prod.ext heq.1 heq.2)
    rw [soldier_actEffect]
    simp only [if_neg hne]
    cases st.hits x.1 x.2 (.soldier y.1 y.2) with
    | none => exact ⟨hsettled, fun ptr hptr => (hlists ptr hptr).actEffect h⟩
    | some d => exact ⟨hsettled.damage d, fun ptr hptr => (hlists ptr hptr).actEffect h⟩

/-- **After the first phase every soldier is engaged**: its target, if it has one,
is a living soldier or a listed tower. -/
theorem Sound.engaged_actAll {r : Ruleset K} {st : State K} (h : st.Sound r.toConstants)
    {l : List (PlayerId × ℕ)} {x : PlayerId × ℕ} (hx : x ∈ l) :
    (st.actAll r.toConstants l).Engaged x :=
  foldl_establishes (I := fun st : State K => st.Sound r.toConstants)
    (Q := fun x (st : State K) => st.Engaged x)
    (fun _ h y _ => h.actEffect y.1 y.2) (fun _ h y _ => h.engaged_actEffect y)
    (fun _ h y _ _ hz => hz.actEffect h y) h x hx

/-- The second state is the first after some hits and with other soldiers: the same
towers with less hp, the same map and the same requests. -/
structure Fought (st st' : State K) : Prop where
  manager : ∀ p, ∃ g : Tower K → Tower K,
    (∀ t ∈ (st.towerManagers p).allocatedTowers, t.Worn (g t)) ∧
    st'.towerManagers p = (st.towerManagers p).mapTowers g
  map : st'.map = st.map
  actorIdIncrement : st'.actorIdIncrement = st.actorIdIncrement

omit [Field K] [LinearOrder K] [FloorRing K] [SquareRoot K] in
theorem Fought.refl (st : State K) : st.Fought st :=
  ⟨fun _ => ⟨fun t => t, fun t _ => Tower.Worn.refl t,
    (TowerManager.mapTowers_id _).symm⟩, rfl, rfl⟩

omit [Field K] [LinearOrder K] [FloorRing K] [SquareRoot K] in
theorem Fought.trans {st₁ st₂ st₃ : State K} (h : st₁.Fought st₂) (h' : st₂.Fought st₃) :
    st₁.Fought st₃ where
  manager := fun p => by
    obtain ⟨g, hg, hm⟩ := h.manager p
    obtain ⟨g', hg', hm'⟩ := h'.manager p
    refine ⟨g' ∘ g, fun t ht => (hg t ht).trans (hg' (g t) ?_), ?_⟩
    · rw [hm, TowerManager.allocatedTowers_mapTowers]
      exact List.mem_map_of_mem ht
    · rw [hm', hm, TowerManager.mapTowers_mapTowers]
  map := h'.map.trans h.map
  actorIdIncrement := h'.actorIdIncrement.trans h.actorIdIncrement

theorem Sound.fought_actAll {r : Ruleset K} {st : State K} (h : st.Sound r.toConstants)
    (l : List (PlayerId × ℕ)) : st.Fought (st.actAll r.toConstants l) :=
  h.actAll_invariant (Fought.refl st) fun _ h' hfought x _ => hfought.trans
    ⟨fun q => ⟨_, fun t _ => h'.worn_actEffect x.1 x.2 q t, rfl⟩, rfl, rfl⟩

/-! ## The second phase -/

/-- The effect of a late update. -/
def finishEffect (c : Constants K) (x : PlayerId × ℕ) : Effect K where
  soldier q k u := if q = x.1 ∧ k = x.2 then u.finish c else u
  tower _ t := t
  money m := m

/-- The second phase, over any list of soldiers. -/
def finishAll (c : Constants K) (l : List (PlayerId × ℕ)) (st : State K) : State K :=
  l.foldl (fun st x => st.apply (finishEffect c x)) st

/-- **A round of the second phase** touches one soldier. -/
theorem runSoldier_lateUpdate {r : Ruleset K} {st : State K} (h : st.Sound r.toConstants)
    {p : PlayerId} {i : ℕ} (hi : i < (st.soldiers p).length)
    (hsettled : ∀ s, (st.soldiers p)[i]? = some s → s.Settled) :
    runSoldier (Soldier.lateUpdate r.toConstants) p st i =
      .ok (st.apply (finishEffect r.toConstants (p, i))) := by
  obtain ⟨s, hs⟩ : ∃ s, (st.soldiers p)[i]? = some s := ⟨_, List.getElem?_eq_getElem hi⟩
  have hat : vectorAt (st.soldiers p) (i : ℤ) = .ok s := vectorAt_of_getElem? hs
  have hrun := Soldier.lateUpdate_eq (f := st.frameOf s) (h.soldier p i s hs).orderly
    (hsettled s hs)
    r.soldierTotalTurnsToRespawn_pos
  rw [frameOf] at hrun
  simp only [runSoldier, hat, ok_bind, hrun, pure_eq_ok, Except.ok.injEq]
  have hfinish : st.setSoldier p i (s.finish r.toConstants) =
      st.apply (finishEffect r.toConstants (p, i)) := by
    rw [setSoldier_eq_apply]
    refine apply_congr ?_ (fun _ _ _ => rfl) rfl
    intro q k u hu
    by_cases hqk : q = p ∧ k = i
    · obtain ⟨rfl, rfl⟩ := hqk
      simp [finishEffect, Option.some.inj (hu.symm.trans hs)]
    · simp [finishEffect, hqk]
  cases hptr : s.attackTarget with
  | none => exact hfinish
  | some ptr =>
    obtain ⟨a, ha⟩ := h.deref_of_designates (h.target p i s ptr hs hptr)
    simp only [Option.bind_some, ha]
    rw [setActor_self (fun q => (h.manager q).nodup) ha]
    exact hfinish

/-- Every soldier's orders agree with its state. -/
def AllSettled (st : State K) : Prop :=
  ∀ p (i : ℕ) s, (st.soldiers p)[i]? = some s → s.Settled

omit [SquareRoot K] in
/-- **A round of the second phase keeps the state sound.** -/
theorem Sound.finishEffect {r : Ruleset K} {st : State K} (h : st.Sound r.toConstants)
    (hs : st.AllSettled) (x : PlayerId × ℕ) :
    (st.apply (finishEffect r.toConstants x)).Sound r.toConstants ∧
      (st.apply (State.finishEffect r.toConstants x)).AllSettled := by
  have hround : ∀ q (k : ℕ) u, (st.soldiers q)[k]? = some u →
      ((State.finishEffect r.toConstants x).soldier q k u).Sound r.toConstants q k ∧
        ((State.finishEffect r.toConstants x).soldier q k u).Settled := by
    intro q k u hu
    change (if q = x.1 ∧ k = x.2 then u.finish r.toConstants else u).Sound r.toConstants q k ∧
      (if q = x.1 ∧ k = x.2 then u.finish r.toConstants else u).Settled
    split
    · exact (h.soldier q k u hu).finish (hs q k u hu) r.soldierTotalTurnsToRespawn_pos
    · exact ⟨h.soldier q k u hu, hs q k u hu⟩
  refine ⟨h.apply (fun q k u hu => ⟨(hround q k u hu).1, ?_⟩)
    (fun _ t _ => Tower.Worn.refl t) h.tables, ?_⟩
  · intro ptr hptr
    change (if q = x.1 ∧ k = x.2 then u.finish r.toConstants else u).attackTarget = some ptr at hptr
    split at hptr
    · unfold Soldier.finish at hptr
      split at hptr
      · simp at hptr
      · exact hptr
    · exact hptr
  · intro q k u' hu'
    obtain ⟨u, hu, rfl⟩ := Option.map_eq_some_iff.mp ((getElem?_apply st _ q k).symm.trans hu')
    exact (hround q k u hu).2

/-- **The second phase** succeeds from a sound and settled state. -/
theorem Sound.foldlM_lateUpdate {r : Ruleset K} {st : State K} (h : st.Sound r.toConstants)
    (hs : st.AllSettled) (order : List PlayerId) :
    order.foldlM (forSoldiers (Soldier.lateUpdate r.toConstants)) st =
      .ok (finishAll r.toConstants (roster r.toConstants order) st) :=
  foldlM_forSoldiers (I := fun st : State K => st.Sound r.toConstants ∧ st.AllSettled)
    (fun _ h => h.1.length_soldiers)
    (fun _ h p i hi => runSoldier_lateUpdate h.1 (by rw [h.1.length_soldiers p]; exact hi)
      fun s hs => h.2 p i s hs)
    (fun _ h x _ => h.1.finishEffect h.2 x) order ⟨h, hs⟩

omit [SquareRoot K] in
theorem Sound.finishAll {r : Ruleset K} {st : State K} (h : st.Sound r.toConstants)
    (hs : st.AllSettled) (l : List (PlayerId × ℕ)) :
    (st.finishAll r.toConstants l).Sound r.toConstants ∧
      (st.finishAll r.toConstants l).AllSettled :=
  foldl_invariant (I := fun st : State K => st.Sound r.toConstants ∧ st.AllSettled)
    (fun _ h x _ => h.1.finishEffect h.2 x) ⟨h, hs⟩

omit [Field K] [LinearOrder K] [FloorRing K] [SquareRoot K] in
/-- The second phase as one effect: every soldier of the list is finished, and
nothing else happens. -/
theorem finishAll_eq (c : Constants K) {l : List (PlayerId × ℕ)} (hl : l.Nodup) (st : State K) :
    st.finishAll c l = st.apply
      { soldier := fun q k u => if (q, k) ∈ l then u.finish c else u
        tower := fun _ t => t
        money := fun m => m } := by
  induction l generalizing st with
  | nil => simp [State.finishAll, apply, List.mapIdx_eq_zipIdx_map]
  | cons x l ih =>
    obtain ⟨hx, hl⟩ := List.nodup_cons.mp hl
    change (st.apply (State.finishEffect c x)).finishAll c l = _
    rw [ih hl, apply_apply]
    refine apply_congr ?_ (fun _ _ _ => rfl) rfl
    intro q k u _
    by_cases hqk : (q, k) = x
    · subst hqk
      simp [State.finishEffect, hx]
    · have hne : ¬ (q = x.1 ∧ k = x.2) := fun h => hqk (Prod.ext h.1 h.2)
      simp [State.finishEffect, hqk, hne]

omit [Field K] [LinearOrder K] [FloorRing K] [SquareRoot K] in
theorem getElem?_finishAll (c : Constants K) {l : List (PlayerId × ℕ)} (hl : l.Nodup)
    (st : State K) (p : PlayerId) (i : ℕ) : ((st.finishAll c l).soldiers p)[i]? =
      (st.soldiers p)[i]?.map fun s => if (p, i) ∈ l then s.finish c else s := by
  rw [finishAll_eq c hl, getElem?_apply]

omit [Field K] [LinearOrder K] [FloorRing K] [SquareRoot K] in
theorem towerManagers_finishAll (c : Constants K) {l : List (PlayerId × ℕ)} (hl : l.Nodup)
    (st : State K) : (st.finishAll c l).towerManagers = st.towerManagers := by
  ext p
  rw [finishAll_eq c hl, towerManagers_apply, TowerManager.mapTowers_id]

omit [Field K] [LinearOrder K] [FloorRing K] [SquareRoot K] in
theorem moneyManager_finishAll (c : Constants K) {l : List (PlayerId × ℕ)} (hl : l.Nodup)
    (st : State K) : (st.finishAll c l).moneyManager = st.moneyManager := by
  rw [finishAll_eq c hl, moneyManager_apply]

omit [Field K] [LinearOrder K] [FloorRing K] [SquareRoot K] in
theorem actorIdIncrement_finishAll (c : Constants K) {l : List (PlayerId × ℕ)} (hl : l.Nodup)
    (st : State K) : (st.finishAll c l).actorIdIncrement = st.actorIdIncrement := by
  rw [finishAll_eq c hl, actorIdIncrement_apply]

omit [Field K] [LinearOrder K] [FloorRing K] [SquareRoot K] in
theorem nodup_roster (c : Constants K) {order : List PlayerId} (h : order.Nodup) :
    (roster c order).Nodup := by
  refine List.nodup_flatMap.mpr ⟨?_, h.imp ?_⟩
  · intro p _
    exact List.nodup_range.map fun i j hij => (Prod.mk.inj hij).2
  · intro p q hpq x hx hx'
    obtain ⟨i, -, rfl⟩ := List.mem_map.mp hx
    obtain ⟨j, -, hj⟩ := List.mem_map.mp hx'
    exact hpq (Prod.mk.inj hj).1.symm

/-- The two phases leave the towers where they are, with less hp. -/
theorem Sound.fought_finishAll {r : Ruleset K} {st : State K} (h : st.Sound r.toConstants)
    {l : List (PlayerId × ℕ)} (hl : l.Nodup) :
    st.Fought ((st.actAll r.toConstants l).finishAll r.toConstants l) := by
  rw [finishAll_eq _ hl]
  refine (h.fought_actAll l).trans
    ⟨fun p => ⟨fun t => t, fun t _ => Tower.Worn.refl t, ?_⟩, rfl, rfl⟩
  rfl

end State

end Simulator
