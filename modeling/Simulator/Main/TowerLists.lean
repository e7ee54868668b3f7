import Simulator.Main.TowerDeaths

/-!
# The shape of the tower lists

The base tower of a player heads its list with full hp in every game: no accepted
command attacks or demolishes a base, so no soldier targets one, and the towers'
phase keeps it where it is.  `State.Based` is the invariant, and
`Reachable.towerLists` puts it together with what sound and rested states say of the
two lists.

## The bases

Nothing in the tower manager treats a base differently from other towers.  What protects it are
two checks of `StateSyncer`, one for attacks and one for demolitions, and they protect it because
nothing else can harm it: hp is lost to soldiers that have the tower as their target, or to a
demolition.  So the invariant speaks of orders and requests as well as of the towers, and it goes
through the commands by what has been accepted (`sparesBases_playerVerdicts`) and through an
update by what has been ordered.  An upgrade of a base is allowed; it restores full hp.

## The lists

The list of a player is sorted by actor ids, as new towers are added at the end with ids that go
up and removals keep the order.  So the base, which is the oldest tower and is not removed, is the
first.  The lists of the two players have no id in common, and all ids are above those of the
soldiers, who have been numbered first.  That a list fits its array is due to a check in the
commands, which counts the requested builds along with the towers there are.
-/

namespace Simulator

open Foundation

variable {K : Type}

/-- The list begins with the base tower of player `p`, which has full hp, and has no
other base. -/
def BaseLeads (c : Constants K) (p : PlayerId) (towers : List (Tower K)) : Prop :=
  ∃ base rest, towers = base :: rest ∧
    base.id = 2 * c.numSoldiers + p.index ∧ base.playerId = p ∧ base.isBase = true ∧
    base.hp = base.maxHp ∧ ∀ t ∈ rest, t.isBase = false

namespace State

/-- The id is not that of a base tower of the player. -/
def SparesBases (st : State K) (p : PlayerId) (id : ℤ) : Prop :=
  ∀ t ∈ st.towers p, t.id = id → t.isBase = false

/-- The bases lead their lists, and neither an order nor a request is against one. -/
structure Based (c : Constants K) (st : State K) : Prop where
  leads : ∀ p, BaseLeads c p (st.towers p)
  orders : ∀ p (i : ℕ) s q id, (st.soldiers p)[i]? = some s →
    s.attackTarget = some (.tower q id) → st.SparesBases q id
  requests : ∀ p, ∀ id ∈ (st.towerManagers p).towersToSuicide, st.SparesBases p id

end State

/-! ## The commands -/

namespace StateSyncer

/-- The action is not against a base tower. -/
def ActionSparesBases (st : State K) (p : PlayerId) : Action K → Prop
  | .suicide id => st.SparesBases p id
  | .attack _ (.tower q id) => st.SparesBases q id
  | _ => True

theorem attackTowerVerdict_sparesBases {st : State K} {p : PlayerId} {l : Ledger} {towerId : ℤ}
    {i : ℕ} {a : Action K} (h : (attackTowerVerdict st p l towerId i).action = some a) :
    ActionSparesBases st p a := by
  unfold attackTowerVerdict at h
  split at h
  · simp [Verdict.refuse] at h
  · rename_i hbase
    split at h
    · simp [Verdict.refuse] at h
    · split at h
      · simp [Verdict.refuse] at h
      · obtain rfl := Option.some.inj h
        intro t ht hid
        by_contra hne
        exact hbase (List.any_eq_true.mpr ⟨t, ht, by simpa [hid] using hne⟩)

variable [Field K] [LinearOrder K] [FloorRing K]

/-- An accepted soldier command is not against a base tower. -/
theorem soldierSlotVerdict_sparesBases {c : Constants K} {st : State K} {p : PlayerId}
    {ps : PlayerState c} {l : Ledger} {i : ℕ} {a : Action K}
    (h : (soldierSlotVerdict st p ps l i).action = some a) : ActionSparesBases st p a := by
  obtain ⟨s, soldier, -, -, -, h | h | h⟩ := soldierSlotVerdict_cases h
  · exact attackTowerVerdict_sparesBases h
  · obtain ⟨u, -, -, rfl⟩ := attackSoldierVerdict_action h
    trivial
  · rw [(moveVerdict_action h).2]
    trivial

/-- **No accepted command is against a base tower.** -/
theorem sparesBases_playerVerdicts {c : Constants K} {st : State K} (h : st.Sound c)
    (ps : PlayerId → PlayerState c) (skip : PlayerId → Bool) (p : PlayerId) {v : Verdict K}
    (hv : v ∈ playerVerdicts st ps skip p) {a : Action K} (ha : v.action = some a) :
    ActionSparesBases st p a := by
  rcases List.mem_append.mp hv with hv | hv
  · -- a demolished tower is not a base, and no other tower has its id
    obtain ⟨-, l, i, rfl⟩ := exists_of_mem_firstVerdicts hv
    obtain ⟨t, ht, ⟨-, -, rfl⟩ | ⟨hbase, rfl⟩⟩ := towerSlotVerdict_action ha
    · trivial
    · intro u hu hid
      have ht' := TowerManager.mem_allocatedTowers_of_mem (List.mem_of_getElem? ht)
      rwa [(h.manager p).eq_of_id (TowerManager.mem_allocatedTowers_of_mem hu) ht' hid]
  · obtain ⟨-, l, ⟨i, rfl⟩ | ⟨o, rfl⟩⟩ := exists_of_mem_secondVerdicts hv
    · exact soldierSlotVerdict_sparesBases ha
    · obtain ⟨-, -, -, rfl⟩ := elementVerdict_action ha
      trivial

end StateSyncer

namespace State

theorem Based.carryOut {c : Constants K} {st : State K} (h : st.Based c) {p : PlayerId}
    {action : Option (Action K)}
    (ha : ∀ a, action = some a → StateSyncer.ActionSparesBases st p a) :
    (st.carryOut p action).Based c := by
  have hsame := sameButOrders_carryOut st p action
  have hspares : ∀ {q id}, st.SparesBases q id → (st.carryOut p action).SparesBases q id := by
    intro q id hid t ht
    rw [hsame.towers] at ht
    exact hid t ht
  refine ⟨?_, fun q i s q' id hs hptr => hspares ?_, fun q id hid => hspares ?_⟩
  · intro q
    rw [hsame.towers]
    exact h.leads q
  · rcases action with - | action
    · exact h.orders q i s q' id hs hptr
    · cases action with
      | upgrade | suicide | build => exact h.orders q i s q' id hs hptr
      | move k position =>
        simp only [State.carryOut, getElem?_modifySoldier, Option.map_eq_some_iff] at hs
        obtain ⟨u, hu, rfl⟩ := hs
        split at hptr
        · simp [Soldier.move] at hptr
        · exact h.orders q i u q' id hu hptr
      | attack k target =>
        simp only [State.carryOut, getElem?_modifySoldier, Option.map_eq_some_iff] at hs
        obtain ⟨u, hu, rfl⟩ := hs
        split at hptr
        · obtain rfl : target = .tower q' id := Option.some.inj hptr
          exact ha _ rfl
        · exact h.orders q i u q' id hu hptr
  · by_cases hq : q = p
    · subst hq
      rcases action with - | action
      · exact h.requests q id hid
      · cases action with
        | move | attack => exact h.requests q id hid
        | upgrade | build =>
          exact h.requests q id (by
            simpa [State.carryOut, State.upgradeTower, State.buildTower, setTowerManager,
              TowerManager.upgradeTower, TowerManager.buildTower] using hid)
        | suicide towerId =>
          simp only [State.carryOut, State.suicideTower, setTowerManager, Function.update_self,
            TowerManager.suicideTower, List.mem_append, List.mem_singleton] at hid
          rcases hid with hid | rfl
          · exact h.requests q id hid
          · exact ha _ rfl
    · refine h.requests q id ?_
      rcases action with - | action
      · exact hid
      · cases action with
        | move | attack => exact hid
        | upgrade | build | suicide =>
          simpa [State.carryOut, State.upgradeTower, State.buildTower, State.suicideTower,
            setTowerManager, hq] using hid

variable [Field K] [LinearOrder K] [FloorRing K]

theorem Based.carryOutAll {r : Ruleset K} {st : State K} (h : st.Based r.toConstants)
    (hst : st.Sound r.toConstants) (ps : PlayerId → PlayerState r.toConstants)
    (skip : PlayerId → Bool) (p : PlayerId) :
    (st.carryOutAll (StateSyncer.allVerdicts st ps skip p)).Based r.toConstants := by
  have hspares : ∀ x ∈ StateSyncer.allVerdicts st ps skip p, ∀ a, x.2.action = some a →
      StateSyncer.ActionSparesBases st x.1 a := fun x hx a ha =>
    StateSyncer.sparesBases_playerVerdicts hst ps skip x.1 (StateSyncer.mem_playerVerdicts hx) ha
  refine st.carryOutAll_invariant h fun st' hsame h' x hx => h'.carryOut ?_
  intro a ha
  have hsp := hspares x hx a ha
  cases a with
  | upgrade | move | build => trivial
  | suicide id =>
    intro t ht
    rw [hsame.towers] at ht
    exact hsp t ht
  | attack i target =>
    cases target with
    | soldier => trivial
    | tower q id =>
      intro t ht
      rw [hsame.towers] at ht
      exact hsp t ht

/-! ## The update -/

omit [Field K] [LinearOrder K] [FloorRing K] in
theorem hp_processed_of_full {r : Ruleset K} {p : PlayerId} {m : TowerManager K} {t : Tower K}
    (ht : t.Sound r.toConstants p) (hfull : t.hp = t.maxHp) (hsuicide : t.id ∉ m.towersToSuicide)
    (hupgrade : t.id ∈ m.towersToUpgrade → t.towerLevel ≠ r.towerBuildCosts.length) :
    (m.processed r.toConstants t).hp = (m.processed r.toConstants t).maxHp ∧
      (m.processed r.toConstants t).hp ≠ 0 := by
  by_cases hid : t.id ∈ m.towersToUpgrade
  · refine ⟨?_, hp_processed_of_upgraded ht (hupgrade hid) hid hsuicide⟩
    have hsuicide' : (TowerEnv.upgradedTower r.toConstants t).id ∉ m.towersToSuicide := hsuicide
    unfold TowerManager.processed
    simp only [hid, if_true, hsuicide', if_false]
    rfl
  · unfold TowerManager.processed
    simp only [hid, if_false, hsuicide]
    exact ⟨hfull, hfull ▸ (r.towerHps_pos _ (mem_of_vectorAt ht.maxHp_eq)).ne'⟩

omit [LinearOrder K] [FloorRing K] in
theorem TowersUpdated.exists_of_isBase {c : Constants K} {p : PlayerId} {st st' : State K}
    (h : st.TowersUpdated c p st') {t' : Tower K} (ht' : t' ∈ st'.towers p)
    (hbase : t'.isBase = true) : ∃ t ∈ st.towers p, t.id = t'.id ∧ t.isBase = true := by
  rw [State.towers, h.manager, List.mem_filter] at ht'
  obtain ⟨t, ht, rfl⟩ := List.mem_map.mp ht'.1
  rw [TowerManager.isBase_processed] at hbase
  rcases List.mem_append.mp ht with ht | ht
  · exact ⟨t, ht, (TowerManager.id_processed ..).symm, hbase⟩
  · obtain ⟨_, -, _, -, rfl⟩ := TowerEnv.mem_freshTowers ht
    cases hbase

/-- **The towers' phase of a player keeps the bases.** -/
theorem Based.towersUpdated {r : Ruleset K} {p : PlayerId} {st st' : State K}
    (h : st.Based r.toConstants) (hst : st.Sound r.toConstants)
    (hq : (st.towerManagers p).Queued r.toConstants (st.moneyManager.playerMoney p))
    (hu : st.TowersUpdated r.toConstants p st') : st'.Based r.toConstants := by
  have hspares : ∀ q id, st.SparesBases q id → st'.SparesBases q id := by
    intro q id hid t' ht' hid'
    by_cases hqp : q = p
    · subst hqp
      by_contra hne
      obtain ⟨t, ht, heq, hbase⟩ := hu.exists_of_isBase ht' (by simpa using hne)
      simp [hid t ht (heq.trans hid')] at hbase
    · rw [State.towers, hu.other q hqp] at ht'
      exact hid t' ht' hid'
  refine ⟨?_, ?_, ?_⟩
  · intro q
    by_cases hqp : q = p
    · subst hqp
      obtain ⟨base, rest, htowers, hid, hplayer, hbase, hfull, hrest⟩ := h.leads q
      have hmem : base ∈ st.towers q := htowers ▸ List.mem_cons_self ..
      have hallocated := TowerManager.mem_allocatedTowers_of_mem hmem
      have hsuicide : base.id ∉ (st.towerManagers q).towersToSuicide := fun hin => by
        simp [h.requests q _ hin base hmem rfl] at hbase
      have hupgrade : base.id ∈ (st.towerManagers q).towersToUpgrade →
          base.towerLevel ≠ r.towerBuildCosts.length := fun hin => by
        obtain ⟨t, ht, hteq, hlevel⟩ := hq.upgrades _ hin
        rwa [(hst.manager q).eq_of_id (TowerManager.mem_allocatedTowers_of_mem ht) hallocated
          hteq] at hlevel
      obtain ⟨hfull', halive⟩ := hp_processed_of_full ((hst.manager q).tower base hallocated) hfull
        hsuicide hupgrade
      refine ⟨(st.towerManagers q).processed r.toConstants base,
        ((rest ++ TowerEnv.freshTowers r.toConstants (st.towerManagers q).playerId
          st.map.elementSize st.actorIdIncrement (st.towerManagers q).towersToBuildOffsets).map
          ((st.towerManagers q).processed r.toConstants)).filter fun t => t.hp ≠ 0, ?_,
        by simpa using hid, by simpa using hplayer, by simpa using hbase, hfull', ?_⟩
      · rw [State.towers, hu.manager]
        simp only [workedTowers, TowerManager.worked]
        rw [show (st.towerManagers q).towers = base :: rest from htowers, List.cons_append,
          List.map_cons, List.filter_cons_of_pos (by simpa using halive)]
      · intro t' ht'
        obtain ⟨t, ht, rfl⟩ := List.mem_map.mp (List.mem_filter.mp ht').1
        rw [TowerManager.isBase_processed]
        rcases List.mem_append.mp ht with ht | ht
        · exact hrest t ht
        · obtain ⟨_, -, _, -, rfl⟩ := TowerEnv.mem_freshTowers ht
          rfl
    · rw [State.towers, hu.other q hqp]
      exact h.leads q
  · intro q i s q' id hs hptr
    rw [hu.soldiers] at hs
    exact hspares q' id (h.orders q i s q' id hs hptr)
  · intro q id hid
    by_cases hqp : q = p
    · subst hqp
      rw [hu.manager] at hid
      cases hid
    · rw [hu.other q hqp] at hid
      exact hspares q id (h.requests q id hid)

variable [SquareRoot K]

omit [FloorRing K] in
theorem Based.tower_actEffect {c : Constants K} {st : State K} (h : st.Based c) (p : PlayerId)
    (i : ℕ) {q : PlayerId} {t : Tower K} (ht : t ∈ st.towers q) (hbase : t.isBase = true) :
    (st.actEffect c p i).tower q t = t := by
  have hnone : st.hits p i (.tower q t.id) = none := by
    cases hd : st.hits p i (.tower q t.id) with
    | none => rfl
    | some d =>
      obtain ⟨s, -, hs, hptr, -⟩ := exists_of_hits hd
      simp [h.orders p i s q t.id hs hptr t ht rfl] at hbase
  rw [State.tower_actEffect, hnone, Option.elim_none]

/-- **The update of a soldier keeps the bases.** -/
theorem Based.actEffect {r : Ruleset K} {st : State K} (h : st.Based r.toConstants)
    (hst : st.Sound r.toConstants) (p : PlayerId) (i : ℕ) :
    (st.apply (st.actEffect r.toConstants p i)).Based r.toConstants := by
  have hspares : ∀ q id, st.SparesBases q id →
      (st.apply (st.actEffect r.toConstants p i)).SparesBases q id := by
    intro q id hid t' ht' hid'
    obtain ⟨t, ht, rfl⟩ := List.mem_map.mp ht'
    have hworn := hst.worn_actEffect p i q t
    rw [hworn.isBase]
    exact hid t ht (hworn.id ▸ hid')
  refine ⟨?_, ?_, ?_⟩
  · intro q
    obtain ⟨base, rest, htowers, hid, hplayer, hbase, hfull, hrest⟩ := h.leads q
    refine ⟨base, rest.map ((st.actEffect r.toConstants p i).tower q), ?_, hid, hplayer, hbase,
      hfull, ?_⟩
    · have hself := h.tower_actEffect p i (htowers ▸ List.mem_cons_self ..) hbase
      show (st.towers q).map ((st.actEffect r.toConstants p i).tower q) = _
      rw [htowers, List.map_cons, hself]
    · intro t' ht'
      obtain ⟨t, ht, rfl⟩ := List.mem_map.mp ht'
      rw [(hst.worn_actEffect p i q t).isBase]
      exact hrest t ht
  · intro q k s' q' id hs' hptr
    rw [getElem?_apply, Option.map_eq_some_iff] at hs'
    obtain ⟨s, hs, rfl⟩ := hs'
    exact hspares q' id (h.orders q k s q' id hs (hst.attackTarget_actEffect p i hs hptr))
  · intro q id hid
    exact hspares q id (h.requests q id hid)

theorem Based.actAll {r : Ruleset K} {st : State K} (h : st.Based r.toConstants)
    (hst : st.Sound r.toConstants) (l : List (PlayerId × ℕ)) :
    (st.actAll r.toConstants l).Based r.toConstants :=
  hst.actAll_invariant h fun _ hst h x _ => h.actEffect hst x.1 x.2

omit [Field K] [LinearOrder K] [FloorRing K] [SquareRoot K] in
theorem Based.finishAll {c : Constants K} {st : State K} (h : st.Based c)
    {l : List (PlayerId × ℕ)} (hl : l.Nodup) : (st.finishAll c l).Based c := by
  have hmanagers := towerManagers_finishAll c hl st
  have htowers : ∀ q, (st.finishAll c l).towers q = st.towers q := fun q => by
    rw [State.towers, hmanagers, State.towers]
  refine ⟨fun q => htowers q ▸ h.leads q, ?_, ?_⟩
  · intro q k s' q' id hs' hptr
    rw [getElem?_finishAll c hl, Option.map_eq_some_iff] at hs'
    obtain ⟨s, hs, rfl⟩ := hs'
    rw [SparesBases, htowers]
    refine h.orders q k s q' id hs ?_
    split at hptr
    · exact Soldier.attackTarget_of_finish hptr
    · exact hptr
  · intro q id hid
    rw [SparesBases, htowers]
    rw [hmanagers] at hid
    exact h.requests q id hid

/-- **The update keeps the bases.** -/
theorem Based.update [IsStrictOrderedRing K] {r : Ruleset K} {st st' : State K}
    (h : st.Based r.toConstants) (hst : st.Ready r)
    (hupdate : State.update r.toConstants st = .ok st') : st'.Based r.toConstants := by
  obtain ⟨st₁, st₂, -, hu₁, hu₂, hs₁, hs₂, hrun, -⟩ := hst.updateInOrder .player1
  have hqueued : (st₁.towerManagers .player2).Queued r.toConstants
      (st₁.moneyManager.playerMoney .player2) := by
    rw [hu₁.other .player2 (by decide), hu₁.money .player2 (by decide)]
    exact hst.queued .player2
  have h₁ := h.towersUpdated hst.sound (hst.queued .player1) hu₁
  have h₂ := h₁.towersUpdated hs₁ hqueued hu₂
  rw [← Except.ok.inj (hrun.symm.trans hupdate)]
  exact (h₂.actAll hs₂ _).finishAll (nodup_roster _ (by simp))

end State

/-! ## Every run -/

section Runs

variable [Field K] [LinearOrder K] [FloorRing K] [SquareRoot K] [IsStrictOrderedRing K]
  {r : Ruleset K} {st : State K}

/-- **The bases lead their lists in every reachable state.** -/
theorem Reachable.based (h : Reachable r st) : st.Based r.toConstants := by
  obtain ⟨past, hgame⟩ := h
  induction hgame with
  | start h =>
    obtain ⟨st, hst, hrested, htowers, -⟩ := exists_buildState r
    obtain rfl := Except.ok.inj (hst.symm.trans h)
    refine ⟨fun p => ⟨_, [], htowers p, rfl, rfl, rfl, rfl, nofun⟩, ?_, ?_⟩
    · intro p i s q id hs hptr
      rw [soldiers_of_buildState h] at hs
      rw [getElem?_buildSoldiers hs] at hptr
      cases hptr
    · intro p id hid
      rw [hrested.suicidesDone] at hid
      cases hid
  | @turn past t hgame ht ih =>
    have hrested := hgame.rested
    obtain ⟨input, hstate, hupdate⟩ := ht.carriedOut hrested
    refine State.Based.update ?_ (ht.ready hrested).1 hupdate
    rw [hstate]
    exact ih.carryOutAll hrested.sound _ _ _

/-- **The shape of the tower lists** in every reachable state: each fits its array,
begins with the base tower at full hp and has no other, and is sorted by actor ids,
which are above those of all soldiers and none of which the other list has; and the
level and the hp of every tower are in range. -/
theorem Reachable.towerLists (h : Reachable r st) (p : PlayerId) :
    (st.towers p).length ≤ r.maxNumTowers ∧ BaseLeads r.toConstants p (st.towers p) ∧
    (st.towers p).Pairwise (fun t u => t.id < u.id) ∧
    (∀ t ∈ st.towers p, ∀ u ∈ st.towers p.opponent, t.id ≠ u.id) ∧
    (∀ t ∈ st.towers p, ∀ q, ∀ s ∈ st.soldiers q, s.id < t.id) ∧
    ∀ t ∈ st.towers p, 1 ≤ t.towerLevel ∧ t.towerLevel ≤ r.towerBuildCosts.length ∧
      0 ≤ t.hp ∧ t.hp ≤ t.maxHp ∧ vectorAt r.towerHps (t.towerLevel - 1) = .ok t.maxHp := by
  have hrested := h.rested
  have hsound := hrested.sound
  have hallocated : ∀ {q} {t : Tower K}, t ∈ st.towers q →
      t ∈ (st.towerManagers q).allocatedTowers := fun ht =>
    TowerManager.mem_allocatedTowers_of_mem ht
  refine ⟨hrested.room p, h.based.leads p, (hsound.manager p).sorted, ?_, ?_, ?_⟩
  · exact fun t ht u hu => hsound.disjoint p t (hallocated ht) u (hallocated hu)
  · intro t ht q s hs
    obtain ⟨i, hi⟩ := List.mem_iff_getElem?.mp hs
    have hlt := hsound.slot_lt hi
    have hge := (hsound.manager p).id_ge t (hallocated ht)
    rw [(hsound.soldier q i s hi).id_eq]
    cases q <;> simp only [PlayerId.index] <;> omega
  · intro t ht
    have htower := (hsound.manager p).tower t (hallocated ht)
    exact ⟨htower.level_pos, htower.level_le, htower.hp_nonneg, htower.hp_le, htower.maxHp_eq⟩

omit [Field K] [LinearOrder K] [FloorRing K] [SquareRoot K] [IsStrictOrderedRing K] in
/-- In the small game player 1 builds a tower and upgrades its base. -/
theorem towerLists_sample : ∃ st,
    play sampleRules [bothPlay _ (.build _ (1, 1)) (.quiet _),
      bothPlay _ (.alterTower _ 0 2 true false) (.quiet _)] = .ok st ∧
    (st.towers .player1).map (fun t => (t.id, t.isBase, t.towerLevel)) =
      [(2, true, 2), (4, false, 1)] ∧
    BaseLeads sampleRules.toConstants .player1 (st.towers .player1) ∧
    ∀ t ∈ st.towers .player1, ∀ u ∈ st.towers .player2, t.id ≠ u.id := by
  have hrun : ((play sampleRules [bothPlay _ (.build _ (1, 1)) (.quiet _),
      bothPlay _ (.alterTower _ 0 2 true false) (.quiet _)]).toOption.bind fun st =>
    some ((st.towers .player1).map fun t => (t.id, t.isBase, t.towerLevel))) =
      some [(2, true, 2), (4, false, 1)] := by
    decide +kernel
  obtain ⟨st, hplay, htowers⟩ := exists_of_toOption_bind hrun
  obtain ⟨-, hleads, -, hdisjoint, -⟩ := Reachable.towerLists (reachable_of_play hplay) .player1
  exact ⟨st, hplay, Option.some.inj htowers, hleads, hdisjoint⟩

end Runs

end Simulator
