import Simulator.State.SoldierPhases
import Simulator.State.TowerPhase

/-!
# The update of the whole state

Between two turns a state is `Rested`: nothing is queued, no damage is pending, the
orders of every soldier agree with its state, and every target is a listed tower,
or a soldier that, if it is dead, has died in the turn just finished.  The commands
leave it `Ready`: there are requests, which can all be carried out, and new orders.

`Ready.updateInOrder` says that an update of a ready state succeeds and leaves a
rested one, in either order of the players, and of what steps it consists.

## The cycle

A game is commands and updates by turns, and the two invariants hand over to one another: commands
take a rested state to a ready one, and an update takes it back.  What a ready state lacks of a
rested one is what commands may change, the queues and the orders.  What both have is `Targeting`,
and commands do not break it.

What `Targeting` says of targets is the reason why removed towers are kept for two turns.  A
soldier whose target is removed in an update finds a tower without hp in the same update and gives
it up, so that it must still be there to be looked at.  So no soldier holds on to a tower that has
left the list, and after the update all towers that are targets are listed.
-/

namespace Simulator

open Foundation

variable {K : Type}

namespace State

/-- Targets are listed towers, and soldiers that have not been dead for longer than
since the last turn. -/
structure Targeting (c : Constants K) (st : State K) : Prop where
  tower : ∀ p (i : ℕ) s q id, (st.soldiers p)[i]? = some s →
    s.attackTarget = some (.tower q id) → ∃ t ∈ st.towers q, t.id = id
  soldier : ∀ p (i : ℕ) s q (j : ℕ) u n, (st.soldiers p)[i]? = some s →
    s.attackTarget = some (.soldier q j) → (st.soldiers q)[j]? = some u →
    u.state = .dead n → n = c.soldierTotalTurnsToRespawn - 1

variable [Field K] [LinearOrder K] [FloorRing K]

/-- What the commands leave for the update. -/
structure Ready (r : Ruleset K) (st : State K) : Prop where
  sound : st.Sound r.toConstants
  undamaged : ∀ p (i : ℕ) s, (st.soldiers p)[i]? = some s → s.damageIncurred = 0
  targeting : st.Targeting r.toConstants
  queued : ∀ p, (st.towerManagers p).Queued r.toConstants (st.moneyManager.playerMoney p)
  room : ∀ p, (st.towers p).length + (st.towerManagers p).towersToBuildOffsets.length ≤
    r.maxNumTowers

/-- What the update leaves for the next turn. -/
structure Rested (r : Ruleset K) (st : State K) : Prop where
  sound : st.Sound r.toConstants
  undamaged : ∀ p (i : ℕ) s, (st.soldiers p)[i]? = some s → s.damageIncurred = 0
  targeting : st.Targeting r.toConstants
  settled : st.AllSettled
  buildsDone : ∀ p, (st.towerManagers p).towersToBuildOffsets = []
  upgradesDone : ∀ p, (st.towerManagers p).towersToUpgrade = []
  suicidesDone : ∀ p, (st.towerManagers p).towersToSuicide = []
  room : ∀ p, (st.towers p).length ≤ r.maxNumTowers

omit [LinearOrder K] [FloorRing K] [Field K] in
theorem Targeting.listed {c : Constants K} {st : State K} (h : st.Targeting c) (p : PlayerId) :
    st.TargetsListed p :=
  fun i s id hs hptr => h.tower p.opponent i s p id hs hptr

variable [IsStrictOrderedRing K]

/-- **The towers' phase**, in either order of the players. -/
theorem Ready.updateTowers {r : Ruleset K} {st : State K} (h : st.Ready r) (p : PlayerId) :
    ∃ st₁ st₂, [p, p.opponent].foldlM (State.updateTowers r.toConstants) st = .ok st₂ ∧
      st.TowersUpdated r.toConstants p st₁ ∧ st₁.TowersUpdated r.toConstants p.opponent st₂ ∧
      st₁.Sound r.toConstants ∧ st₂.Sound r.toConstants := by
  obtain ⟨st₁, h₁, hs₁, hu₁⟩ := h.sound.updateTowers (h.queued p) (h.targeting.listed p)
  have hne : p.opponent ≠ p := PlayerId.opponent_ne p
  have hq₁ : (st₁.towerManagers p.opponent).Queued r.toConstants
      (st₁.moneyManager.playerMoney p.opponent) := by
    rw [hu₁.other _ hne, hu₁.money _ hne]
    exact h.queued p.opponent
  have ht₁ : st₁.TargetsListed p.opponent := by
    intro i s id hs hptr
    rw [hu₁.soldiers] at hs
    rw [State.towers, hu₁.other _ hne]
    exact h.targeting.listed p.opponent i s id hs hptr
  obtain ⟨st₂, h₂, hs₂, hu₂⟩ := hs₁.updateTowers hq₁ ht₁
  exact ⟨st₁, st₂, by simp [h₁, h₂], hu₁, hu₂, hs₁, hs₂⟩

variable [SquareRoot K]

omit [IsStrictOrderedRing K] in
/-- **The soldiers' phases**, over a roster with every soldier. -/
theorem Sound.rested {r : Ruleset K} {st : State K} (h : st.Sound r.toConstants)
    (hdone : ∀ p, (st.towerManagers p).towersToBuildOffsets = [] ∧
      (st.towerManagers p).towersToUpgrade = [] ∧ (st.towerManagers p).towersToSuicide = [])
    (hroom : ∀ p, (st.towers p).length ≤ r.maxNumTowers) {l : List (PlayerId × ℕ)} (hl : l.Nodup)
    (hall : ∀ p i, i < r.numSoldiers → (p, i) ∈ l) :
    (st.actAll r.toConstants l).AllSettled ∧
      ((st.actAll r.toConstants l).finishAll r.toConstants l).Rested r := by
  set stA := st.actAll r.toConstants l with hstA
  have hsA : stA.Sound r.toConstants := h.actAll l
  have hmem : ∀ p (i : ℕ) s, (stA.soldiers p)[i]? = some s → (p, i) ∈ l := fun p i s hs =>
    hall p i (hsA.slot_lt hs)
  have hengaged : ∀ p (i : ℕ) s, (stA.soldiers p)[i]? = some s →
      s.Settled ∧ ∀ ptr, s.attackTarget = some ptr → stA.Lists ptr := fun p i s hs =>
    h.engaged_actAll (hmem p i s hs) s hs
  have hsettled : stA.AllSettled := fun p i s hs => (hengaged p i s hs).1
  obtain ⟨hsF, hsettledF⟩ := hsA.finishAll hsettled l
  -- every soldier of the result is a finished soldier of the first phase
  have hfinished : ∀ p (i : ℕ) s', ((stA.finishAll r.toConstants l).soldiers p)[i]? = some s' →
      ∃ s, (stA.soldiers p)[i]? = some s ∧ s.finish r.toConstants = s' := by
    intro p i s' hs'
    rw [getElem?_finishAll _ hl] at hs'
    obtain ⟨s, hs, rfl⟩ := Option.map_eq_some_iff.mp hs'
    exact ⟨s, hs, by simp [hmem p i s hs]⟩
  have hmanagers := towerManagers_finishAll r.toConstants hl stA
  have hqueues : ∀ p, (stA.towerManagers p).towersToBuildOffsets = [] ∧
      (stA.towerManagers p).towersToUpgrade = [] ∧ (stA.towerManagers p).towersToSuicide = [] := by
    intro p
    obtain ⟨g, -, hg⟩ := (h.fought_actAll l).manager p
    rw [hstA, hg]
    exact hdone p
  refine ⟨hsettled, hsF, ?_, ⟨?_, ?_⟩, hsettledF, ?_, ?_, ?_, ?_⟩
  · intro p i s' hs'
    obtain ⟨s, -, rfl⟩ := hfinished p i s' hs'
    unfold Soldier.finish
    split <;> rfl
  · intro p i s' q id hs' hptr
    obtain ⟨s, hs, rfl⟩ := hfinished p i s' hs'
    obtain ⟨t, ht, hid⟩ := (hengaged p i s hs).2 _ (Soldier.attackTarget_of_finish hptr)
    exact ⟨t, by rw [State.towers, hmanagers]; exact ht, hid⟩
  · intro p i s' q j u' n hs' hptr hu' hn
    obtain ⟨s, hs, rfl⟩ := hfinished p i s' hs'
    obtain ⟨u, hu, rfl⟩ := hfinished q j u' hu'
    obtain ⟨v, hv, hvhp⟩ := (hengaged p i s hs).2 _ (Soldier.attackTarget_of_finish hptr)
    obtain rfl := Option.some.inj (hu.symm.trans hv)
    have halive := (hsA.soldier q j u hu).state_ne_dead hvhp
    unfold Soldier.finish at hn
    split at hn
    · exact (SoldierState.dead.inj hn).symm
    · change u.state = .dead n at hn
      simp [hn, SoldierState.isDead] at halive
  · exact fun p => by rw [hmanagers]; exact (hqueues p).1
  · exact fun p => by rw [hmanagers]; exact (hqueues p).2.1
  · exact fun p => by rw [hmanagers]; exact (hqueues p).2.2
  · intro p
    obtain ⟨g, -, hg⟩ := (h.fought_actAll l).manager p
    rw [State.towers, hmanagers, hstA, hg]
    simpa [TowerManager.mapTowers, State.towers] using hroom p

/-- **The update of a ready state** succeeds, in either order of the players, and
leaves a rested state: the towers of one player are updated, then those of the
other, then the soldiers act and are finished. -/
theorem Ready.updateInOrder {r : Ruleset K} {st : State K} (h : st.Ready r) (p : PlayerId) :
    ∃ st₁ st₂, [p, p.opponent].foldlM (State.updateTowers r.toConstants) st = .ok st₂ ∧
      st.TowersUpdated r.toConstants p st₁ ∧ st₁.TowersUpdated r.toConstants p.opponent st₂ ∧
      st₁.Sound r.toConstants ∧ st₂.Sound r.toConstants ∧
      let l := roster r.toConstants [p, p.opponent]
      let st' := (st₂.actAll r.toConstants l).finishAll r.toConstants l
      State.updateInOrder r.toConstants [p, p.opponent] st = .ok st' ∧
        (st₂.actAll r.toConstants l).AllSettled ∧ st'.Rested r := by
  obtain ⟨st₁, st₂, htowers, hu₁, hu₂, hs₁, hs₂⟩ := h.updateTowers p
  have hne : p.opponent ≠ p := PlayerId.opponent_ne p
  have hdone : ∀ q, (st₂.towerManagers q).towersToBuildOffsets = [] ∧
      (st₂.towerManagers q).towersToUpgrade = [] ∧ (st₂.towerManagers q).towersToSuicide = [] := by
    intro q
    by_cases hq : q = p
    · subst hq
      rw [hu₂.other q (PlayerId.ne_opponent q), hu₁.manager]
      exact ⟨rfl, rfl, rfl⟩
    · obtain rfl := PlayerId.eq_opponent_of_ne hq
      rw [hu₂.manager]
      exact ⟨rfl, rfl, rfl⟩
  have hl : (roster r.toConstants [p, p.opponent]).Nodup :=
    nodup_roster _ (by simp)
  have hall : ∀ q i, i < r.numSoldiers → (q, i) ∈ roster r.toConstants [p, p.opponent] := by
    intro q i hi
    refine mem_roster.mpr ⟨?_, hi⟩
    by_cases hq : q = p
    · simp [hq]
    · simp [PlayerId.eq_opponent_of_ne hq]
  have hroom : ∀ q, (st₂.towers q).length ≤ r.maxNumTowers := by
    intro q
    by_cases hq : q = p
    · subst hq
      rw [State.towers, hu₂.other q (PlayerId.ne_opponent q)]
      exact hu₁.length_towers.trans (h.room q)
    · obtain rfl := PlayerId.eq_opponent_of_ne hq
      have hle := hu₂.length_towers
      rw [State.towers, State.towers, hu₁.other _ hne] at hle
      exact hle.trans (h.room p.opponent)
  obtain ⟨hsettled, hrested⟩ := hs₂.rested hdone hroom hl hall
  refine ⟨st₁, st₂, htowers, hu₁, hu₂, hs₁, hs₂, ?_, hsettled, hrested⟩
  rw [State.updateInOrder, htowers, ok_bind, hs₂.foldlM_update, ok_bind,
    (hs₂.actAll _).foldlM_lateUpdate hsettled]

/-! ## Towers over an update -/

section Towers

variable {r : Ruleset K} {st st' : State K}

theorem Ready.exists_fought (h : st.Ready r) (hupdate : State.update r.toConstants st = .ok st') :
    ∃ st₁ st₂, st.TowersUpdated r.toConstants .player1 st₁ ∧
      st₁.TowersUpdated r.toConstants .player2 st₂ ∧ st₂.Fought st' := by
  obtain ⟨st₁, st₂, -, hu₁, hu₂, -, hs₂, hrun, -⟩ := h.updateInOrder .player1
  refine ⟨st₁, st₂, hu₁, hu₂, ?_⟩
  rw [← Except.ok.inj (hrun.symm.trans hupdate)]
  exact hs₂.fought_finishAll (nodup_roster _ (by simp))

/-- **The towers after an update**: each is one of before that the requests leave
alive, or has a new id. -/
theorem Ready.mem_towers_update (h : st.Ready r) (hupdate : State.update r.toConstants st = .ok st')
    {p : PlayerId} {t' : Tower K} (ht' : t' ∈ st'.towers p) :
    (∃ t ∈ st.towers p, t.id = t'.id ∧ ((st.towerManagers p).processed r.toConstants t).hp ≠ 0) ∨
      st.actorIdIncrement ≤ t'.id := by
  obtain ⟨st₁, st₂, hu₁, hu₂, hfought⟩ := h.exists_fought hupdate
  obtain ⟨g, hg, hm⟩ := hfought.manager p
  rw [State.towers, hm, TowerManager.mapTowers] at ht'
  obtain ⟨u, hu, rfl⟩ := List.mem_map.mp ht'
  rw [(hg u (TowerManager.mem_allocatedTowers_of_mem hu)).id]
  cases p with
  | player1 =>
    rw [hu₂.other .player1 (by decide)] at hu
    rcases hu₁.mem_towers hu with ⟨t, ht, rfl, hhp⟩ | hle
    · exact .inl ⟨t, ht, (TowerManager.id_processed ..).symm, hhp⟩
    · exact .inr hle
  | player2 =>
    have hmanager : st₁.towerManagers .player2 = st.towerManagers .player2 :=
      hu₁.other .player2 (by decide)
    rcases hu₂.mem_towers hu with ⟨t, ht, rfl, hhp⟩ | hle
    · rw [hmanager] at hhp ⊢
      rw [State.towers, hmanager] at ht
      exact .inl ⟨t, ht, (TowerManager.id_processed ..).symm, hhp⟩
    · have := hu₁.actorIdIncrement
      exact .inr (by omega)

/-- A tower that the requests leave alive is listed after the update. -/
theorem Ready.exists_towers_update (h : st.Ready r)
    (hupdate : State.update r.toConstants st = .ok st') {p : PlayerId} {t : Tower K}
    (ht : t ∈ st.towers p) (hhp : ((st.towerManagers p).processed r.toConstants t).hp ≠ 0) :
    ∃ t' ∈ st'.towers p, t'.id = t.id := by
  obtain ⟨st₁, st₂, hu₁, hu₂, hfought⟩ := h.exists_fought hupdate
  have hmem : (st.towerManagers p).processed r.toConstants t ∈ st₂.towers p := by
    cases p with
    | player1 =>
      rw [State.towers, hu₂.other .player1 (by decide)]
      exact hu₁.processed_mem ht hhp
    | player2 =>
      have hmanager : st₁.towerManagers .player2 = st.towerManagers .player2 :=
        hu₁.other .player2 (by decide)
      have hprocessed := hu₂.processed_mem (t := t)
      rw [State.towers, hmanager] at hprocessed
      exact hprocessed ht hhp
  obtain ⟨g, hg, hm⟩ := hfought.manager p
  refine ⟨g ((st.towerManagers p).processed r.toConstants t), ?_, ?_⟩
  · rw [State.towers, hm]
    exact List.mem_map_of_mem hmem
  · rw [(hg _ (TowerManager.mem_allocatedTowers_of_mem hmem)).id, TowerManager.id_processed]

theorem Ready.actorIdIncrement_le (h : st.Ready r)
    (hupdate : State.update r.toConstants st = .ok st') :
    st.actorIdIncrement ≤ st'.actorIdIncrement := by
  obtain ⟨st₁, st₂, hu₁, hu₂, hfought⟩ := h.exists_fought hupdate
  have h₁ := hu₁.actorIdIncrement
  have h₂ := hu₂.actorIdIncrement
  rw [hfought.actorIdIncrement]
  omega

end Towers

end State

end Simulator
