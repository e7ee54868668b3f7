import Simulator.Main.Runs

/-!
# What becomes of a dead tower

A tower that soldiers have killed stays listed until the next update, because the
tower managers come first in an update, and the soldiers after them.  Until then it
can be named in a command like any other tower.  An upgrade sets its hp anew, and a
demolition pays for it a second time.

Apart from that the death of a tower is final, and a tower pays out once.

## Death

`DeathsFinal` says of a game that a tower which is dead after a turn is not listed after any later
one.  The turn that can break this is the next one, and the only thing in it that can is an
accepted upgrade: an upgraded tower is alive (`hp_processed_of_upgraded`), and a dead tower that
is not upgraded is removed by the deaths of that update.  Once it is off the list it stays off,
since ids are given once.  So a game in which no accepted upgrade names a tower with hp zero is a
game in which deaths are final, and any other game has a turn where one is not
(`Game.deathsFinal_iff`).

## Rewards

The record of rewards names the tower each is for.  `PaidOnce` says what that record has to do
with the towers there are: at most one reward has been paid for any tower, and none for one that
is alive.  A kill keeps it, since what is killed was alive, and so does a demolition of a living
tower.  A demolition of a dead one is paid for again, and so it is excluded (`SparesTheDead`), as
are upgrades of dead towers, which would let them be killed again.
-/

namespace Simulator

open Foundation

variable {K : Type}

/-! ## Final deaths -/

/-- No tower with hp zero is to be upgraded. -/
def State.RevivesNothing (st : State K) : Prop :=
  ∀ p, ∀ t ∈ st.towers p, t.hp = 0 → t.id ∉ (st.towerManagers p).towersToUpgrade

instance (st : State K) : Decidable st.RevivesNothing := by
  unfold State.RevivesNothing
  infer_instance

/-- No tower that was dead after the first turn is listed after the second. -/
def Turn.Buries (t u : Turn K) : Prop :=
  ∀ p, ∀ w ∈ t.after.towers p, w.hp = 0 → ∀ w' ∈ u.after.towers p, w'.id ≠ w.id

/-- A tower that is dead after a turn is not listed after any later one. -/
def DeathsFinal (past : List (Turn K)) : Prop := past.Pairwise Turn.Buries

section Requests

variable {r : Ruleset K} {m : TowerManager K} {p : PlayerId} {t : Tower K}

/-- An upgrade revives. -/
theorem hp_upgradedTower_ne_zero (ht : t.Sound r.toConstants p)
    (hlevel : t.towerLevel ≠ r.towerBuildCosts.length) :
    (TowerEnv.upgradedTower r.toConstants t).hp ≠ 0 := by
  have := ht.level_pos
  have := ht.level_le
  have hlt : t.towerLevel.toNat < r.towerHps.length := by
    rw [r.length_towerHps]
    omega
  have hhp : (TowerEnv.upgradedTower r.toConstants t).hp = r.towerHps[t.towerLevel.toNat] := by
    simp [TowerEnv.upgradedTower, hlt]
  rw [hhp]
  exact (r.towerHps_pos _ (List.getElem_mem hlt)).ne'

theorem hp_processed_of_dead {c : Constants K} (hhp : t.hp = 0) (hid : t.id ∉ m.towersToUpgrade) :
    (m.processed c t).hp = 0 := by
  unfold TowerManager.processed TowerEnv.demolishedTower
  simp only [hid, if_false]
  split
  · rfl
  · exact hhp

theorem hp_processed_of_demolished {c : Constants K} (hid : t.id ∈ m.towersToSuicide) :
    (m.processed c t).hp = 0 := by
  have hupgraded : (if t.id ∈ m.towersToUpgrade then TowerEnv.upgradedTower c t else t).id =
      t.id := by
    split <;> rfl
  unfold TowerManager.processed
  dsimp only
  rw [hupgraded, if_pos hid]
  rfl

/-- A tower that is upgraded is alive afterwards. -/
theorem hp_processed_of_upgraded (ht : t.Sound r.toConstants p)
    (hlevel : t.towerLevel ≠ r.towerBuildCosts.length) (hid : t.id ∈ m.towersToUpgrade)
    (hdisjoint : t.id ∉ m.towersToSuicide) : (m.processed r.toConstants t).hp ≠ 0 := by
  have hsuicide : (TowerEnv.upgradedTower r.toConstants t).id ∉ m.towersToSuicide := hdisjoint
  unfold TowerManager.processed
  simp only [hid, if_true, hsuicide, if_false]
  exact hp_upgradedTower_ne_zero ht hlevel

end Requests

variable [Field K] [LinearOrder K] [FloorRing K] [SquareRoot K] [IsStrictOrderedRing K]
  {r : Ruleset K}

theorem Turn.IsPlayed.commands {t : Turn K} (ht : t.IsPlayed r) (h : t.before.Rested r) :
    t.before.SameButOrders t.commanded ∧ t.commanded.Ready r ∧ t.after.Rested r ∧
      State.update r.toConstants t.commanded = .ok t.after := by
  obtain ⟨hready, hrested⟩ := ht.ready h
  obtain ⟨input, hstate, hupdate⟩ := ht.carriedOut h
  refine ⟨?_, hready, hrested, hupdate⟩
  rw [hstate]
  exact State.sameButOrders_carryOutAll _ _

theorem Game.last {past : List (Turn K)} {st : State K} (h : Game r past st) :
    (past = [] ∧ ∀ p, ∀ t ∈ st.towers p, t.hp ≠ 0) ∨
      ∃ past' t, past = past' ++ [t] ∧ t.after = st := by
  cases h with
  | start h =>
    obtain ⟨st', hst', hrested, htowers, -⟩ := exists_buildState r
    obtain rfl := Except.ok.inj (hst'.symm.trans h)
    refine .inl ⟨rfl, ?_⟩
    intro p t ht
    rw [htowers, List.mem_singleton] at ht
    rw [ht]
    exact (r.towerHps_pos _ (mem_of_vectorAt
      (TowerEnv.exists_vectorAt_zero r.length_towerHps))).ne'
  | @turn past t _ _ => exact .inr ⟨past, t, rfl, rfl⟩

/-- **A turn that revives nothing** removes the towers that are dead before it. -/
theorem Turn.IsPlayed.removes_dead {t : Turn K} (ht : t.IsPlayed r) (h : t.before.Rested r)
    (hrevives : t.commanded.RevivesNothing) {p : PlayerId} {id : ℤ}
    (hid : id < t.before.actorIdIncrement)
    (hdead : ∀ w ∈ t.before.towers p, w.id = id → w.hp = 0) :
    ∀ w ∈ t.after.towers p, w.id ≠ id := by
  obtain ⟨hsame, hready, -, hupdate⟩ := ht.commands h
  rintro w hw rfl
  rcases hready.mem_towers_update hupdate hw with ⟨w₀, hw₀, hid₀, hhp⟩ | hle
  · rw [hsame.towers] at hw₀
    have hhp₀ := hdead w₀ hw₀ hid₀
    exact hhp (hp_processed_of_dead hhp₀ (hrevives p w₀ (hsame.towers p ▸ hw₀) hhp₀))
  · rw [hsame.actorIdIncrement] at hle
    omega

/-- **The death of a tower is final exactly in the games that revive nothing**: in
which no accepted upgrade names a tower with hp zero. -/
theorem Game.deathsFinal_iff {past : List (Turn K)} {st : State K} (h : Game r past st) :
    DeathsFinal past ↔ ∀ t ∈ past, t.commanded.RevivesNothing := by
  constructor
  · intro hfinal
    induction h with
    | start => simp
    | @turn past t hgame ht ih =>
      obtain ⟨hpast, -, hlast⟩ := List.pairwise_append.mp hfinal
      intro u hu
      rcases List.mem_append.mp hu with hu | hu
      · exact ih hpast u hu
      · obtain rfl := List.mem_singleton.mp hu
        intro p w hw hhp hup
        obtain ⟨hsame, hready, -, hupdate⟩ := ht.commands hgame.rested
        obtain ⟨w', hw', hid', hlevel⟩ := (hready.queued p).upgrades w.id hup
        have hsound := hready.sound.manager p
        obtain rfl := hsound.eq_of_id (TowerManager.mem_allocatedTowers_of_mem hw')
          (TowerManager.mem_allocatedTowers_of_mem hw) hid'
        obtain ⟨w'', hw'', hid''⟩ := hready.exists_towers_update hupdate hw
          (hp_processed_of_upgraded (hsound.tower w' (TowerManager.mem_allocatedTowers_of_mem hw))
            hlevel hup ((hready.queued p).disjoint w'.id hup))
        rw [hsame.towers] at hw
        rcases hgame.last with ⟨-, halive⟩ | ⟨past', t', rfl, hafter⟩
        · exact halive p w' hw hhp
        · rw [← hafter] at hw
          exact hlast t' (by simp) u (by simp) p w' hw hhp w'' hw'' hid''
  · intro hrevives
    -- a tower that has been dead after a turn is dead wherever it is listed
    have hinv : DeathsFinal past ∧ ∀ t ∈ past, ∀ p, ∀ w ∈ t.after.towers p, w.hp = 0 →
        w.id < st.actorIdIncrement ∧ ∀ w' ∈ st.towers p, w'.id = w.id → w'.hp = 0 := by
      induction h with
      | start => exact ⟨List.Pairwise.nil, by simp⟩
      | @turn past t hgame ht ih =>
        obtain ⟨hfinal, hdead⟩ := ih fun u hu => hrevives u (List.mem_append_left _ hu)
        obtain ⟨hsame, hready, hrested, hupdate⟩ := ht.commands hgame.rested
        have hle := hready.actorIdIncrement_le hupdate
        rw [hsame.actorIdIncrement] at hle
        have hburies : ∀ u ∈ past, u.Buries t := fun u hu p w hw hhp =>
          ht.removes_dead hgame.rested (hrevives t (by simp)) (hdead u hu p w hw hhp).1
            (hdead u hu p w hw hhp).2
        refine ⟨List.pairwise_append.mpr ⟨hfinal, List.pairwise_singleton .., ?_⟩, ?_⟩
        · intro u hu t' ht'
          rw [List.mem_singleton.mp ht']
          exact hburies u hu
        · intro u hu p w hw hhp
          rcases List.mem_append.mp hu with hu | hu
          · exact ⟨(hdead u hu p w hw hhp).1.trans_le hle, fun w' hw' hid =>
              absurd hid (hburies u hu p w hw hhp w' hw')⟩
          · obtain rfl := List.mem_singleton.mp hu
            have hsound := hrested.sound.manager p
            refine ⟨hsound.id_lt w (TowerManager.mem_allocatedTowers_of_mem hw), ?_⟩
            intro w' hw' hid
            rw [hsound.eq_of_id (TowerManager.mem_allocatedTowers_of_mem hw')
              (TowerManager.mem_allocatedTowers_of_mem hw) hid]
            exact hhp
    exact hinv.1

omit [Field K] [LinearOrder K] [FloorRing K] [SquareRoot K] [IsStrictOrderedRing K] in
/-- A game of three turns: player 2 builds tower 4, player 1 kills it, and nobody does
anything in the third turn.  The dead tower is still listed after the second turn, and it is
gone after the third. -/
theorem deathsFinal_iff_sample : ∃ t₁ t₂ t₃ : Turn ℚ, Game sampleRules [t₁, t₂, t₃] t₃.after ∧
    (t₁.after.towers .player2).map (fun w => (w.id, w.hp)) = [(3, 1), (4, 1)] ∧
    (t₂.after.towers .player2).map (fun w => (w.id, w.hp)) = [(3, 1), (4, 0)] ∧
    (t₃.after.towers .player2).map (fun w => (w.id, w.hp)) = [(3, 1)] ∧
    (∀ t ∈ [t₁, t₂, t₃], t.commanded.RevivesNothing) ∧
    (DeathsFinal [t₁, t₂, t₃] ↔ ∀ t ∈ [t₁, t₂, t₃], t.commanded.RevivesNothing) := by
  have hrun : ((buildState sampleRules.toConstants).toOption.bind fun st₀ =>
      (execute (bothPlay sampleRules (.quiet _) (.build _ (1, 1))) st₀).toOption.bind fun ph₁ =>
      (State.update sampleRules.toConstants ph₁.state).toOption.bind fun st₁ =>
      (execute (bothPlay sampleRules (.attackTower _ 0 4) (.quiet _)) st₁).toOption.bind fun ph₂ =>
      (State.update sampleRules.toConstants ph₂.state).toOption.bind fun st₂ =>
      (execute (bothPlay sampleRules (.quiet _) (.quiet _)) st₂).toOption.bind fun ph₃ =>
      (State.update sampleRules.toConstants ph₃.state).toOption.bind fun st₃ =>
      some (decide (ph₁.state.RevivesNothing ∧ ph₂.state.RevivesNothing ∧ ph₃.state.RevivesNothing),
        (st₁.towers .player2).map fun w => (w.id, w.hp),
        (st₂.towers .player2).map fun w => (w.id, w.hp),
        (st₃.towers .player2).map fun w => (w.id, w.hp))) =
      some (true, [(3, 1), (4, 1)], [(3, 1), (4, 0)], [(3, 1)]) := by
    decide +kernel
  obtain ⟨st₀, h₀, hrun⟩ := exists_of_toOption_bind hrun
  obtain ⟨ph₁, h₁, hrun⟩ := exists_of_toOption_bind hrun
  obtain ⟨st₁, hu₁, hrun⟩ := exists_of_toOption_bind hrun
  obtain ⟨ph₂, h₂, hrun⟩ := exists_of_toOption_bind hrun
  obtain ⟨st₂, hu₂, hrun⟩ := exists_of_toOption_bind hrun
  obtain ⟨ph₃, h₃, hrun⟩ := exists_of_toOption_bind hrun
  obtain ⟨st₃, hu₃, hrun⟩ := exists_of_toOption_bind hrun
  simp only [Option.some.injEq, Prod.mk.injEq, decide_eq_true_eq] at hrun
  obtain ⟨⟨hrevives₁, hrevives₂, hrevives₃⟩, htowers₁, htowers₂, htowers₃⟩ := hrun
  have hgame : Game sampleRules ([] ++ [⟨st₀, ph₁.state, st₁⟩] ++ [⟨st₁, ph₂.state, st₂⟩] ++
      [⟨st₂, ph₃.state, st₃⟩]) st₃ :=
    .turn (t := ⟨st₂, ph₃.state, st₃⟩)
      (.turn (t := ⟨st₁, ph₂.state, st₂⟩)
        (.turn (t := ⟨st₀, ph₁.state, st₁⟩) (.start h₀) ⟨_, ph₁, h₁, rfl, hu₁⟩)
        ⟨_, ph₂, h₂, rfl, hu₂⟩)
      ⟨_, ph₃, h₃, rfl, hu₃⟩
  exact ⟨⟨st₀, ph₁.state, st₁⟩, ⟨st₁, ph₂.state, st₂⟩, ⟨st₂, ph₃.state, st₃⟩, hgame, htowers₁,
    htowers₂, htowers₃, by simp [hrevives₁, hrevives₂, hrevives₃], hgame.deathsFinal_iff⟩

omit [Field K] [LinearOrder K] [FloorRing K] [SquareRoot K] [IsStrictOrderedRing K] in
/-- **A dead tower comes back.**  Player 2 builds a tower, player 1 kills it, and
player 2 upgrades it: it is dead after the second turn, and listed and alive after
the third. -/
theorem not_deathsFinal_sample : ∃ past st, Game sampleRules past st ∧ past.length = 3 ∧
    ¬ DeathsFinal past ∧ play sampleRules
      [bothPlay _ (.quiet _) (.build _ (1, 1)), bothPlay _ (.attackTower _ 0 4) (.quiet _),
        bothPlay _ (.quiet _) (.alterTower _ 1 4 true false)] = .ok st := by
  have hrun : ((play sampleRules [bothPlay _ (.quiet _) (.build _ (1, 1)),
      bothPlay _ (.attackTower _ 0 4) (.quiet _)]).toOption.bind fun st₂ =>
    (playTurn sampleRules st₂ (bothPlay _ (.quiet _) (.alterTower _ 1 4 true false))).toOption.bind
      fun st₃ => some ((st₂.towers .player2)[1]?.map fun w => (w.id, w.hp),
        (st₃.towers .player2)[1]?.map fun w => (w.id, w.hp))) =
      some (some (4, 0), some (4, 1)) := by
    decide +kernel
  obtain ⟨st₂, hplay, hrun⟩ := exists_of_toOption_bind hrun
  obtain ⟨st₃, hturn, hrun⟩ := exists_of_toOption_bind hrun
  obtain ⟨h₂, h₃⟩ := Prod.mk.inj (Option.some.inj hrun)
  obtain ⟨w, hw, hw₄⟩ := Option.map_eq_some_iff.mp h₂
  obtain ⟨w', hw', hw'₄⟩ := Option.map_eq_some_iff.mp h₃
  obtain ⟨hid, hhp⟩ := Prod.mk.inj hw₄
  obtain ⟨hid', -⟩ := Prod.mk.inj hw'₄
  obtain ⟨past, hlength, hgame⟩ := game_of_play hplay
  obtain ⟨ph, hph, hupdate⟩ := bind_eq_ok.mp hturn
  have hgame' : Game sampleRules (past ++ [⟨st₂, ph.state, st₃⟩]) st₃ :=
    hgame.turn (t := ⟨st₂, ph.state, st₃⟩) ⟨_, ph, hph, rfl, hupdate⟩
  refine ⟨_, st₃, hgame', by simp [hlength], ?_, ?_⟩
  · intro hfinal
    rcases hgame.last with ⟨rfl, -⟩ | ⟨past', t, rfl, rfl⟩
    · simp at hlength
    · exact (List.pairwise_append.mp hfinal).2.2 t (by simp) _
        (List.mem_singleton_self _) .player2 w
        (List.mem_of_getElem? hw) hhp w' (List.mem_of_getElem? hw') (hid'.trans hid.symm)
  · exact play_concat hplay hturn

/-! ## One payout -/

/-- The rewards that are paid for a tower. -/
def Payout.isFor (id : ℤ) : Payout → Bool
  | .soldierKill _ => false
  | .towerKill id' | .towerSuicide id' => id' = id

/-- How many rewards have been paid for a tower, to either player. -/
def MoneyManager.paidFor (m : MoneyManager) (id : ℤ) : ℕ :=
  (m.payouts .player1).countP (Payout.isFor id) + (m.payouts .player2).countP (Payout.isFor id)

omit [Field K] [LinearOrder K] [FloorRing K] [SquareRoot K] [IsStrictOrderedRing K] in
theorem MoneyManager.paidFor_append {m m' : MoneyManager} {p : PlayerId} {new : List Payout}
    (h : m'.payouts = Function.update m.payouts p (m.payouts p ++ new)) (id : ℤ) :
    m'.paidFor id = m.paidFor id + new.countP (Payout.isFor id) := by
  unfold paidFor
  rw [h]
  cases p <;> simp <;> omega

namespace State

/-- No request names a tower with hp zero. -/
def SparesTheDead (st : State K) : Prop :=
  ∀ p, ∀ t ∈ st.towers p, t.hp = 0 → t.id ∉ (st.towerManagers p).towersToUpgrade ∧
    t.id ∉ (st.towerManagers p).towersToSuicide

instance (st : State K) : Decidable st.SparesTheDead := by
  unfold SparesTheDead
  infer_instance

/-- What the rewards that have been paid have to do with the towers there are: at
most one has been paid for any tower, and none for one that is alive, or for one to
come. -/
structure PaidOnce (st : State K) : Prop where
  le_one : ∀ id, st.moneyManager.paidFor id ≤ 1
  alive : ∀ p, ∀ t ∈ (st.towerManagers p).allocatedTowers, t.hp ≠ 0 →
    st.moneyManager.paidFor t.id = 0
  fresh : ∀ id, st.actorIdIncrement ≤ id → st.moneyManager.paidFor id = 0

omit [SquareRoot K] [IsStrictOrderedRing K] in
/-- The towers' phase of a player keeps it, if no request names a dead tower. -/
theorem PaidOnce.updateTowers {st st' : State K} {p : PlayerId} (hpaid : st.PaidOnce)
    (h : st.Sound r.toConstants) (h' : st'.Sound r.toConstants)
    (hq : (st.towerManagers p).Queued r.toConstants (st.moneyManager.playerMoney p))
    (hspares : ∀ t ∈ st.towers p, t.hp = 0 → t.id ∉ (st.towerManagers p).towersToUpgrade ∧
      t.id ∉ (st.towerManagers p).towersToSuicide)
    (hu : st.TowersUpdated r.toConstants p st') : st'.PaidOnce := by
  have hmanager := h.manager p
  have hcount : ∀ id, st'.moneyManager.paidFor id =
      st.moneyManager.paidFor id + (st.towerManagers p).towersToSuicide.count id := by
    intro id
    rw [MoneyManager.paidFor_append hu.payouts, List.countP_map, List.count_eq_countP]
    congr 1
  have hunpaid : ∀ id ∈ (st.towerManagers p).towersToSuicide, st.moneyManager.paidFor id = 0 := by
    intro id hid
    obtain ⟨t, ht, rfl⟩ := hq.suicides id hid
    exact hpaid.alive p t (TowerManager.mem_allocatedTowers_of_mem ht) fun hhp =>
      (hspares t ht hhp).2 hid
  have hold : ∀ id ∈ (st.towerManagers p).towersToSuicide, id < st.actorIdIncrement := by
    intro id hid
    obtain ⟨t, ht, rfl⟩ := hq.suicides id hid
    exact hmanager.id_lt t (TowerManager.mem_allocatedTowers_of_mem ht)
  have hnew : ∀ id, st.actorIdIncrement ≤ id → st'.moneyManager.paidFor id = 0 := by
    intro id hid
    rw [hcount, hpaid.fresh id hid, List.count_eq_zero_of_not_mem fun hmem => by
      have := hold id hmem
      omega]
  constructor
  · intro id
    rw [hcount]
    by_cases hid : id ∈ (st.towerManagers p).towersToSuicide
    · rw [hunpaid id hid]
      have := List.nodup_iff_count_le_one.mp hq.suicides_nodup id
      omega
    · rw [List.count_eq_zero_of_not_mem hid]
      exact hpaid.le_one id
  · intro q t' ht' hhp'
    by_cases hqp : q = p
    · subst hqp
      rcases hu.mem_towers ((h'.manager q).listed_of_alive ht' hhp') with ⟨t, ht, rfl, -⟩ | hle
      · rw [TowerManager.id_processed, hcount]
        have hhp : t.hp ≠ 0 := fun h0 => hhp' (hp_processed_of_dead h0 (hspares t ht h0).1)
        rw [hpaid.alive q t (TowerManager.mem_allocatedTowers_of_mem ht) hhp,
          List.count_eq_zero_of_not_mem fun hmem => hhp' (hp_processed_of_demolished hmem)]
      · exact hnew _ hle
    · rw [hu.other q hqp] at ht'
      rw [hcount, hpaid.alive q t' ht' hhp', List.count_eq_zero_of_not_mem fun hmem => ?_]
      obtain ⟨t, ht, hid⟩ := hq.suicides _ hmem
      obtain rfl := PlayerId.eq_opponent_of_ne hqp
      exact h.disjoint p t (TowerManager.mem_allocatedTowers_of_mem ht) t' ht' hid
  · intro id hid
    have := hu.actorIdIncrement
    exact hnew id (by omega)

omit [IsStrictOrderedRing K] in
theorem Sound.exists_of_alive_actEffect {st : State K} (h : st.Sound r.toConstants) {p : PlayerId}
    {i : ℕ} {q : PlayerId} {t' : Tower K}
    (ht' : t' ∈ ((st.apply (st.actEffect r.toConstants p i)).towerManagers q).allocatedTowers)
    (hhp : t'.hp ≠ 0) : ∃ t ∈ (st.towerManagers q).allocatedTowers,
      t'.id = t.id ∧ t.hp ≠ 0 ∧ t' = (st.actEffect r.toConstants p i).tower q t := by
  rw [towerManagers_apply, TowerManager.allocatedTowers_mapTowers, List.mem_map] at ht'
  obtain ⟨t, ht, rfl⟩ := ht'
  have hworn := h.worn_actEffect p i q t
  exact ⟨t, ht, hworn.id, fun h0 => hhp (hworn.hp_eq_zero h0), rfl⟩

omit [IsStrictOrderedRing K] in
theorem PaidOnce.actEffect_of_unpaid {st : State K} (hpaid : st.PaidOnce)
    (h : st.Sound r.toConstants) {p : PlayerId} {i : ℕ}
    (hunpaid : ∀ id, (st.apply (st.actEffect r.toConstants p i)).moneyManager.paidFor id =
      st.moneyManager.paidFor id) : (st.apply (st.actEffect r.toConstants p i)).PaidOnce where
  le_one := fun id => hunpaid id ▸ hpaid.le_one id
  alive := fun q t' ht' hhp' => by
    obtain ⟨t, ht, hid, hhp, -⟩ := h.exists_of_alive_actEffect ht' hhp'
    rw [hunpaid, hid, hpaid.alive q t ht hhp]
  fresh := fun id hid => hunpaid id ▸ hpaid.fresh id hid

omit [IsStrictOrderedRing K] in
/-- The update of a soldier keeps it: a tower that is killed was alive. -/
theorem PaidOnce.actEffect {st : State K} (hpaid : st.PaidOnce) (h : st.Sound r.toConstants)
    (p : PlayerId) (i : ℕ) : (st.apply (st.actEffect r.toConstants p i)).PaidOnce := by
  cases hkill : st.kills p i with
  | none =>
    refine hpaid.actEffect_of_unpaid h ?_
    intro id
    rw [State.moneyManager_apply, State.money_actEffect, hkill, Option.elim_none]
  | some a' =>
    obtain ⟨s, ptr, a, hs, hptr, hderef, hstrikes, rfl, hlatest, hhits⟩ := exists_of_kills hkill
    have hmoney : (st.apply (st.actEffect r.toConstants p i)).moneyManager =
        st.moneyManager.rewarded (a.damage s.attackDamage) := by
      rw [State.moneyManager_apply, State.money_actEffect, hkill, Option.elim_some]
    have hcount : ∀ id, (st.moneyManager.rewarded (a.damage s.attackDamage)).paidFor id =
        st.moneyManager.paidFor id +
          [MoneyManager.killPayout (a.damage s.attackDamage)].countP (Payout.isFor id) := fun id =>
      MoneyManager.paidFor_append rfl id
    cases a with
    | soldier u =>
      refine hpaid.actEffect_of_unpaid h ?_
      intro id
      rw [hmoney, hcount]
      simp [Actor.damage, MoneyManager.killPayout, Payout.isFor]
    | tower u =>
      obtain ⟨q', rfl, hu⟩ := h.exists_of_deref_eq_tower hderef
      obtain ⟨rfl, -⟩ := h.target p i s _ hs hptr
      have hzero : st.moneyManager.paidFor u.id = 0 := hpaid.alive _ u hu hstrikes.2.2.1
      have hone : ∀ id, (st.apply (st.actEffect r.toConstants p i)).moneyManager.paidFor id =
          st.moneyManager.paidFor id + if u.id = id then 1 else 0 := by
        intro id
        rw [hmoney, hcount]
        by_cases hid : u.id = id <;>
          simp [Actor.damage, MoneyManager.killPayout, Payout.isFor, Tower.damage, hid]
      refine ⟨?_, ?_, ?_⟩
      · intro id
        rw [hone]
        split
        · rename_i hid
          rw [← hid, hzero]
        · exact hpaid.le_one id
      · intro q t' ht' hhp'
        obtain ⟨t, ht, hid, hhp, rfl⟩ := h.exists_of_alive_actEffect ht' hhp'
        rw [hone, hid, hpaid.alive q t ht hhp, if_neg fun hut => hhp' ?_]
        -- the killed tower has no hp left
        by_cases hq : q = p.opponent
        · subst hq
          obtain rfl := (h.manager _).eq_of_id hu ht hut
          have heffect : (st.actEffect r.toConstants p i).tower p.opponent u =
              u.damage s.attackDamage := by
            rw [State.tower_actEffect, hhits, Option.elim_some]
          rw [heffect]
          exact hlatest
        · obtain rfl : q = p := by
            have := PlayerId.eq_opponent_of_ne hq
            rwa [PlayerId.opponent_opponent] at this
          exact absurd hut.symm (h.disjoint q t ht u hu)
      · intro id hid
        have hlt := (h.manager p.opponent).id_lt u hu
        rw [hone, hpaid.fresh id hid, if_neg fun hut => by
          change st.actorIdIncrement ≤ id at hid
          omega]

omit [IsStrictOrderedRing K] in
theorem PaidOnce.actAll {st : State K} (hpaid : st.PaidOnce) (h : st.Sound r.toConstants)
    (l : List (PlayerId × ℕ)) : (st.actAll r.toConstants l).PaidOnce :=
  h.actAll_invariant hpaid fun _ h hpaid x _ => hpaid.actEffect h x.1 x.2

omit [Field K] [LinearOrder K] [FloorRing K] [SquareRoot K] [IsStrictOrderedRing K] in
theorem PaidOnce.finishAll {c : Constants K} {st : State K} (hpaid : st.PaidOnce)
    {l : List (PlayerId × ℕ)} (hl : l.Nodup) : (st.finishAll c l).PaidOnce where
  le_one := by
    rw [moneyManager_finishAll c hl]
    exact hpaid.le_one
  alive := by
    rw [moneyManager_finishAll c hl, towerManagers_finishAll c hl]
    exact hpaid.alive
  fresh := by
    rw [moneyManager_finishAll c hl, actorIdIncrement_finishAll c hl]
    exact hpaid.fresh

/-- **The update keeps it**, if no request names a dead tower. -/
theorem PaidOnce.update {st st' : State K} (hpaid : st.PaidOnce) (h : st.Ready r)
    (hspares : st.SparesTheDead) (hupdate : State.update r.toConstants st = .ok st') :
    st'.PaidOnce := by
  obtain ⟨st₁, st₂, -, hu₁, hu₂, hs₁, hs₂, hrun, -⟩ := h.updateInOrder .player1
  have h₁ := hpaid.updateTowers h.sound hs₁ (h.queued .player1) (hspares .player1) hu₁
  have hmanager : st₁.towerManagers .player2 = st.towerManagers .player2 :=
    hu₁.other .player2 (by decide)
  have h₂ : st₂.PaidOnce := by
    refine h₁.updateTowers hs₁ hs₂ ?_ ?_ hu₂
    · rw [PlayerId.opponent, hmanager, hu₁.money .player2 (by decide)]
      exact h.queued .player2
    · rw [PlayerId.opponent, State.towers, hmanager]
      exact hspares .player2
  rw [← Except.ok.inj (hrun.symm.trans hupdate)]
  exact (h₂.actAll hs₂ _).finishAll (nodup_roster _ (by simp))

end State

/-- **A tower pays out at most once** in every game in which no accepted upgrade or
demolition names a tower with hp zero. -/
theorem Game.paidFor_le_one {past : List (Turn K)} {st : State K} (h : Game r past st)
    (hspares : ∀ t ∈ past, t.commanded.SparesTheDead) (id : ℤ) :
    st.moneyManager.paidFor id ≤ 1 := by
  have hpaid : st.PaidOnce := by
    induction h with
    | start h =>
      obtain ⟨st', hst', -, -, hmoney⟩ := exists_buildState r
      obtain rfl := Except.ok.inj (hst'.symm.trans h)
      have hnone : ∀ id, st'.moneyManager.paidFor id = 0 := fun id => by
        rw [hmoney]
        rfl
      exact ⟨fun id => by simp [hnone], fun _ t _ _ => hnone t.id, fun id _ => hnone id⟩
    | @turn past t hgame ht ih =>
      obtain ⟨hsame, hready, -, hupdate⟩ := ht.commands hgame.rested
      have hbefore := ih fun u hu => hspares u (List.mem_append_left _ hu)
      refine State.PaidOnce.update ⟨?_, ?_, ?_⟩ hready (hspares t (by simp))
        hupdate
      · rw [hsame.moneyManager]
        exact hbefore.le_one
      · intro p w hw hhp
        rw [hsame.moneyManager]
        refine hbefore.alive p w ?_ hhp
        rw [hsame.manager p] at hw
        exact hw
      · rw [hsame.moneyManager, hsame.actorIdIncrement]
        exact hbefore.fresh
  exact hpaid.le_one id

omit [Field K] [LinearOrder K] [FloorRing K] [SquareRoot K] [IsStrictOrderedRing K] in
/-- The small game in which player 2 builds a tower and demolishes it. -/
theorem paidFor_le_one_sample : ∃ past st, Game sampleRules past st ∧ past.length = 2 ∧
    st.moneyManager.payouts .player2 = [.towerSuicide 4] ∧ st.moneyManager.paidFor 4 ≤ 1 := by
  have hrun : ((buildState sampleRules.toConstants).toOption.bind fun st₀ =>
      (execute (bothPlay sampleRules (.quiet _) (.build _ (1, 1))) st₀).toOption.bind fun ph₁ =>
      (State.update sampleRules.toConstants ph₁.state).toOption.bind fun st₁ =>
      (execute (bothPlay sampleRules (.quiet _) (.alterTower _ 1 4 false true)) st₁).toOption.bind
        fun ph₂ =>
      (State.update sampleRules.toConstants ph₂.state).toOption.bind fun st₂ =>
      some (decide (ph₁.state.SparesTheDead ∧ ph₂.state.SparesTheDead),
        st₂.moneyManager.payouts .player2)) = some (true, [.towerSuicide 4]) := by
    decide +kernel
  obtain ⟨st₀, h₀, hrun⟩ := exists_of_toOption_bind hrun
  obtain ⟨ph₁, h₁, hrun⟩ := exists_of_toOption_bind hrun
  obtain ⟨st₁, hu₁, hrun⟩ := exists_of_toOption_bind hrun
  obtain ⟨ph₂, h₂, hrun⟩ := exists_of_toOption_bind hrun
  obtain ⟨st₂, hu₂, hrun⟩ := exists_of_toOption_bind hrun
  obtain ⟨hspares, hpayouts⟩ := Prod.mk.inj (Option.some.inj hrun)
  obtain ⟨hspares₁, hspares₂⟩ := of_decide_eq_true hspares
  have hgame : Game sampleRules ([] ++ [⟨st₀, ph₁.state, st₁⟩] ++ [⟨st₁, ph₂.state, st₂⟩]) st₂ :=
    .turn (t := ⟨st₁, ph₂.state, st₂⟩)
      (.turn (t := ⟨st₀, ph₁.state, st₁⟩) (.start h₀) ⟨_, ph₁, h₁, rfl, hu₁⟩) ⟨_, ph₂, h₂, rfl, hu₂⟩
  exact ⟨_, st₂, hgame, rfl, hpayouts, hgame.paidFor_le_one (by simp [hspares₁, hspares₂]) 4⟩

omit [Field K] [LinearOrder K] [FloorRing K] [SquareRoot K] [IsStrictOrderedRing K] in
/-- **A dead tower is paid for twice.**  Player 2 builds a tower, player 1 kills it and
is paid, and player 2 demolishes it and is paid too. -/
theorem not_paidFor_le_one_sample : ∃ past st, Game sampleRules past st ∧
    play sampleRules [bothPlay _ (.quiet _) (.build _ (1, 1)),
      bothPlay _ (.attackTower _ 0 4) (.quiet _),
      bothPlay _ (.quiet _) (.alterTower _ 1 4 false true)] = .ok st ∧
    st.moneyManager.payouts .player1 = [.towerKill 4] ∧
    st.moneyManager.payouts .player2 = [.towerSuicide 4] ∧ ¬ st.moneyManager.paidFor 4 ≤ 1 := by
  have hrun : ((play sampleRules [bothPlay _ (.quiet _) (.build _ (1, 1)),
      bothPlay _ (.attackTower _ 0 4) (.quiet _),
      bothPlay _ (.quiet _) (.alterTower _ 1 4 false true)]).toOption.bind fun st =>
    some (st.moneyManager.payouts .player1, st.moneyManager.payouts .player2)) =
      some ([.towerKill 4], [.towerSuicide 4]) := by
    decide +kernel
  obtain ⟨st, hplay, hpayouts⟩ := exists_of_toOption_bind hrun
  obtain ⟨h₁, h₂⟩ := Prod.mk.inj (Option.some.inj hpayouts)
  obtain ⟨past, -, hgame⟩ := game_of_play hplay
  exact ⟨past, st, hgame, hplay, h₁, h₂, by simp [MoneyManager.paidFor, h₁, h₂, Payout.isFor]⟩

end Simulator
