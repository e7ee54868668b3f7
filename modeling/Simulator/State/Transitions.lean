import Simulator.State.SoldierUpdates

/-!
# The transition loop of a soldier ends

`Soldier::Update` switches states until one of them does its work for the turn.  The
states can follow one another in cycles, and what breaks the cycles is not in their names:
leaving `MOVE` gives up the destination, leaving `ATTACK` or `PURSUIT` for another order
or for a dead target gives up the target, and respawning gives up both.

`Stops c n f result` is a run of the loop with `n` switches.  The lemmas go from the
states without orders to those with two, each of which comes down to the ones before:
a soldier that is engaged with a target switches once at most, one that moves twice, and
one that is idle three times.
-/

namespace Simulator

open Foundation

namespace Soldier

variable {K : Type} [Field K] [LinearOrder K] [SquareRoot K]

/-- The loop of `Soldier::Update` from a frame whose state is to be updated, with the
number of switches and the result.  It ends when an update answers no state, or when the
reward for a kill throws; the target was there, in that case. -/
inductive Stops (c : Constants K) : ℕ → Frame K → Except Fault (Frame K) → Prop
  | done {f f' : Frame K} : SoldierState.update f = .ok (f', none) → Stops c 0 f (.ok f')
  | throws {f : Frame K} {a : Actor K} {e : Fault} : f.soldier.state = .attack →
      f.attackTarget = .ok a →
      f.moneyManager.rewardKill (a.damage f.soldier.attackDamage) = .error e →
      SoldierState.update f = .error e → Stops c 0 f (.error e)
  | switches {n : ℕ} {f f' : Frame K} {newState : SoldierState} {s : Soldier K}
      {result : Except Fault (Frame K)} : SoldierState.update f = .ok (f', some newState) →
      SoldierState.exit c f'.soldier = .ok s →
      Stops c n { f' with soldier := { s with state := SoldierState.enter c newState } } result →
      Stops c (n + 1) f result

/-- The loop stops after so many switches at most. -/
def StopsWithin (c : Constants K) (n : ℕ) (f : Frame K) : Prop :=
  ∃ k ≤ n, ∃ result, Stops c k f result

variable {c : Constants K} {f f' : Frame K} {n : ℕ}

theorem Stops.transitions_eq {result : Except Fault (Frame K)} (h : Stops c n f result) {fuel : ℕ}
    (hn : n ≤ fuel) : (SoldierState.update f >>= transitions c fuel) = result := by
  induction h generalizing fuel with
  | done hupdate =>
    rw [hupdate, ok_bind]
    cases fuel <;> rfl
  | throws _ _ _ hupdate => rw [hupdate]; rfl
  | switches hupdate hexit _ ih =>
    obtain ⟨fuel, rfl⟩ : ∃ m, fuel = m + 1 := ⟨fuel - 1, by omega⟩
    rw [hupdate, ok_bind, transitions, SoldierState.switchTo, hexit]
    exact ih (by omega)

theorem StopsWithin.mono (h : StopsWithin c n f) {m : ℕ} (hn : n ≤ m) : StopsWithin c m f := by
  obtain ⟨k, hk, result, hstops⟩ := h
  exact ⟨k, hk.trans hn, result, hstops⟩

theorem stopsWithin_of_done (f' : Frame K) (h : SoldierState.update f = .ok (f', none)) :
    StopsWithin c 0 f :=
  ⟨0, le_rfl, _, .done h⟩

theorem stopsWithin_of_switch (f' : Frame K) (newState : SoldierState) (s : Soldier K)
    (h : SoldierState.update f = .ok (f', some newState))
    (hexit : SoldierState.exit c f'.soldier = .ok s)
    (hrest : StopsWithin c n
      { f' with soldier := { s with state := SoldierState.enter c newState } }) :
    StopsWithin c (n + 1) f := by
  obtain ⟨k, hk, result, hstops⟩ := hrest
  exact ⟨k + 1, by omega, result, .switches h hexit hstops⟩

/-! ## Without orders -/

theorem stopsWithin_dead {remaining : ℤ} (hstate : f.soldier.state = .dead remaining)
    (hremaining : remaining ≠ 0) : StopsWithin c 0 f :=
  stopsWithin_of_done { f with soldier.state := .dead (remaining - 1) } (by
    rw [SoldierState.update, hstate]
    exact if_neg hremaining)

theorem stopsWithin_of_hp_eq_zero (hturns : 1 ≤ c.soldierTotalTurnsToRespawn)
    (halive : f.soldier.state.isDead = false) (hhp : f.soldier.hp = 0) : StopsWithin c 1 f := by
  have hturns' : c.soldierTotalTurnsToRespawn ≠ 0 := by omega
  cases hstate : f.soldier.state with
  | dead remaining => simp [hstate, SoldierState.isDead] at halive
  | idle =>
    refine stopsWithin_of_switch f .newDead f.soldier ?_ ?_ (stopsWithin_dead rfl hturns')
    · simp [SoldierState.update, SoldierState.updateIdle, hstate, hhp]
    · simp [SoldierState.exit, hstate]
  | move =>
    refine stopsWithin_of_switch f .newDead { f.soldier with isDestinationSet := false } ?_ ?_
      (stopsWithin_dead rfl hturns')
    · simp [SoldierState.update, SoldierState.updateMove, hstate, hhp]
    · simp [SoldierState.exit, hstate]
  | attack =>
    refine stopsWithin_of_switch f.clearAttackTarget .newDead f.clearAttackTarget.soldier ?_ ?_
      (stopsWithin_dead rfl hturns')
    · simp [SoldierState.update, SoldierState.updateAttack, hstate, hhp]
    · simp [SoldierState.exit, Frame.clearAttackTarget, hstate]
  | pursuit =>
    refine stopsWithin_of_switch f.clearAttackTarget .newDead f.clearAttackTarget.soldier ?_ ?_
      (stopsWithin_dead rfl hturns')
    · simp [SoldierState.update, SoldierState.updatePursuit, hstate, hhp]
    · simp [SoldierState.exit, Frame.clearAttackTarget, hstate]

theorem stopsWithin_quiet (hstate : f.soldier.state = .idle) (hhp : f.soldier.hp ≠ 0)
    (hdest : f.soldier.isDestinationSet = false) (htarget : f.soldier.attackTarget = none) :
    StopsWithin c 0 f :=
  stopsWithin_of_done f (by
    simp [SoldierState.update, SoldierState.updateIdle, hstate, hhp, hdest, htarget])

/-- A soldier whose dead state has run out respawns, and has no orders then. -/
theorem stopsWithin_respawn (hmax : 0 < f.soldier.maxHp) (hstate : f.soldier.state = .dead 0) :
    StopsWithin c 1 f := by
  refine stopsWithin_of_switch f .idle { f.soldier.respawned c with state := .dead 0 } ?_ ?_
    (stopsWithin_quiet rfl (ne_of_gt hmax) rfl rfl)
  · simp [SoldierState.update, SoldierState.updateDead, hstate]
  · simp [SoldierState.exit, SoldierState.exitDead, Soldier.setHp, checkHp_eq_ok hmax.le le_rfl,
      hstate, respawned, makeInvulnerable]

/-! ## With a target -/

/-- The soldier is alive, has a target and no destination, and its target is there. -/
structure Engaged (f : Frame K) (a : Actor K) : Prop where
  hp : f.soldier.hp ≠ 0
  dest : f.soldier.isDestinationSet = false
  target : f.attackTarget = .ok a

omit [Field K] [LinearOrder K] [SquareRoot K] in
theorem Engaged.isSome {a : Actor K} (h : Engaged f a) : f.soldier.attackTarget.isSome = true := by
  have htarget := h.target
  unfold Frame.attackTarget at htarget
  split at htarget
  · rename_i hptr _
    rw [hptr]
    rfl
  · cases htarget

theorem Engaged.isAttackTargetInRange {a : Actor K} (h : Engaged f a) :
    f.isAttackTargetInRange = .ok (decide (f.soldier.Reaches a)) := by
  obtain ⟨ptr, hptr⟩ := Option.isSome_iff_exists.mp h.isSome
  simp only [Frame.isAttackTargetInRange, hptr, h.target, ok_bind, pure_eq_ok]
  rfl

theorem Engaged.stopsWithin_giveUp {a : Actor K} (h : Engaged f a)
    (hstate : f.soldier.state = .attack ∨ f.soldier.state = .pursuit) (hdead : a.latestHp = 0) :
    StopsWithin c 1 f := by
  have hquiet : StopsWithin c 0 { f.clearAttackTarget with
      soldier := { f.clearAttackTarget.soldier with state := SoldierState.enter c .idle } } :=
    stopsWithin_quiet rfl h.hp h.dest rfl
  refine stopsWithin_of_switch _ _ _ ?_ ?_ hquiet
  · rcases hstate with hstate | hstate
    · simp [SoldierState.update, SoldierState.updateAttack, hstate, h.hp, h.dest, h.target, hdead]
    · simp [SoldierState.update, SoldierState.updatePursuit, hstate, h.hp, h.dest, h.target, hdead]
  · rcases hstate with hstate | hstate <;>
      simp [SoldierState.exit, Frame.clearAttackTarget, hstate]

theorem Engaged.stopsWithin_hit {a : Actor K} (h : Engaged f a)
    (hstate : f.soldier.state = .attack) (hlive : a.latestHp ≠ 0) (hreach : f.soldier.Reaches a) :
    StopsWithin c 0 f := by
  by_cases hkill : (a.damage f.soldier.attackDamage).latestHp = 0
  · cases hreward : f.moneyManager.rewardKill (a.damage f.soldier.attackDamage) with
    | error e =>
      refine ⟨0, le_rfl, _, .throws hstate h.target hreward ?_⟩
      simp [SoldierState.update, SoldierState.updateAttack, hstate, h.hp, h.dest, h.target, hlive,
        h.isAttackTargetInRange, hreach, hkill, hreward, bind, Except.bind]
    | ok m =>
      refine stopsWithin_of_done { f with
        target := some (a.damage f.soldier.attackDamage), moneyManager := m } ?_
      simp [SoldierState.update, SoldierState.updateAttack, hstate, h.hp, h.dest, h.target, hlive,
        h.isAttackTargetInRange, hreach, hkill, hreward]
  · refine stopsWithin_of_done { f with
      target := some (a.damage f.soldier.attackDamage) } ?_
    simp [SoldierState.update, SoldierState.updateAttack, hstate, h.hp, h.dest, h.target, hlive,
      h.isAttackTargetInRange, hreach, hkill]

theorem Engaged.stopsWithin_pursue {a : Actor K} (h : Engaged f a)
    (hstate : f.soldier.state = .pursuit) (hlive : a.latestHp ≠ 0)
    (hreach : ¬ f.soldier.Reaches a) : StopsWithin c 0 f := by
  refine stopsWithin_of_done (f.stepTowards a.position) ?_
  simp [SoldierState.update, SoldierState.updatePursuit, hstate, h.hp, h.dest, h.target, hlive,
    h.isAttackTargetInRange, hreach]

/-- **A soldier that attacks or pursues** switches once at most. -/
theorem Engaged.stopsWithin {a : Actor K} (h : Engaged f a)
    (hstate : f.soldier.state = .attack ∨ f.soldier.state = .pursuit) : StopsWithin c 1 f := by
  by_cases hlive : a.latestHp = 0
  · exact h.stopsWithin_giveUp hstate hlive
  rcases hstate with hstate | hstate
  · by_cases hreach : f.soldier.Reaches a
    · exact (h.stopsWithin_hit hstate hlive hreach).mono (Nat.zero_le _)
    · have hpursuit : Engaged { f with
          soldier := { f.soldier with state := SoldierState.enter c .pursuit } } a :=
        ⟨h.hp, h.dest, h.target⟩
      refine stopsWithin_of_switch _ _ _ ?_ ?_ (hpursuit.stopsWithin_pursue rfl hlive hreach)
      · simp [SoldierState.update, SoldierState.updateAttack, hstate, h.hp, h.dest, h.target, hlive,
          h.isAttackTargetInRange, hreach]
      · simp [SoldierState.exit, hstate]
  · by_cases hreach : f.soldier.Reaches a
    · have hattack : Engaged { f with
          soldier := { f.soldier with state := SoldierState.enter c .attack } } a :=
        ⟨h.hp, h.dest, h.target⟩
      refine stopsWithin_of_switch _ _ _ ?_ ?_ (hattack.stopsWithin_hit rfl hlive hreach)
      · simp [SoldierState.update, SoldierState.updatePursuit, hstate, h.hp, h.dest, h.target,
          hlive, h.isAttackTargetInRange, hreach]
      · simp [SoldierState.exit, hstate]
    · exact (h.stopsWithin_pursue hstate hlive hreach).mono (Nat.zero_le _)

/-- The state to switch to for a target is one of the two. -/
theorem Engaged.pursueOrAttack_eq {a : Actor K} (hrange : f.isAttackTargetInRange =
    .ok (decide (f.soldier.Reaches a))) : ∃ newState, (newState = .attack ∨ newState = .pursuit) ∧
      SoldierState.pursueOrAttack f = .ok (f, some newState) := by
  by_cases hreach : f.soldier.Reaches a
  · exact ⟨.attack, .inl rfl, by simp [SoldierState.pursueOrAttack, hrange, hreach]⟩
  · exact ⟨.pursuit, .inr rfl, by simp [SoldierState.pursueOrAttack, hrange, hreach]⟩

/-- An idle soldier with a target and no destination goes for the target. -/
theorem Engaged.stopsWithin_idle {a : Actor K} (h : Engaged f a)
    (hstate : f.soldier.state = .idle) : StopsWithin c 2 f := by
  obtain ⟨newState, hnew, hupdate⟩ := pursueOrAttack_eq h.isAttackTargetInRange
  have hengaged : Engaged { f with
      soldier := { f.soldier with state := SoldierState.enter c newState } } a :=
    ⟨h.hp, h.dest, h.target⟩
  have henter : SoldierState.enter c newState = newState := by
    rcases hnew with rfl | rfl <;> rfl
  refine stopsWithin_of_switch _ _ _ ?_ ?_ (hengaged.stopsWithin (henter.symm ▸ hnew))
  · simp [SoldierState.update, SoldierState.updateIdle, hstate, h.hp, h.dest, h.isSome, hupdate]
  · simp [SoldierState.exit, hstate]

/-! ## With a destination -/

/-- A soldier without a target walks, or stops where it is. -/
theorem stopsWithin_move_of_none (hstate : f.soldier.state = .move) (hhp : f.soldier.hp ≠ 0)
    (htarget : f.soldier.attackTarget = none) : StopsWithin c 1 f := by
  by_cases hthere : f.soldier.position.Equal f.soldier.destination
  · refine stopsWithin_of_switch f .idle { f.soldier with isDestinationSet := false } ?_ ?_
      (stopsWithin_quiet rfl hhp rfl htarget)
    · simp [SoldierState.update, SoldierState.updateMove, hstate, hhp, htarget, hthere]
    · simp [SoldierState.exit, hstate]
  · refine (stopsWithin_of_done (f.stepTowards f.soldier.destination) ?_).mono
      (Nat.zero_le _)
    simp [SoldierState.update, SoldierState.updateMove, hstate, hhp, htarget, hthere]

/-- **A soldier that moves** switches twice at most: a target takes it out of the state. -/
theorem stopsWithin_move (hstate : f.soldier.state = .move) (hhp : f.soldier.hp ≠ 0)
    (htarget : f.soldier.attackTarget ≠ none → f.target ≠ none) : StopsWithin c 2 f := by
  cases hptr : f.soldier.attackTarget with
  | none => exact (stopsWithin_move_of_none hstate hhp hptr).mono (by omega)
  | some ptr =>
    obtain ⟨a, ha⟩ := Option.ne_none_iff_exists'.mp (htarget (by simp [hptr]))
    have hderef : f.attackTarget = .ok a := by simp [Frame.attackTarget, hptr, ha]
    have hrange : f.isAttackTargetInRange = .ok (decide (f.soldier.Reaches a)) := by
      simp only [Frame.isAttackTargetInRange, hptr, hderef, ok_bind, pure_eq_ok]
      rfl
    obtain ⟨newState, hnew, hupdate⟩ := Engaged.pursueOrAttack_eq hrange
    -- leaving the state gives up the destination
    have hengaged : Engaged { f with soldier := { f.soldier with
        isDestinationSet := false, state := SoldierState.enter c newState } } a :=
      ⟨hhp, rfl, by simp [Frame.attackTarget, hptr, ha]⟩
    have henter : SoldierState.enter c newState = newState := by
      rcases hnew with rfl | rfl <;> rfl
    refine stopsWithin_of_switch f newState { f.soldier with isDestinationSet := false } ?_ ?_
      (hengaged.stopsWithin (henter.symm ▸ hnew))
    · simp [SoldierState.update, SoldierState.updateMove, hstate, hhp, hptr, hupdate]
    · simp [SoldierState.exit, hstate]

/-- A soldier that attacks or pursues gives up its target for a destination. -/
theorem stopsWithin_of_dest (hstate : f.soldier.state = .attack ∨ f.soldier.state = .pursuit)
    (hhp : f.soldier.hp ≠ 0) (hdest : f.soldier.isDestinationSet = true) : StopsWithin c 2 f := by
  have hmove : StopsWithin c 1 { f.clearAttackTarget with
      soldier := { f.clearAttackTarget.soldier with state := SoldierState.enter c .move } } :=
    stopsWithin_move_of_none rfl hhp rfl
  refine stopsWithin_of_switch _ _ _ ?_ ?_ hmove
  · rcases hstate with hstate | hstate
    · simp [SoldierState.update, SoldierState.updateAttack, hstate, hhp, hdest]
    · simp [SoldierState.update, SoldierState.updatePursuit, hstate, hhp, hdest]
  · rcases hstate with hstate | hstate <;>
      simp [SoldierState.exit, Frame.clearAttackTarget, hstate]

/-- **An idle soldier** switches three times at most. -/
theorem stopsWithin_idle (hstate : f.soldier.state = .idle) (hhp : f.soldier.hp ≠ 0)
    (htarget : f.soldier.attackTarget ≠ none → f.target ≠ none) : StopsWithin c 3 f := by
  cases hdest : f.soldier.isDestinationSet with
  | true =>
    refine stopsWithin_of_switch f .move f.soldier ?_ ?_
      (stopsWithin_move rfl hhp htarget)
    · simp [SoldierState.update, SoldierState.updateIdle, hstate, hhp, hdest]
    · simp [SoldierState.exit, hstate]
  | false =>
    cases hptr : f.soldier.attackTarget with
    | none => exact (stopsWithin_quiet hstate hhp hdest hptr).mono (Nat.zero_le _)
    | some ptr =>
      obtain ⟨a, ha⟩ := Option.ne_none_iff_exists'.mp (htarget (by simp [hptr]))
      have hengaged : Engaged f a := ⟨hhp, hdest, by simp [Frame.attackTarget, hptr, ha]⟩
      exact (hengaged.stopsWithin_idle hstate).mono (by omega)

/-! ## Every soldier -/

/-- **The loop of `Soldier::Update` stops after three switches at most**, and has the result
of the update.  The target pointer points to an actor when it is set, and a soldier that
attacks or pursues has an order. -/
theorem update_stops (hturns : 1 ≤ c.soldierTotalTurnsToRespawn) (hmax : 0 < f.soldier.maxHp)
    (htarget : f.soldier.attackTarget ≠ none → f.target ≠ none)
    (horders : f.soldier.state = .attack ∨ f.soldier.state = .pursuit →
      f.soldier.attackTarget ≠ none ∨ f.soldier.isDestinationSet = true) :
    ∃ n ≤ 3, ∃ result, Stops c n f result ∧ update c f = result := by
  suffices h : StopsWithin c 3 f by
    obtain ⟨n, hn, result, hstops⟩ := h
    exact ⟨n, hn, result, hstops, hstops.transitions_eq (hn.trans (by decide))⟩
  by_cases hdead : f.soldier.state.isDead = true
  · obtain ⟨remaining, hstate⟩ := SoldierState.exists_of_isDead hdead
    by_cases hremaining : remaining = 0
    · exact (stopsWithin_respawn hmax (hremaining ▸ hstate)).mono (by omega)
    · exact (stopsWithin_dead hstate hremaining).mono (Nat.zero_le _)
  by_cases hhp : f.soldier.hp = 0
  · exact (stopsWithin_of_hp_eq_zero hturns (by simpa using hdead) hhp).mono (by omega)
  have hengaged : f.soldier.state = .attack ∨ f.soldier.state = .pursuit → StopsWithin c 2 f := by
    intro hstate
    cases hdest : f.soldier.isDestinationSet with
    | true => exact stopsWithin_of_dest hstate hhp hdest
    | false =>
      have hptr := (horders hstate).resolve_right (by simp [hdest])
      obtain ⟨a, ha⟩ := Option.ne_none_iff_exists'.mp (htarget hptr)
      obtain ⟨ptr, hptr⟩ := Option.ne_none_iff_exists'.mp hptr
      have h : Engaged f a := ⟨hhp, hdest, by simp [Frame.attackTarget, hptr, ha]⟩
      exact (h.stopsWithin hstate).mono (by omega)
  cases hstate : f.soldier.state with
  | idle => exact stopsWithin_idle hstate hhp htarget
  | move => exact (stopsWithin_move hstate hhp htarget).mono (by omega)
  | attack => exact (hengaged (.inl hstate)).mono (by omega)
  | pursuit => exact (hengaged (.inr hstate)).mono (by omega)
  | dead remaining => simp [hstate, SoldierState.isDead] at hdead

/-- An idle soldier with both orders, whose target is a tower that has just been razed. -/
def sampleOrders : Frame ℚ where
  soldier := {
    id := 0
    playerId := .player1
    hp := 1
    maxHp := 1
    position := Vector.ofInt 1 1
    speed := 1
    attackRange := 10
    attackDamage := 1
    attackTarget := some (.tower .player2 3)
    destination := Vector.ofInt 5 5
    isDestinationSet := true
    newPosition := Vector.ofInt 0 0
    isNewPositionSet := false
    damageIncurred := 0
    state := .idle
    isInvulnerable := false
    numTurnsInvulnerable := 0 }
  target := some (.tower ⟨3, .player2, 0, 1, Vector.ofInt 7 7, true, 1⟩)
  moneyManager := {
    playerMoney := fun _ => 10
    maxMoney := 100
    towerKillRewardAmounts := [3, 5]
    soldierKillRewardAmount := 2
    towerSuicideRewardAmounts := [1, 2]
    payouts := fun _ => [] }

/-- It moves, attacks and is idle again. -/
theorem update_stops_sample :
    ∃ n ≤ 3, ∃ result, Stops sampleRules.toConstants n sampleOrders result ∧
      update sampleRules.toConstants sampleOrders = result :=
  update_stops (by decide) (by decide) (by decide) (by decide)

end Soldier

end Simulator
