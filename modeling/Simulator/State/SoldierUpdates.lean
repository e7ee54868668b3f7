import Simulator.State.SoldierStates

/-!
# What a soldier's update does

The state machine of a soldier goes through up to three states in one update, but
its outcome is simple.  A dead soldier counts down or respawns.  A soldier with a
destination takes a step, or stops if it is there.  A soldier with a target gives
it up if it is dead, hits it if it is in range, and otherwise steps towards it.
None of this depends on which of the four living states the soldier was in.

`Soldier.next` is that outcome for the soldier itself, `Soldier.Strikes` says when
the target is hit, and `Frame.act` puts the two together; `update_eq` says that
they are what `Soldier.update` computes.  `Soldier.finish` and `lateUpdate_eq` do
the same for the late update.

`Soldier.Sound` is what a soldier satisfies at all times: its hp is zero exactly
in the dead state, and it has at most one order, and one at least in a state that
acts on one.
-/

namespace Simulator

open Foundation

namespace MoneyManager

variable {K : Type}

/-- Pay for a kill. -/
def rewarded (m : MoneyManager) (a : Actor K) : MoneyManager :=
  m.pay a.playerId.opponent ((m.killRewardAmount a).toOption.getD 0) (killPayout a)

theorem rewarded_comm (m : MoneyManager) {a b : Actor K} (h : a.playerId ≠ b.playerId) :
    (m.rewarded a).rewarded b = (m.rewarded b).rewarded a := by
  have hne : b.playerId.opponent ≠ a.playerId.opponent := fun heq => h (by
    rw [← PlayerId.opponent_opponent a.playerId, ← heq, PlayerId.opponent_opponent])
  have hamount : ∀ (m : MoneyManager) (a b : Actor K),
      (m.rewarded a).killRewardAmount b = m.killRewardAmount b := fun _ _ b => by cases b <;> rfl
  rw [rewarded, hamount, rewarded, rewarded, hamount m b a, rewarded]
  exact pay_comm m hne ..

/-- There is a positive reward for killing the actor. -/
def Rewards (m : MoneyManager) (a : Actor K) : Prop :=
  ∃ amount, m.killRewardAmount a = .ok amount ∧ 0 < amount

theorem Rewards.rewardKill {m : MoneyManager} {a : Actor K} (h : m.Rewards a) :
    m.rewardKill a = .ok (m.rewarded a) := by
  obtain ⟨amount, ha, hpos⟩ := h
  exact rewardKill_eq_ok.mpr ⟨amount, ha, hpos, by simp [rewarded, ha, Except.toOption]⟩

theorem Rewards.damage {m : MoneyManager} {a : Actor K} (h : m.Rewards a) (damageAmount : ℤ) :
    m.Rewards (a.damage damageAmount) := by
  cases a <;> exact h

end MoneyManager

/-- The dead state comes with a number of turns to go. -/
theorem SoldierState.exists_of_isDead {state : SoldierState} (h : state.isDead = true) :
    ∃ n, state = .dead n := by
  cases state with
  | dead n => exact ⟨n, rfl⟩
  | idle | move | attack | pursuit => simp [isDead] at h

namespace Soldier

variable {K : Type}

/-- What holds of the soldier at index `i` of player `p` at all times. -/
structure Sound (c : Constants K) (p : PlayerId) (i : ℕ) (s : Soldier K) : Prop where
  id_eq : s.id = c.numSoldiers * p.index + i
  playerId_eq : s.playerId = p
  maxHp_eq : s.maxHp = c.soldierMaxHp
  speed_eq : s.speed = c.soldierSpeed
  attackRange_eq : s.attackRange = c.soldierAttackRange
  attackDamage_eq : s.attackDamage = c.soldierAttackDamage
  damage_nonneg : 0 ≤ s.damageIncurred
  damage_le : s.damageIncurred ≤ s.hp
  hp_le : s.hp ≤ c.soldierMaxHp
  dead_iff : s.state.isDead = true ↔ s.hp = 0
  remaining : ∀ n, s.state = .dead n → 0 ≤ n ∧ n < c.soldierTotalTurnsToRespawn
  /-- A dead soldier has no orders. -/
  dead_quiet : s.hp = 0 → s.attackTarget = none ∧ s.isDestinationSet = false
  /-- A soldier has at most one order. -/
  one_order : s.isDestinationSet = true → s.attackTarget = none
  /-- The states that act on an order have one. -/
  busy : s.hp ≠ 0 → s.state ≠ .idle → s.isDestinationSet = true ∨ s.attackTarget ≠ none

/-- What the state machine keeps up of a soldier, whatever soldier it is. -/
structure Orderly (c : Constants K) (s : Soldier K) : Prop where
  damage_nonneg : 0 ≤ s.damageIncurred
  damage_le : s.damageIncurred ≤ s.hp
  hp_le : s.hp ≤ s.maxHp
  dead_iff : s.state.isDead = true ↔ s.hp = 0
  remaining : ∀ n, s.state = .dead n → 0 ≤ n ∧ n < c.soldierTotalTurnsToRespawn
  /-- A dead soldier has no orders. -/
  dead_quiet : s.hp = 0 → s.attackTarget = none ∧ s.isDestinationSet = false
  /-- A soldier has at most one order. -/
  one_order : s.isDestinationSet = true → s.attackTarget = none
  /-- The states that act on an order have one. -/
  busy : s.hp ≠ 0 → s.state ≠ .idle → s.isDestinationSet = true ∨ s.attackTarget ≠ none

/-- The orders a soldier has after an update agree with its state. -/
structure Settled (s : Soldier K) : Prop where
  idle : s.state = .idle → s.attackTarget = none ∧ s.isDestinationSet = false
  move : s.state = .move → s.isDestinationSet = true
  engaged : s.state = .attack ∨ s.state = .pursuit → s.isDestinationSet = false

theorem Sound.orderly {c : Constants K} {p : PlayerId} {i : ℕ} {s : Soldier K}
    (h : s.Sound c p i) : s.Orderly c :=
  { h with hp_le := h.maxHp_eq ▸ h.hp_le }

/-- A soldier that is still the same one is sound if it is orderly. -/
theorem Sound.of_orderly {c : Constants K} {p : PlayerId} {i : ℕ} {s s' : Soldier K}
    (h : s.Sound c p i) (h' : s'.Orderly c)
    (hbuild : (s'.id, s'.playerId, s'.maxHp, s'.speed, s'.attackRange, s'.attackDamage) =
      (s.id, s.playerId, s.maxHp, s.speed, s.attackRange, s.attackDamage)) : s'.Sound c p i := by
  simp only [Prod.mk.injEq] at hbuild
  obtain ⟨hid, hplayer, hmaxHp, hspeed, hrange, hdamage⟩ := hbuild
  exact { h' with
    id_eq := hid.trans h.id_eq
    playerId_eq := hplayer.trans h.playerId_eq
    maxHp_eq := hmaxHp.trans h.maxHp_eq
    speed_eq := hspeed.trans h.speed_eq
    attackRange_eq := hrange.trans h.attackRange_eq
    attackDamage_eq := hdamage.trans h.attackDamage_eq
    hp_le := h'.hp_le.trans (hmaxHp.trans h.maxHp_eq).le }

theorem Orderly.hp_nonneg {c : Constants K} {s : Soldier K} (h : s.Orderly c) : 0 ≤ s.hp :=
  h.damage_nonneg.trans h.damage_le

theorem Sound.hp_nonneg {c : Constants K} {p : PlayerId} {i : ℕ} {s : Soldier K}
    (h : s.Sound c p i) : 0 ≤ s.hp :=
  h.orderly.hp_nonneg

/-- A dead soldier is in the dead state. -/
theorem Orderly.exists_dead {c : Constants K} {s : Soldier K} (h : s.Orderly c) (hhp : s.hp = 0) :
    ∃ n, s.state = .dead n :=
  SoldierState.exists_of_isDead (h.dead_iff.mpr hhp)

/-! ## The update -/

/-- The soldier on the turn it leaves the dead state. -/
def respawned (c : Constants K) (s : Soldier K) : Soldier K :=
  { { s with
      position := c.respawnPositions s.playerId
      hp := s.maxHp
      attackTarget := none
      isDestinationSet := false }.makeInvulnerable c with
    state := .idle }

variable [Field K] [LinearOrder K] [SquareRoot K]

/-- The actor is in attack range. -/
def Reaches (s : Soldier K) (a : Actor K) : Prop :=
  s.position.distance a.position ≤ Double.ofInt s.attackRange

instance (s : Soldier K) (a : Actor K) : Decidable (s.Reaches a) :=
  inferInstanceAs (Decidable (_ ≤ _))

/-- Step towards a position, in the late update. -/
def stepTowards (s : Soldier K) (dest : Vector K) : Soldier K :=
  s.setNewPosition (SimplePathPlanner.getNextPosition s.position dest s.speed)

/-- The soldier after its update, which finds `target` behind the target pointer. -/
def next (c : Constants K) (s : Soldier K) (target : Option (Actor K)) : Soldier K :=
  match s.state with
  | .dead remaining =>
    if remaining = 0 then s.respawned c else { s with state := .dead (remaining - 1) }
  | _ =>
    if s.isDestinationSet then
      if s.position.Equal s.destination then { s with state := .idle, isDestinationSet := false }
      else { s with state := .move }.stepTowards s.destination
    else
      match target with
      | none => s
      | some a =>
        if a.latestHp = 0 then { s with state := .idle, attackTarget := none }
        else if s.Reaches a then { s with state := .attack }
        else { s with state := .pursuit }.stepTowards a.position

/-- The update of the soldier hits its target `a`. -/
def Strikes (s : Soldier K) (a : Actor K) : Prop :=
  s.state.isDead = false ∧ s.isDestinationSet = false ∧ a.latestHp ≠ 0 ∧ s.Reaches a

instance (s : Soldier K) (a : Actor K) : Decidable (s.Strikes a) :=
  inferInstanceAs (Decidable (_ ∧ _))

end Soldier

namespace Frame

variable {K : Type} [Field K] [LinearOrder K] [SquareRoot K]

/-- What the update of a soldier leaves. -/
def act (c : Constants K) (f : Frame K) : Frame K :=
  let soldier := f.soldier.next c f.target
  match f.target with
  | none => { f with soldier }
  | some a =>
    if f.soldier.Strikes a then
      let a' := a.damage f.soldier.attackDamage
      { soldier, target := some a'
        moneyManager := if a'.latestHp = 0 then f.moneyManager.rewarded a' else f.moneyManager }
    else { f with soldier }

/-- The balances after the update: the kill, if there is one, is rewarded. -/
def payForKill (f : Frame K) : Except Fault MoneyManager :=
  match f.target with
  | none => .ok f.moneyManager
  | some a =>
    let a' := a.damage f.soldier.attackDamage
    if f.soldier.Strikes a ∧ a'.latestHp = 0 then f.moneyManager.rewardKill a'
    else .ok f.moneyManager

/-- The soldier of the frame is orderly, and a set target is really there. -/
structure Grounded (c : Constants K) (f : Frame K) : Prop where
  orderly : f.soldier.Orderly c
  target_iff : f.target = none ↔ f.soldier.attackTarget = none

/-- What the update of a soldier asks of its frame: a set target is really there,
and there is a reward for it. -/
structure Ready (c : Constants K) (p : PlayerId) (i : ℕ) (f : Frame K) : Prop where
  sound : f.soldier.Sound c p i
  target_iff : f.target = none ↔ f.soldier.attackTarget = none
  rewards : ∀ a, f.target = some a → f.moneyManager.Rewards a

/-- Where there is a reward, the kill is paid for. -/
theorem payForKill_eq (c : Constants K) {f : Frame K}
    (h : ∀ a, f.target = some a → f.moneyManager.Rewards a) :
    f.payForKill = .ok (f.act c).moneyManager := by
  cases ha : f.target with
  | none => simp only [payForKill, act, ha]
  | some a =>
    have hreward := ((h a ha).damage f.soldier.attackDamage).rewardKill
    by_cases hstrike : f.soldier.Strikes a
    · by_cases hkill : (a.damage f.soldier.attackDamage).latestHp = 0
      · simp [payForKill, act, ha, hstrike, hkill, hreward]
      · simp [payForKill, act, ha, hstrike, hkill]
    · simp [payForKill, act, ha, hstrike]

end Frame

namespace Soldier

variable {K : Type} [Field K] [LinearOrder K] [SquareRoot K]

/-- What an update leaves when the rewards come out as `money`. -/
theorem map_payForKill_of_not_strikes {c : Constants K} {f : Frame K}
    (h : ∀ a, f.target = some a → ¬ f.soldier.Strikes a) :
    f.payForKill.map (fun money => { f.act c with moneyManager := money }) = .ok (f.act c) := by
  cases ha : f.target with
  | none => simp [Frame.payForKill, Frame.act, ha, Except.map]
  | some a => simp [Frame.payForKill, Frame.act, ha, h a ha, Except.map]

theorem update_dead {c : Constants K} {f : Frame K} (h : f.Grounded c)
    (hmax : 0 < f.soldier.maxHp) {n : ℤ} (hd : f.soldier.state = .dead n) :
    update c f = .ok (f.act c) := by
  obtain ⟨s, target, money⟩ := f
  simp only at hd hmax
  have hdead : s.hp = 0 := h.orderly.dead_iff.mp (by simp [hd, SoldierState.isDead])
  obtain ⟨htarget, -⟩ := h.orderly.dead_quiet hdead
  obtain rfl : target = none := h.target_iff.mpr htarget
  have hset : checkHp s.maxHp s.maxHp = .ok s.maxHp := checkHp_eq_ok hmax.le le_rfl
  by_cases hn : n = 0
  · simp [update, SoldierState.update, SoldierState.updateDead, hd, hn, transitions, maxTransitions,
      SoldierState.switchTo, SoldierState.exit, SoldierState.exitDead, SoldierState.enter,
      Soldier.setHp, hset, SoldierState.updateIdle, makeInvulnerable, Frame.act, next, respawned,
      hmax.ne', bind, Except.bind, pure, Except.pure]
  · simp [update, SoldierState.update, SoldierState.updateDead, hd, hn, transitions, maxTransitions,
      Frame.act, next, bind, Except.bind]

theorem update_destination {c : Constants K} {f : Frame K} (h : f.Grounded c)
    (hhp : f.soldier.hp ≠ 0) (hdest : f.soldier.isDestinationSet = true) :
    update c f = .ok (f.act c) := by
  obtain ⟨s, target, money⟩ := f
  simp only at hhp hdest
  have halive := mt h.orderly.dead_iff.mp hhp
  have htarget : s.attackTarget = none := h.orderly.one_order hdest
  obtain rfl : target = none := h.target_iff.mpr htarget
  by_cases hpos : s.position.Equal s.destination <;> cases hstate : s.state with
  | dead n => simp [hstate, SoldierState.isDead] at halive
  | idle | move | attack | pursuit =>
    simp [update, SoldierState.update, SoldierState.updateIdle, SoldierState.updateMove,
      SoldierState.updateAttack, SoldierState.updatePursuit, transitions, maxTransitions,
      SoldierState.switchTo, SoldierState.exit, SoldierState.enter, Frame.clearAttackTarget,
      Frame.stepTowards, Frame.act, next, stepTowards, setNewPosition, hstate, hhp, hdest, htarget,
      hpos, bind, Except.bind]

theorem update_target {c : Constants K} {f : Frame K} (h : f.Grounded c)
    (hhp : f.soldier.hp ≠ 0) (hdest : f.soldier.isDestinationSet = false)
    {a : Actor K} (ha : f.target = some a) :
    update c f = f.payForKill.map fun money => { f.act c with moneyManager := money } := by
  obtain ⟨s, target, money⟩ := f
  simp only at hhp hdest ha
  subst ha
  have halive := mt h.orderly.dead_iff.mp hhp
  obtain ⟨ptr, hptr⟩ : ∃ ptr, s.attackTarget = some ptr :=
    Option.ne_none_iff_exists'.mp fun hn => by simpa using h.target_iff.mpr hn
  cases hreward : money.rewardKill (a.damage s.attackDamage) <;>
    by_cases hlatest : a.latestHp = 0 <;>
    by_cases hreach : s.position.distance a.position ≤ Double.ofInt s.attackRange <;>
    by_cases hkill : (a.damage s.attackDamage).latestHp = 0 <;> cases hstate : s.state with
  | dead n => simp [hstate, SoldierState.isDead] at halive
  | idle | move | attack | pursuit =>
    simp [update, SoldierState.update, SoldierState.updateIdle, SoldierState.updateMove,
      SoldierState.updateAttack, SoldierState.updatePursuit, SoldierState.pursueOrAttack,
      transitions, maxTransitions, SoldierState.switchTo, SoldierState.exit, SoldierState.enter,
      Frame.clearAttackTarget, Frame.isAttackTargetInRange, Frame.attackTarget, Frame.stepTowards,
      Frame.act, Frame.payForKill, next, stepTowards, setNewPosition, Strikes, Reaches,
      SoldierState.isDead, hstate, hhp, hdest, hptr, hlatest, hkill, hreward, hreach, bind,
      Except.bind, Except.map, pure, Except.pure]
    try (cases s; simp_all)

theorem update_quiet {c : Constants K} {f : Frame K} (h : f.Grounded c)
    (hhp : f.soldier.hp ≠ 0) (hdest : f.soldier.isDestinationSet = false)
    (ha : f.target = none) : update c f = .ok (f.act c) := by
  obtain ⟨s, target, money⟩ := f
  simp only at hhp hdest ha
  have htarget : s.attackTarget = none := h.target_iff.mp ha
  have hstate : s.state = .idle := by
    by_contra hne
    rcases h.orderly.busy hhp hne with hd | ht
    · simp [hdest] at hd
    · exact ht htarget
  simp [update, SoldierState.update, SoldierState.updateIdle, transitions, maxTransitions,
    Frame.act, next, hstate, hhp, hdest, htarget, ha, bind, Except.bind]

/-- **What the update of a soldier does**, up to the reward for a kill. -/
theorem update_eq_map {c : Constants K} {f : Frame K} (h : f.Grounded c)
    (hmax : 0 < f.soldier.maxHp) :
    update c f = f.payForKill.map fun money => { f.act c with moneyManager := money } := by
  by_cases hhp : f.soldier.hp = 0
  · obtain ⟨n, hn⟩ := h.orderly.exists_dead hhp
    rw [update_dead h hmax hn, map_payForKill_of_not_strikes fun a _ hstrikes => ?_]
    simpa [hn, SoldierState.isDead] using hstrikes.1
  · cases hdest : f.soldier.isDestinationSet with
    | true =>
      rw [update_destination h hhp hdest, map_payForKill_of_not_strikes fun a _ hstrikes => ?_]
      simpa [hdest] using hstrikes.2.1
    | false =>
      cases ha : f.target with
      | some a => exact update_target h hhp hdest ha
      | none =>
        rw [update_quiet h hhp hdest ha, map_payForKill_of_not_strikes fun a ha' => ?_]
        simp [ha] at ha'

/-- **What the update of a soldier does.** -/
theorem update_eq {c : Constants K} {p : PlayerId} {i : ℕ} {f : Frame K} (h : f.Ready c p i)
    (hmax : 0 < c.soldierMaxHp) : update c f = .ok (f.act c) := by
  rw [update_eq_map ⟨h.sound.orderly, h.target_iff⟩ (h.sound.maxHp_eq ▸ hmax),
    Frame.payForKill_eq c h.rewards]
  rfl

/-! ## The late update -/

omit [Field K] [LinearOrder K] [SquareRoot K] in
/-- The buffered move and the buffered damage take effect. -/
def settled (s : Soldier K) : Soldier K :=
  { s with
    position := if s.isNewPositionSet then s.newPosition else s.position
    isNewPositionSet := false
    hp := if s.isInvulnerable then s.hp else s.latestHp
    damageIncurred := 0
    numTurnsInvulnerable :=
      if s.isInvulnerable then s.numTurnsInvulnerable - 1 else s.numTurnsInvulnerable
    isInvulnerable := s.isInvulnerable && s.numTurnsInvulnerable - 1 ≠ 0 }

omit [Field K] [LinearOrder K] [SquareRoot K] in
/-- The soldier after its late update. -/
def finish (c : Constants K) (s : Soldier K) : Soldier K :=
  if s.settled.hp = 0 ∧ s.state.isDead = false then
    { s.settled with
      state := .dead (c.soldierTotalTurnsToRespawn - 1)
      attackTarget := none
      isDestinationSet := false }
  else s.settled

omit [Field K] [LinearOrder K] [SquareRoot K] in
theorem settle_eq {c : Constants K} {s : Soldier K} (h : s.Orderly c) :
    settle s = .ok s.settled := by
  have hset : checkHp s.latestHp s.maxHp = .ok s.latestHp :=
    checkHp_eq_ok (sub_nonneg.mpr h.damage_le) (by
      have := h.damage_nonneg
      have := h.hp_le
      rw [latestHp]
      omega)
  simp only [latestHp] at hset
  cases hn : s.isNewPositionSet <;> cases hv : s.isInvulnerable <;>
    simp [settle, settled, latestHp, setHp, hset, hn, hv, bind, Except.bind, pure, Except.pure]

/-- **What the late update of a soldier does**: it touches the soldier alone. -/
theorem lateUpdate_eq {c : Constants K} {f : Frame K} (h : f.soldier.Orderly c)
    (hs : f.soldier.Settled) (hT : 1 ≤ c.soldierTotalTurnsToRespawn) :
    lateUpdate c f = .ok { f with soldier := f.soldier.finish c } := by
  obtain ⟨s, target, money⟩ := f
  have hT0 : c.soldierTotalTurnsToRespawn ≠ 0 := by omega
  have hstate : s.settled.state = s.state := rfl
  have htarget : s.settled.attackTarget = s.attackTarget := rfl
  have hdest : s.settled.isDestinationSet = s.isDestinationSet := rfl
  rw [lateUpdate, settle_eq h, ok_bind]
  by_cases hdead : s.settled.hp = 0 ∧ s.state.isDead = false
  · obtain ⟨hhp, halive⟩ := hdead
    rw [if_pos ⟨hhp, by simp [hstate, halive]⟩]
    cases hst : s.state with
    | dead n => simp [hst, SoldierState.isDead] at halive
    | idle =>
      obtain ⟨ht, hd⟩ := hs.idle hst
      simp only at ht hd
      simp [SoldierState.update, SoldierState.updateIdle, SoldierState.switchTo, SoldierState.exit,
        SoldierState.enter, SoldierState.newDead, SoldierState.updateDead, SoldierState.isDead,
        finish, hstate, hst, hhp, hT0, ht, hd, htarget, hdest, bind, Except.bind, pure, Except.pure]
    | move =>
      have hd := hs.move hst
      have ht := h.one_order hd
      simp only at ht hd
      simp [SoldierState.update, SoldierState.updateMove, SoldierState.switchTo, SoldierState.exit,
        SoldierState.enter, SoldierState.newDead, SoldierState.updateDead, SoldierState.isDead,
        finish, hstate, hst, hhp, hT0, ht, htarget, bind, Except.bind, pure, Except.pure]
    | attack =>
      have hd := hs.engaged (.inl hst)
      simp only at hd
      simp [SoldierState.update, SoldierState.updateAttack, SoldierState.switchTo,
        SoldierState.exit, SoldierState.enter, SoldierState.newDead, SoldierState.updateDead,
        SoldierState.isDead, Frame.clearAttackTarget, finish, hstate, hst, hhp, hT0, hd, hdest,
        bind, Except.bind, pure, Except.pure]
    | pursuit =>
      have hd := hs.engaged (.inr hst)
      simp only at hd
      simp [SoldierState.update, SoldierState.updatePursuit, SoldierState.switchTo,
        SoldierState.exit, SoldierState.enter, SoldierState.newDead, SoldierState.updateDead,
        SoldierState.isDead, Frame.clearAttackTarget, finish, hstate, hst, hhp, hT0, hd, hdest,
        bind, Except.bind, pure, Except.pure]
  · rw [if_neg (by simpa [hstate] using hdead), finish, if_neg hdead]
    rfl

/-! ## The steps keep a soldier sound -/

section Orders

omit [Field K] [LinearOrder K] [SquareRoot K]

variable {c : Constants K} {p : PlayerId} {i : ℕ} {s : Soldier K}

theorem Orderly.state_ne_dead (h : s.Orderly c) (hhp : s.hp ≠ 0) : s.state.isDead = false := by
  simpa using mt h.dead_iff.mp hhp

theorem Sound.state_ne_dead (h : s.Sound c p i) (hhp : s.hp ≠ 0) : s.state.isDead = false :=
  h.orderly.state_ne_dead hhp

theorem Orderly.damage (h : s.Orderly c) {damageAmount : ℤ} (hd : 0 ≤ damageAmount) :
    (s.damage damageAmount).Orderly c :=
  { h with
    damage_nonneg := le_min h.hp_nonneg (add_nonneg h.damage_nonneg hd)
    damage_le := min_le_left _ _ }

theorem Sound.damage (h : s.Sound c p i) {damageAmount : ℤ} (hd : 0 ≤ damageAmount) :
    (s.damage damageAmount).Sound c p i :=
  h.of_orderly (h.orderly.damage hd) rfl

theorem Orderly.moveOrder (h : s.Orderly c) (hhp : s.hp ≠ 0) (destination : Vector K) :
    (s.move destination).Orderly c :=
  { h with
    dead_quiet := fun h0 => absurd h0 hhp
    one_order := fun _ => rfl
    busy := fun _ _ => .inl rfl }

theorem Sound.moveOrder (h : s.Sound c p i) (hhp : s.hp ≠ 0) (destination : Vector K) :
    (s.move destination).Sound c p i :=
  h.of_orderly (h.orderly.moveOrder hhp destination) rfl

theorem Orderly.attackOrder (h : s.Orderly c) (hhp : s.hp ≠ 0) (target : ActorPtr) :
    (s.attack target).Orderly c :=
  { h with
    dead_quiet := fun h0 => absurd h0 hhp
    one_order := fun hd => by simp [attack] at hd
    busy := fun _ _ => .inr (by simp [attack]) }

theorem Sound.attackOrder (h : s.Sound c p i) (hhp : s.hp ≠ 0) (target : ActorPtr) :
    (s.attack target).Sound c p i :=
  h.of_orderly (h.orderly.attackOrder hhp target) rfl

end Orders

theorem next_of_alive {c : Constants K} {s : Soldier K} (h : s.state.isDead = false)
    (target : Option (Actor K)) :
    s.next c target =
      if s.isDestinationSet then
        if s.position.Equal s.destination then { s with state := .idle, isDestinationSet := false }
        else { s with state := .move }.stepTowards s.destination
      else
        match target with
        | none => s
        | some a =>
          if a.latestHp = 0 then { s with state := .idle, attackTarget := none }
          else if s.Reaches a then { s with state := .attack }
          else { s with state := .pursuit }.stepTowards a.position := by
  cases hstate : s.state with
  | dead n => simp [hstate, SoldierState.isDead] at h
  | idle | move | attack | pursuit => simp only [next, hstate]

theorem next_of_dead {c : Constants K} {s : Soldier K} {n : ℤ} (h : s.state = .dead n)
    (target : Option (Actor K)) :
    s.next c target =
      if n = 0 then s.respawned c else { s with state := .dead (n - 1) } := by
  simp only [next, h]

omit [Field K] [LinearOrder K] [SquareRoot K] in
theorem Orderly.respawned {c : Constants K} {s : Soldier K} (h : s.Orderly c)
    (hmax : 0 < s.maxHp) (hdead : s.hp = 0) : (s.respawned c).Orderly c :=
  have hdamage : s.damageIncurred = 0 := le_antisymm (hdead ▸ h.damage_le) h.damage_nonneg
  { h with
    damage_le := by
      show s.damageIncurred ≤ s.maxHp
      omega
    hp_le := le_refl s.maxHp
    dead_iff := by
      show SoldierState.idle.isDead = true ↔ s.maxHp = 0
      simp [SoldierState.isDead, hmax.ne']
    remaining := fun n hn => by cases hn
    dead_quiet := fun _ => ⟨rfl, rfl⟩
    one_order := fun _ => rfl
    busy := fun _ hidle => absurd rfl hidle }

/-- A living soldier does not die in its update. -/
theorem isDead_next_of_alive (c : Constants K) {s : Soldier K} (h : s.state.isDead = false)
    (target : Option (Actor K)) : (s.next c target).state.isDead = false := by
  rw [next_of_alive h]
  split
  · split <;> rfl
  · split
    · exact h
    · split
      · rfl
      · split <;> rfl

theorem build_next (c : Constants K) (s : Soldier K) (target : Option (Actor K)) :
    let s' := s.next c target
    (s'.id, s'.playerId, s'.maxHp, s'.speed, s'.attackRange, s'.attackDamage) =
      (s.id, s.playerId, s.maxHp, s.speed, s.attackRange, s.attackDamage) := by
  cases hstate : s.state with
  | dead n =>
    rw [next_of_dead hstate]
    split <;> rfl
  | idle | move | attack | pursuit =>
    rw [next_of_alive (by rw [hstate]; rfl)]
    split
    · split <;> rfl
    · split
      · rfl
      · split
        · rfl
        · split <;> rfl

/-- **A soldier is orderly and settled after its update.** -/
theorem Orderly.next {c : Constants K} {s : Soldier K} (h : s.Orderly c) (hmax : 0 < s.maxHp)
    {target : Option (Actor K)} (htarget : target = none ↔ s.attackTarget = none) :
    (s.next c target).Orderly c ∧ (s.next c target).Settled := by
  by_cases hhp : s.hp = 0
  · obtain ⟨n, hn⟩ := h.exists_dead hhp
    rw [next_of_dead hn]
    split
    · exact ⟨h.respawned hmax hhp, fun _ => ⟨rfl, rfl⟩, nofun, nofun⟩
    · refine ⟨{ h with dead_iff := ?_, remaining := ?_, busy := ?_ }, nofun, nofun, nofun⟩
      · simp [SoldierState.isDead, hhp]
      · rintro m ⟨⟩
        have := h.remaining n hn
        omega
      · exact fun h0 => absurd hhp h0
  · have halive := h.state_ne_dead hhp
    have hstay : ∀ state : SoldierState, state.isDead = false → (state.isDead = true ↔ s.hp = 0) :=
      fun state hs => by simp [hs, hhp]
    rw [next_of_alive halive]
    by_cases hdest : s.isDestinationSet = true
    · rw [if_pos hdest]
      split
      · exact ⟨{ h with
          dead_iff := hstay _ rfl
          remaining := nofun
          dead_quiet := fun h0 => absurd h0 hhp
          one_order := nofun
          busy := fun _ hidle => absurd rfl hidle },
          fun _ => ⟨h.one_order hdest, rfl⟩, nofun, nofun⟩
      · exact ⟨{ h with
          dead_iff := hstay _ rfl
          remaining := nofun
          busy := fun _ _ => .inl hdest },
          nofun, fun _ => hdest, nofun⟩
    · rw [if_neg hdest]
      have hdest' : s.isDestinationSet = false := by simpa using hdest
      cases target with
      | none =>
        have hquiet : s.attackTarget = none := htarget.mp rfl
        have hidle : s.state = .idle := by
          by_contra hne
          exact (h.busy hhp hne).elim hdest fun ht => ht hquiet
        exact ⟨h, fun _ => ⟨hquiet, hdest'⟩, fun hm => by simp [hidle] at hm, fun _ => hdest'⟩
      | some a =>
        have hset : s.attackTarget ≠ none := fun hn => by simpa using htarget.mpr hn
        dsimp only
        split
        · exact ⟨{ h with
            dead_iff := hstay _ rfl
            remaining := nofun
            dead_quiet := fun h0 => absurd h0 hhp
            one_order := fun _ => rfl
            busy := fun _ hidle => absurd rfl hidle },
            fun _ => ⟨rfl, hdest'⟩, nofun, nofun⟩
        · split
          · exact ⟨{ h with
              dead_iff := hstay _ rfl
              remaining := nofun
              busy := fun _ _ => .inr hset }, nofun, nofun, fun _ => hdest'⟩
          · exact ⟨{ h with
              dead_iff := hstay _ rfl
              remaining := nofun
              busy := fun _ _ => .inr hset }, nofun, nofun, fun _ => hdest'⟩

/-- A soldier of a game is sound and settled after its update. -/
theorem Sound.next {c : Constants K} {p : PlayerId} {i : ℕ} {s : Soldier K} (h : s.Sound c p i)
    (hmax : 0 < c.soldierMaxHp) {target : Option (Actor K)}
    (htarget : target = none ↔ s.attackTarget = none) :
    (s.next c target).Sound c p i ∧ (s.next c target).Settled := by
  obtain ⟨horderly, hsettled⟩ := h.orderly.next (h.maxHp_eq ▸ hmax) htarget
  exact ⟨h.of_orderly horderly (build_next c s target), hsettled⟩

omit [Field K] [LinearOrder K] [SquareRoot K] in
theorem Settled.damage {s : Soldier K} (h : s.Settled) (damageAmount : ℤ) :
    (s.damage damageAmount).Settled :=
  ⟨h.idle, h.move, h.engaged⟩

section Finish

omit [Field K] [LinearOrder K] [SquareRoot K]

variable {c : Constants K} {s : Soldier K}

theorem build_finish (c : Constants K) (s : Soldier K) :
    let s' := s.finish c
    (s'.id, s'.playerId, s'.maxHp, s'.speed, s'.attackRange, s'.attackDamage) =
      (s.id, s.playerId, s.maxHp, s.speed, s.attackRange, s.attackDamage) := by
  unfold finish
  split <;> rfl

theorem hp_finish (c : Constants K) (s : Soldier K) :
    (s.finish c).hp = if s.isInvulnerable then s.hp else s.latestHp := by
  unfold finish
  split <;> rfl

theorem immunity_finish (c : Constants K) (s : Soldier K) :
    (s.finish c).isInvulnerable = (s.isInvulnerable && s.numTurnsInvulnerable - 1 ≠ 0) ∧
      (s.finish c).numTurnsInvulnerable =
        if s.isInvulnerable then s.numTurnsInvulnerable - 1 else s.numTurnsInvulnerable := by
  unfold finish
  split <;> exact ⟨rfl, rfl⟩

theorem state_finish (c : Constants K) (s : Soldier K) : (s.finish c).state =
    if (s.finish c).hp = 0 ∧ s.state.isDead = false then .dead (c.soldierTotalTurnsToRespawn - 1)
    else s.state := by
  rw [show (s.finish c).hp = s.settled.hp from hp_finish c s, finish]
  by_cases h : s.settled.hp = 0 ∧ s.state.isDead = false
  · rw [if_pos h, if_pos h]
  · rw [if_neg h, if_neg h]
    rfl

/-- **A soldier is orderly and settled after its late update.** -/
theorem Orderly.finish (h : s.Orderly c) (hs : s.Settled) (hT : 1 ≤ c.soldierTotalTurnsToRespawn) :
    (s.finish c).Orderly c ∧ (s.finish c).Settled := by
  have hhp : 0 ≤ s.settled.hp ∧ s.settled.hp ≤ s.hp := by
    have := h.damage_le
    have := h.damage_nonneg
    simp only [settled, latestHp]
    split <;> omega
  have hzero : s.hp = 0 → s.settled.hp = 0 := by omega
  unfold Soldier.finish
  split
  · rename_i hdead
    refine ⟨{ h with
      damage_nonneg := le_rfl
      damage_le := hhp.1
      hp_le := hhp.2.trans h.hp_le
      dead_iff := ?_
      remaining := ?_
      dead_quiet := fun _ => ⟨rfl, rfl⟩
      one_order := fun _ => rfl
      busy := fun h0 => absurd hdead.1 h0 }, nofun, nofun, nofun⟩
    · simp [SoldierState.isDead, hdead.1]
    · rintro n ⟨⟩
      omega
  · rename_i hdead
    have hiff : s.state.isDead = true ↔ s.settled.hp = 0 := by
      rw [h.dead_iff]
      refine ⟨hzero, ?_⟩
      intro h0
      by_contra hne
      exact hdead ⟨h0, h.state_ne_dead hne⟩
    refine ⟨{ h with
      damage_nonneg := le_rfl
      damage_le := hhp.1
      hp_le := hhp.2.trans h.hp_le
      dead_iff := hiff
      dead_quiet := fun h0 => h.dead_quiet (h.dead_iff.mp (hiff.mpr h0))
      busy := fun h0 => h.busy fun h1 => h0 (hzero h1) }, hs.idle, hs.move, hs.engaged⟩

/-- A soldier of a game is sound and settled after its late update. -/
theorem Sound.finish {p : PlayerId} {i : ℕ} (h : s.Sound c p i) (hs : s.Settled)
    (hT : 1 ≤ c.soldierTotalTurnsToRespawn) : (s.finish c).Sound c p i ∧ (s.finish c).Settled := by
  obtain ⟨horderly, hsettled⟩ := h.orderly.finish hs hT
  exact ⟨h.of_orderly horderly (build_finish c s), hsettled⟩

end Finish

omit [Field K] [LinearOrder K] [SquareRoot K] in
theorem attackTarget_of_finish {c : Constants K} {s : Soldier K} {ptr : ActorPtr}
    (h : (s.finish c).attackTarget = some ptr) : s.attackTarget = some ptr := by
  unfold finish at h
  split at h
  · simp at h
  · exact h

/-! ## What others see of a soldier -/

omit [Field K] [LinearOrder K] [SquareRoot K] in
/-- The two soldiers have the same hp, the same pending damage and the same
protection, and stand at the same place. -/
structure SameBody (s s' : Soldier K) : Prop where
  hp : s'.hp = s.hp
  damageIncurred : s'.damageIncurred = s.damageIncurred
  isInvulnerable : s'.isInvulnerable = s.isInvulnerable
  position : s'.position = s.position

omit [Field K] [LinearOrder K] [SquareRoot K] in
theorem SameBody.refl (s : Soldier K) : s.SameBody s := ⟨rfl, rfl, rfl, rfl⟩

/-- A soldier that is not about to respawn keeps its body in its update. -/
theorem sameBody_next (c : Constants K) {s : Soldier K}
    (h : s.state ≠ .dead 0) (target : Option (Actor K)) : s.SameBody (s.next c target) := by
  by_cases halive : s.state.isDead = false
  · rw [next_of_alive halive]
    split
    · split <;> exact ⟨rfl, rfl, rfl, rfl⟩
    · split
      · exact .refl s
      · split
        · exact ⟨rfl, rfl, rfl, rfl⟩
        · split <;> exact ⟨rfl, rfl, rfl, rfl⟩
  · obtain ⟨n, hn⟩ := SoldierState.exists_of_isDead (by simpa using halive)
    rw [next_of_dead hn, if_neg fun h0 => h (by rw [hn, h0])]
    exact ⟨rfl, rfl, rfl, rfl⟩

theorem name_next (c : Constants K) (s : Soldier K) (target : Option (Actor K)) :
    (s.next c target).id = s.id ∧ (s.next c target).playerId = s.playerId := by
  have hbuild := build_next c s target
  simp only [Prod.mk.injEq] at hbuild
  exact ⟨hbuild.1, hbuild.2.1⟩

/-- Damage that is taken before the update of a soldier and damage that is taken
after it are the same, unless the soldier respawns. -/
theorem next_damage (c : Constants K) {s : Soldier K} (h : s.state ≠ .dead 0)
    (target : Option (Actor K)) (damageAmount : ℤ) :
    (s.damage damageAmount).next c target = (s.next c target).damage damageAmount := by
  by_cases halive : s.state.isDead = false
  · rw [next_of_alive halive, next_of_alive (s := s.damage damageAmount) halive]
    change (if s.isDestinationSet = true then _ else _) = _
    split
    · change (if s.position.Equal s.destination then _ else _) = _
      split <;> rfl
    · cases target with
      | none => rfl
      | some a =>
        change (if a.latestHp = 0 then _ else if s.Reaches a then _ else _) = _
        dsimp only
        split
        · rfl
        · split <;> rfl
  · obtain ⟨n, hn⟩ := SoldierState.exists_of_isDead (by simpa using halive)
    have hn0 : n ≠ 0 := fun h0 => h (by rw [hn, h0])
    rw [next_of_dead hn, next_of_dead (s := s.damage damageAmount) hn, if_neg hn0, if_neg hn0]
    rfl

end Soldier

end Simulator
