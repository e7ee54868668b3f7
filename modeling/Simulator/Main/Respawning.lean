import Simulator.Main.Game
import Simulator.State.SoldierRounds
import Mathlib.Algebra.Order.BigOperators.Group.List

/-!
# Death, respawn and immunity

The turns of one soldier, in any company: orders and damage before its update, whatever
its update finds behind its target pointer, more damage before its late update.

Four counters have to agree.  The late update in which a soldier dies enters the dead
state and already counts one turn down, so the soldier is dead at the end of `T` turns
with counters `T - 1` to `0`.  The update that respawns it sets the other counter to
`N + 1`, one of which is used up by the late update of the same turn; damage is ignored by
every late update that finds the soldier invulnerable, which are this one and the next `N`.
-/

namespace Simulator

open Foundation

variable {K : Type}

namespace Soldier

/-! ## Between the updates -/

/-- What may happen to a soldier between its updates. -/
inductive Event (K : Type) where
  | damage (damageAmount : ℤ)
  | move (destination : Vector K)
  | attack (attackTarget : ActorPtr)

namespace Event

/-- The soldier after the event. -/
def happen (s : Soldier K) : Event K → Soldier K
  | damage damageAmount => s.damage damageAmount
  | move destination => s.move destination
  | attack attackTarget => s.attack attackTarget

/-- The damage that is dealt. -/
def damageAmount : Event K → ℤ
  | damage damageAmount => damageAmount
  | move _ | attack _ => 0

/-- Damage is not negative, and `StateSyncer` accepts commands to living soldiers. -/
def Allowed (s : Soldier K) : Event K → Prop
  | damage damageAmount => 0 ≤ damageAmount
  | move _ | attack _ => s.hp ≠ 0

theorem Allowed.damageAmount_nonneg {s : Soldier K} {e : Event K} (h : e.Allowed s) :
    0 ≤ e.damageAmount := by
  cases e with
  | damage d => exact h
  | move _ | attack _ => exact le_rfl

end Event

/-- What happens to a soldier in a turn. -/
structure TurnEvents (K : Type) where
  /-- Before its update. -/
  before : List (Event K)
  /-- The object its update finds behind its target pointer. -/
  target : Option (Actor K)
  moneyManager : MoneyManager
  /-- The damage dealt between its update and its late update. -/
  after : List ℤ

/-- The damage dealt in the turn. -/
def TurnEvents.dealt (e : TurnEvents K) : ℤ :=
  (e.before.map Event.damageAmount).sum + e.after.sum

/-- The soldier as its update finds it. -/
def TurnEvents.met (e : TurnEvents K) (s : Soldier K) : Soldier K := e.before.foldl Event.happen s

variable {c : Constants K} {s s' : Soldier K} {e : TurnEvents K}

theorem foldl_damage {ds : List ℤ} (hds : ∀ d ∈ ds, 0 ≤ d) (hle : s.damageIncurred ≤ s.hp) :
    ds.foldl damage s = { s with damageIncurred := min s.hp (s.damageIncurred + ds.sum) } := by
  induction ds generalizing s with
  | nil => simp [hle]
  | cons d ds ih =>
    have hd := hds d (List.mem_cons_self ..)
    have hrest : 0 ≤ ds.sum := List.sum_nonneg fun d hd => hds d (List.mem_cons_of_mem _ hd)
    rw [List.foldl_cons, ih (fun d hd => hds d (List.mem_cons_of_mem _ hd)) (min_le_left _ _)]
    have hsum : min s.hp (min s.hp (s.damageIncurred + d) + ds.sum) =
        min s.hp (s.damageIncurred + (d + ds.sum)) := by omega
    simp only [damage, List.sum_cons, hsum]

theorem Orderly.foldl_damage (h : s.Orderly c) {ds : List ℤ} (hds : ∀ d ∈ ds, 0 ≤ d) :
    (ds.foldl Soldier.damage s).Orderly c := by
  induction ds generalizing s with
  | nil => exact h
  | cons d ds ih =>
    exact ih (h.damage (hds d (List.mem_cons_self ..))) fun d hd =>
      hds d (List.mem_cons_of_mem _ hd)

theorem Settled.foldl_damage (h : s.Settled) (ds : List ℤ) :
    (ds.foldl Soldier.damage s).Settled := by
  induction ds generalizing s with
  | nil => exact h
  | cons d ds ih => exact ih (h.damage d)

/-- The events before an update change the orders and the pending damage. -/
theorem exists_foldl_happen {events : List (Event K)} (h : ∀ e ∈ events, e.Allowed s)
    (horderly : s.Orderly c) :
    (events.foldl Event.happen s).Orderly c ∧ ∃ attackTarget destination isDestinationSet,
      events.foldl Event.happen s = { s with
        damageIncurred := min s.hp (s.damageIncurred + (events.map Event.damageAmount).sum)
        attackTarget, destination, isDestinationSet } := by
  induction events generalizing s with
  | nil =>
    exact ⟨horderly, s.attackTarget, s.destination, s.isDestinationSet, by
      simp [horderly.damage_le]⟩
  | cons e events ih =>
    have he := h e (List.mem_cons_self ..)
    have hrest : ∀ e ∈ events, e.Allowed s := fun e he => h e (List.mem_cons_of_mem _ he)
    have hnonneg : 0 ≤ (events.map Event.damageAmount).sum :=
      List.sum_nonneg fun d hd => by
        obtain ⟨e, he, rfl⟩ := List.mem_map.mp hd
        exact (hrest e he).damageAmount_nonneg
    have hle := horderly.damage_le
    rw [List.foldl_cons, List.map_cons, List.sum_cons]
    cases e with
    | damage d =>
      obtain ⟨horderly', t, v, b, heq⟩ := ih (s := s.damage d)
        (fun e he => by cases e <;> exact hrest _ he) (horderly.damage he)
      refine ⟨horderly', t, v, b, heq.trans ?_⟩
      have hsum : min s.hp (min s.hp (s.damageIncurred + d) +
          (events.map Event.damageAmount).sum) =
            min s.hp (s.damageIncurred + (d + (events.map Event.damageAmount).sum)) := by
        omega
      simp only [damage, Event.damageAmount, hsum]
    | move destination =>
      obtain ⟨horderly', t, v, b, heq⟩ := ih (s := s.move destination)
        (fun e he => by cases e <;> exact hrest _ he) (horderly.moveOrder he destination)
      exact ⟨horderly', t, v, b, heq.trans (by simp [move, Event.damageAmount])⟩
    | attack ptr =>
      obtain ⟨horderly', t, v, b, heq⟩ := ih (s := s.attack ptr)
        (fun e he => by cases e <;> exact hrest _ he) (horderly.attackOrder he ptr)
      exact ⟨horderly', t, v, b, heq.trans (by simp [attack, Event.damageAmount])⟩

/-! ## A turn -/

section Turns

variable [Field K] [LinearOrder K] [SquareRoot K]

/-- One turn of a soldier. -/
def turn (c : Constants K) (e : TurnEvents K) (s : Soldier K) : Except Fault (Soldier K) := do
  let f ← update c { soldier := e.met s, target := e.target, moneyManager := e.moneyManager }
  let f ← lateUpdate c { f with soldier := e.after.foldl damage f.soldier }
  return f.soldier

/-- The soldier `s` plays a turn to its end: damage is not negative, commands are given to
living soldiers, and the update finds an object behind a target pointer that is set. -/
structure Plays (c : Constants K) (e : TurnEvents K) (s s' : Soldier K) : Prop where
  allowed : ∀ event ∈ e.before, event.Allowed s
  after_nonneg : ∀ d ∈ e.after, 0 ≤ d
  target_iff : e.target = none ↔ (e.met s).attackTarget = none
  turn_eq : turn c e s = .ok s'

/-- What holds of a soldier between two turns. -/
structure Resting (c : Constants K) (s : Soldier K) : Prop where
  orderly : s.Orderly c
  atRest : s.AtRest
  maxHp_pos : 0 < s.maxHp

omit [Field K] [LinearOrder K] [SquareRoot K] in
theorem Fresh.resting (h : s.Fresh) : s.Resting c :=
  ⟨h.orderly, h.atRest, h.hp_pos.trans_le h.hp_le⟩

/-- The counters an update leaves alone, unless the soldier respawns in it. -/
theorem counters_next (c : Constants K) (h : s.state ≠ .dead 0) (target : Option (Actor K)) :
    (s.next c target).numTurnsInvulnerable = s.numTurnsInvulnerable := by
  by_cases halive : s.state.isDead = false
  · rw [next_of_alive halive]
    split
    · split <;> rfl
    · split
      · rfl
      · split
        · rfl
        · split <;> rfl
  · obtain ⟨n, hn⟩ := SoldierState.exists_of_isDead (by simpa using halive)
    rw [next_of_dead hn, if_neg fun h0 => h (by rw [hn, h0])]

theorem soldier_of_update {f f' : Frame K} (h : f.Grounded c) (hmax : 0 < f.soldier.maxHp)
    (hok : update c f = .ok f') : f'.soldier = f.soldier.next c f.target := by
  rw [update_eq_map h hmax] at hok
  cases hpay : f.payForKill with
  | error fault => simp [hpay, Except.map] at hok
  | ok money =>
    rw [hpay] at hok
    rw [← Except.ok.inj hok]
    exact State.soldier_act c f

/-- The soldier before its late update. -/
def TurnEvents.hurt (c : Constants K) (e : TurnEvents K) (s : Soldier K) : Soldier K :=
  e.after.foldl damage ((e.met s).next c e.target)

/-- **What a turn does**: the update of the soldier that is met, the damage, the late
update. -/
theorem Plays.eq_finish (h : Plays c e s s') (hs : s.Resting c)
    (hT : 1 ≤ c.soldierTotalTurnsToRespawn) : s' = (e.hurt c s).finish c ∧ s'.Resting c ∧
      s'.playerId = s.playerId ∧ s'.maxHp = s.maxHp := by
  obtain ⟨hmet, t, v, b, hbody⟩ := exists_foldl_happen h.allowed hs.orderly
  have hmax : (e.met s).maxHp = s.maxHp := (congrArg Soldier.maxHp hbody :)
  have hplayer : (e.met s).playerId = s.playerId := (congrArg Soldier.playerId hbody :)
  have hmax' : 0 < (e.met s).maxHp := hmax.symm ▸ hs.maxHp_pos
  obtain ⟨hnext, hsettled⟩ := Orderly.next hmet hmax' h.target_iff
  have horderly : (e.hurt c s).Orderly c := hnext.foldl_damage h.after_nonneg
  have hsettled' : (e.hurt c s).Settled := hsettled.foldl_damage e.after
  -- the soldier is still the same one
  have hhurt := foldl_damage h.after_nonneg hnext.damage_le
  have hnextBuild := build_next c (e.met s) e.target
  have hfinishBuild := build_finish c (e.hurt c s)
  simp only [Prod.mk.injEq] at hnextBuild hfinishBuild
  have hsame : (e.hurt c s).playerId = s.playerId ∧ (e.hurt c s).maxHp = s.maxHp :=
    ⟨Eq.trans (congrArg Soldier.playerId hhurt :) (hnextBuild.2.1.trans hplayer),
      Eq.trans (congrArg Soldier.maxHp hhurt :) (hnextBuild.2.2.1.trans hmax)⟩
  have heq : s' = (e.hurt c s).finish c := by
    obtain ⟨f, hf, hlate⟩ := bind_eq_ok.mp h.turn_eq
    have hsoldier := soldier_of_update ⟨hmet, h.target_iff⟩ hmax' hf
    rw [hsoldier] at hlate
    have hrun := lateUpdate_eq (f := { f with soldier := e.hurt c s }) horderly hsettled' hT
    rw [show lateUpdate c { f with soldier := e.after.foldl damage _ } = _ from hrun,
      ok_bind] at hlate
    exact (Except.ok.inj hlate).symm
  rw [heq]
  refine ⟨rfl, ⟨(horderly.finish hsettled' hT).1, horderly.atRest_finish hsettled' hT, ?_⟩,
    hfinishBuild.2.1.trans hsame.1, hfinishBuild.2.2.1.trans hsame.2⟩
  rw [hfinishBuild.2.2.1, hsame.2]
  exact hs.maxHp_pos

/-! ## What a turn leaves -/

theorem Plays.hurt_spec (h : Plays c e s s') (hs : s.Resting c) (hstate : s.state ≠ .dead 0) :
    let w := e.hurt c s
    w.hp = s.hp ∧ w.latestHp = max 0 (s.hp - e.dealt) ∧ w.isInvulnerable = s.isInvulnerable ∧
      w.numTurnsInvulnerable = s.numTurnsInvulnerable := by
  obtain ⟨hmet, t, v, b, hbody⟩ := exists_foldl_happen h.allowed hs.orderly
  have hmetState : (e.met s).state ≠ .dead 0 := by
    rw [show (e.met s).state = s.state from (congrArg Soldier.state hbody :)]
    exact hstate
  have hmetHp : (e.met s).hp = s.hp := (congrArg Soldier.hp hbody :)
  have hmetDamage : (e.met s).damageIncurred =
      min s.hp (s.damageIncurred + (e.before.map Event.damageAmount).sum) :=
    (congrArg Soldier.damageIncurred hbody :)
  obtain ⟨hhp, hdamage, hinvulnerable, -⟩ := sameBody_next c hmetState e.target
  have hcounter := counters_next c hmetState e.target
  have hle : ((e.met s).next c e.target).damageIncurred ≤ ((e.met s).next c e.target).hp := by
    rw [hdamage, hhp, hmetDamage, hmetHp]
    exact min_le_left _ _
  have hhurt : e.hurt c s = _ := foldl_damage h.after_nonneg hle
  have hnonneg : 0 ≤ e.after.sum := List.sum_nonneg h.after_nonneg
  have hhurtHp : (e.hurt c s).hp = s.hp :=
    Eq.trans (congrArg Soldier.hp hhurt :) (hhp.trans hmetHp)
  have hhurtDamage : (e.hurt c s).damageIncurred = min ((e.met s).next c e.target).hp
      (((e.met s).next c e.target).damageIncurred + e.after.sum) :=
    (congrArg Soldier.damageIncurred hhurt :)
  refine ⟨hhurtHp, ?_,
    Eq.trans (congrArg Soldier.isInvulnerable hhurt :)
      (hinvulnerable.trans (congrArg Soldier.isInvulnerable hbody :)),
    Eq.trans (congrArg Soldier.numTurnsInvulnerable hhurt :)
      (hcounter.trans (congrArg Soldier.numTurnsInvulnerable hbody :))⟩
  rw [latestHp, hhurtHp, hhurtDamage, hdamage, hhp, hmetDamage, hmetHp,
    hs.atRest.damageIncurred_eq, TurnEvents.dealt]
  omega

theorem Plays.state_hurt (h : Plays c e s s') (hs : s.Resting c)  :
    (e.hurt c s).state = ((e.met s).next c e.target).state ∧ (e.met s).state = s.state := by
  obtain ⟨hmet, t, v, b, hbody⟩ := exists_foldl_happen h.allowed hs.orderly
  have hmax : (e.met s).maxHp = s.maxHp := (congrArg Soldier.maxHp hbody :)
  have hmax' : 0 < (e.met s).maxHp := hmax.symm ▸ hs.maxHp_pos
  have hnext := (Orderly.next hmet hmax' h.target_iff).1
  exact ⟨(congrArg Soldier.state (foldl_damage h.after_nonneg hnext.damage_le) :),
    (congrArg Soldier.state hbody :)⟩

variable (hT : 1 ≤ c.soldierTotalTurnsToRespawn)

include hT

/-- **A turn of a living soldier.**  An invulnerable one loses no hp and uses up a turn of
its immunity; any other loses what it is dealt, and is dead when nothing is left. -/
theorem Plays.alive (h : Plays c e s s') (hs : s.Resting c) (hhp : s.hp ≠ 0) :
    s'.hp = (if s.isInvulnerable then s.hp else max 0 (s.hp - e.dealt)) ∧
      s'.isInvulnerable = (s.isInvulnerable && s.numTurnsInvulnerable - 1 ≠ 0) ∧
      (s.isInvulnerable = true → s'.numTurnsInvulnerable = s.numTurnsInvulnerable - 1) ∧
      (s'.hp = 0 → s'.state = .dead (c.soldierTotalTurnsToRespawn - 1)) := by
  have halive := hs.orderly.state_ne_dead hhp
  have hstate : s.state ≠ .dead 0 := fun h0 => by simp [h0, SoldierState.isDead] at halive
  obtain ⟨hhurtHp, hlatest, hinvulnerable, hcounter⟩ := h.hurt_spec hs hstate
  obtain ⟨heq, -, -, -⟩ := h.eq_finish hs hT
  obtain ⟨himmune', hcounter'⟩ := immunity_finish c (e.hurt c s)
  rw [← heq, hinvulnerable, hcounter] at himmune' hcounter'
  refine ⟨?_, himmune', fun hi => by rw [hcounter', if_pos hi], ?_⟩
  · rw [heq, hp_finish, hinvulnerable, hhurtHp, hlatest]
  · intro hdead
    have hhurt : (e.hurt c s).state.isDead = false := by
      obtain ⟨hhurtState, hmetState⟩ := h.state_hurt hs
      rw [hhurtState]
      exact isDead_next_of_alive c (hmetState ▸ halive) e.target
    have hfinish := state_finish c (e.hurt c s)
    rw [← heq, if_pos ⟨hdead, hhurt⟩] at hfinish
    exact hfinish

theorem Plays.waits (h : Plays c e s s') (hs : s.Resting c) {n : ℤ} (hstate : s.state = .dead n)
    (hn : n ≠ 0) (hinvulnerable : s.isInvulnerable = false) :
    s'.state = .dead (n - 1) ∧ s'.hp = 0 ∧ s'.isInvulnerable = false := by
  have hhp : s.hp = 0 := hs.orderly.dead_iff.mp (by rw [hstate]; rfl)
  have hne : s.state ≠ .dead 0 := by
    rw [hstate]
    exact fun h0 => hn (SoldierState.dead.inj h0)
  obtain ⟨hhurtHp, hlatest, hhurtInvulnerable, -⟩ := h.hurt_spec hs hne
  obtain ⟨heq, hs', -, -⟩ := h.eq_finish hs hT
  obtain ⟨himmune', -⟩ := immunity_finish c (e.hurt c s)
  obtain ⟨hhurtState, hmetState⟩ := h.state_hurt hs
  rw [hstate] at hmetState
  rw [next_of_dead hmetState, if_neg hn] at hhurtState
  have hfinish := state_finish c (e.hurt c s)
  rw [if_neg (by rw [hhurtState]; simp [SoldierState.isDead]), hhurtState, ← heq] at hfinish
  refine ⟨hfinish, hs'.orderly.dead_iff.mp (by rw [hfinish]; rfl), ?_⟩
  rw [heq, himmune', hhurtInvulnerable, hinvulnerable]
  rfl

/-- **The turn of the respawn.**  Whatever is dealt, the soldier ends it with full hp. -/
theorem Plays.respawns (h : Plays c e s s') (hs : s.Resting c) (hstate : s.state = .dead 0) :
    s'.hp = s.maxHp ∧ s'.position = c.respawnPositions s.playerId ∧ s'.state.isDead = false ∧
      s'.isInvulnerable = decide (c.soldierNumTurnsInvulnerable ≠ 0) ∧
      s'.numTurnsInvulnerable = c.soldierNumTurnsInvulnerable := by
  obtain ⟨hmet, t, v, b, hbody⟩ := exists_foldl_happen h.allowed hs.orderly
  have hhp : s.hp = 0 := hs.orderly.dead_iff.mp (by rw [hstate]; rfl)
  obtain ⟨-, hmetState⟩ := h.state_hurt hs
  rw [hstate] at hmetState
  have hnext : (e.met s).next c e.target = (e.met s).respawned c := by
    rw [next_of_dead hmetState, if_pos rfl]
  have hmetMax : (e.met s).maxHp = s.maxHp := (congrArg Soldier.maxHp hbody :)
  have hmetPlayer : (e.met s).playerId = s.playerId := (congrArg Soldier.playerId hbody :)
  have hmetMove : (e.met s).isNewPositionSet = false :=
    Eq.trans (congrArg Soldier.isNewPositionSet hbody :) hs.atRest.isNewPositionSet_eq
  have hhurt := foldl_damage h.after_nonneg
    (Orderly.next hmet (hmetMax.symm ▸ hs.maxHp_pos) h.target_iff).1.damage_le
  change e.hurt c s = _ at hhurt
  rw [show (e.before.foldl Event.happen s).next c e.target = (e.met s).respawned c from hnext]
    at hhurt
  obtain ⟨heq, -, -, -⟩ := h.eq_finish hs hT
  obtain ⟨himmune', hcounter'⟩ := immunity_finish c (e.hurt c s)
  have hhurtInvulnerable : (e.hurt c s).isInvulnerable = true :=
    (congrArg Soldier.isInvulnerable hhurt :)
  have hhurtCounter : (e.hurt c s).numTurnsInvulnerable = c.soldierNumTurnsInvulnerable + 1 :=
    (congrArg Soldier.numTurnsInvulnerable hhurt :)
  have hhp' : s'.hp = s.maxHp := by
    rw [heq, hp_finish, hhurtInvulnerable, if_pos rfl, ← hmetMax]
    exact (congrArg Soldier.hp hhurt :)
  have hfinish : s' = (e.hurt c s).settled := by
    rw [heq, finish, if_neg]
    rintro ⟨hdead, -⟩
    rw [show (e.hurt c s).settled.hp = s'.hp by rw [heq, hp_finish]; rfl, hhp'] at hdead
    exact hs.maxHp_pos.ne' hdead
  refine ⟨hhp', ?_, ?_, ?_, ?_⟩
  · rw [hfinish, hhurt, ← hmetPlayer]
    show (if (e.met s).isNewPositionSet = true then _ else _) = _
    rw [hmetMove]
    rfl
  · rw [hfinish, hhurt]
    rfl
  · rw [heq, himmune', hhurtInvulnerable, hhurtCounter, Bool.true_and, add_sub_cancel_right]
  · rw [heq, hcounter', hhurtInvulnerable, if_pos rfl, hhurtCounter, add_sub_cancel_right]

/-! ## Runs -/

variable {s : ℕ → Soldier K} {e : ℕ → TurnEvents K}
  (hrun : ∀ k, Plays c (e k) (s k) (s (k + 1)))

include hrun

theorem resting_run (h₀ : (s 0).Resting c) (k : ℕ) :
    (s k).Resting c ∧ (s k).playerId = (s 0).playerId ∧ (s k).maxHp = (s 0).maxHp := by
  induction k with
  | zero => exact ⟨h₀, rfl, rfl⟩
  | succ k ih =>
    obtain ⟨hs, hplayer, hmax⟩ := ih
    obtain ⟨-, hs', hplayer', hmax'⟩ := (hrun k).eq_finish hs hT
    exact ⟨hs', hplayer'.trans hplayer, hmax'.trans hmax⟩

theorem dead_run (h₀ : (s 0).Resting c) {k : ℕ}
    (hstate : (s k).state = .dead (c.soldierTotalTurnsToRespawn - 1)) (hhp : (s k).hp = 0)
    (hinvulnerable : (s k).isInvulnerable = false) (j : ℕ)
    (hj : (j : ℤ) < c.soldierTotalTurnsToRespawn) :
    (s (k + j)).state = .dead (c.soldierTotalTurnsToRespawn - 1 - j) ∧ (s (k + j)).hp = 0 ∧
      (s (k + j)).isInvulnerable = false := by
  induction j with
  | zero => exact ⟨by simpa using hstate, hhp, hinvulnerable⟩
  | succ j ih =>
    obtain ⟨hstate, -, hinvulnerable⟩ := ih (by push_cast at hj; omega)
    obtain ⟨hstate', hhp', hinvulnerable'⟩ := (hrun (k + j)).waits hT
      (resting_run hT hrun h₀ (k + j)).1 hstate (by push_cast at hj; omega) hinvulnerable
    refine ⟨?_, hhp', hinvulnerable'⟩
    rw [← add_assoc, hstate']
    congr 1
    push_cast
    omega

theorem immune_run (h₀ : (s 0).Resting c) {k : ℕ} (hhp : (s k).hp = (s 0).maxHp)
    (hinvulnerable : (s k).isInvulnerable = decide (c.soldierNumTurnsInvulnerable ≠ 0))
    (hcounter : (s k).numTurnsInvulnerable = c.soldierNumTurnsInvulnerable) (j : ℕ)
    (hj : (j : ℤ) ≤ c.soldierNumTurnsInvulnerable) :
    (s (k + j)).hp = (s 0).maxHp ∧
      (s (k + j)).isInvulnerable = decide (c.soldierNumTurnsInvulnerable - j ≠ 0) ∧
      (s (k + j)).numTurnsInvulnerable = c.soldierNumTurnsInvulnerable - j := by
  induction j with
  | zero => exact ⟨hhp, by simpa using hinvulnerable, by simpa using hcounter⟩
  | succ j ih =>
    push_cast at hj
    obtain ⟨hhp, hinvulnerable, hcounter⟩ := ih (by omega)
    have himmune : (s (k + j)).isInvulnerable = true := by
      rw [hinvulnerable, decide_eq_true_iff]
      omega
    obtain ⟨hhp', hinvulnerable', hcounter', -⟩ := (hrun (k + j)).alive hT
      (resting_run hT hrun h₀ (k + j)).1 (by rw [hhp]; exact h₀.maxHp_pos.ne')
    rw [himmune, hcounter] at hinvulnerable'
    refine ⟨?_, ?_, ?_⟩
    · rw [← add_assoc, hhp', if_pos himmune, hhp]
    · rw [← add_assoc, hinvulnerable', Bool.true_and, Nat.cast_succ, sub_sub]
    · rw [← add_assoc, hcounter' himmune, hcounter, Nat.cast_succ, sub_sub]

/-- A soldier that has no immunity gets none before it dies. -/
theorem vulnerable_run (h₀ : (s 0).Resting c) {k : ℕ} (hinvulnerable : (s k).isInvulnerable = false)
    {m : ℕ} (hm : k ≤ m) (halive : ∀ j, k ≤ j → j ≤ m → (s j).hp ≠ 0) :
    (s m).isInvulnerable = false ∧ (s (m + 1)).hp = max 0 ((s m).hp - (e m).dealt) := by
  have himmune : (s m).isInvulnerable = false := by
    induction m, hm using Nat.le_induction with
    | base => exact hinvulnerable
    | succ m hm ih =>
      have hprev := ih fun j hj hjm => halive j hj (hjm.trans (Nat.le_succ m))
      obtain ⟨-, hnext, -, -⟩ := (hrun m).alive hT (resting_run hT hrun h₀ m).1
        (halive m hm (Nat.le_succ m))
      rw [hnext, hprev]
      rfl
  obtain ⟨hhp, -, -, -⟩ := (hrun m).alive hT (resting_run hT hrun h₀ m).1 (halive m hm le_rfl)
  exact ⟨himmune, by rw [hhp, himmune, if_neg Bool.false_ne_true]⟩

/-- **Death, respawn and immunity.**  A soldier that dies in a turn is dead at the end of it
and of `T` turns in all; in the next turn it is back, at its respawn position; it has full hp
at the end of this turn and of the next `N`, whatever it is dealt, and is invulnerable at the
end of all of them but the last; and from then on it loses what it is dealt. -/
theorem respawn_timing (hN : 0 ≤ c.soldierNumTurnsInvulnerable) (hfresh : (s 0).Fresh) {k : ℕ}
    (halive : (s k).hp ≠ 0) (hdies : (s (k + 1)).hp = 0) :
    let respawn := k + 1 + c.soldierTotalTurnsToRespawn.toNat
    let vulnerable := respawn + c.soldierNumTurnsInvulnerable.toNat
    (∀ m, k + 1 ≤ m → m < respawn → (s m).hp = 0 ∧ (s m).state.isDead = true) ∧
    ((s respawn).state.isDead = false ∧
      (s respawn).position = c.respawnPositions (s 0).playerId) ∧
    (∀ m, respawn ≤ m → m ≤ vulnerable →
      (s m).hp = (s 0).maxHp ∧ ((s m).isInvulnerable = true ↔ m < vulnerable)) ∧
    ∀ m, vulnerable ≤ m → (∀ j, respawn ≤ j → j ≤ m → (s j).hp ≠ 0) →
      (s m).isInvulnerable = false ∧ (s (m + 1)).hp = max 0 ((s m).hp - (e m).dealt) := by
  intro respawn vulnerable
  have h₀ := hfresh.resting (c := c)
  have hresting := resting_run hT hrun h₀
  -- the turn of the death
  obtain ⟨hhp, hinvulnerable, -, hdead⟩ := (hrun k).alive hT (hresting k).1 halive
  have hmortal : (s k).isInvulnerable = false := by
    by_contra himmune
    rw [if_pos (by simpa using himmune)] at hhp
    exact halive (hhp.symm.trans hdies)
  rw [hmortal, Bool.false_and] at hinvulnerable
  have hwait := dead_run hT hrun h₀ (hdead hdies) hdies hinvulnerable
  -- the turn of the respawn
  obtain ⟨T, hTeq⟩ := Int.eq_ofNat_of_zero_le (hT.trans' Int.one_nonneg)
  obtain ⟨N, hNeq⟩ := Int.eq_ofNat_of_zero_le hN
  have hrespawn : respawn = k + 1 + (T - 1) + 1 := by
    show k + 1 + c.soldierTotalTurnsToRespawn.toNat = _
    rw [hTeq]
    omega
  have hvulnerable : vulnerable = respawn + N := by
    show respawn + c.soldierNumTurnsInvulnerable.toNat = _
    rw [hNeq]
    rfl
  obtain ⟨hlast, -, -⟩ := hwait (T - 1) (by omega)
  rw [show c.soldierTotalTurnsToRespawn - 1 - ((T - 1 : ℕ) : ℤ) = 0 by omega] at hlast
  obtain ⟨hfull, hposition, hback, himmune, hcounter⟩ :=
    (hrun (k + 1 + (T - 1))).respawns hT (hresting _).1 hlast
  rw [← hrespawn, (hresting _).2.2] at hfull
  rw [← hrespawn, (hresting _).2.1] at hposition
  rw [← hrespawn] at hback himmune hcounter
  have hshield := immune_run hT hrun h₀ hfull himmune hcounter
  refine ⟨?_, ⟨hback, hposition⟩, ?_, ?_⟩
  · intro m hm hlt
    obtain ⟨j, rfl⟩ := Nat.exists_eq_add_of_le hm
    obtain ⟨hstate, hhp, -⟩ := hwait j (by omega)
    exact ⟨hhp, by rw [hstate]; rfl⟩
  · intro m hm hle
    obtain ⟨j, rfl⟩ := Nat.exists_eq_add_of_le hm
    obtain ⟨hhp, hflag, -⟩ := hshield j (by omega)
    refine ⟨hhp, ?_⟩
    rw [hflag, decide_eq_true_iff]
    omega
  · intro m hm hliving
    obtain ⟨-, hflag, -⟩ := hshield N hNeq.ge
    rw [← hvulnerable, decide_eq_false (by omega)] at hflag
    exact vulnerable_run hT hrun h₀ hflag hm fun j hj hjm =>
      hliving j ((Nat.le_add_right _ _).trans hj) hjm

end Turns

/-! ## Turns can be played -/

section Returns

variable [Field K] [LinearOrder K] [SquareRoot K]

/-- **A turn returns** when there is a reward for the target. -/
theorem Resting.exists_plays (hs : s.Resting c) (hT : 1 ≤ c.soldierTotalTurnsToRespawn)
    (hallowed : ∀ event ∈ e.before, event.Allowed s) (hafter : ∀ d ∈ e.after, 0 ≤ d)
    (htarget : e.target = none ↔ (e.met s).attackTarget = none)
    (hrewards : ∀ a, e.target = some a → e.moneyManager.Rewards a) : ∃ s', Plays c e s s' := by
  obtain ⟨hmet, t, v, b, hbody⟩ := exists_foldl_happen hallowed hs.orderly
  have hmax : (e.met s).maxHp = s.maxHp := (congrArg Soldier.maxHp hbody :)
  obtain ⟨hnext, hsettled⟩ := Orderly.next hmet (hmax.symm ▸ hs.maxHp_pos) htarget
  let f : Frame K := ⟨e.met s, e.target, e.moneyManager⟩
  have hupdate : update c f = .ok (f.act c) := by
    rw [update_eq_map (f := f) ⟨hmet, htarget⟩ (hmax.symm ▸ hs.maxHp_pos),
      Frame.payForKill_eq c hrewards]
    rfl
  have hlate := lateUpdate_eq (f := { f.act c with soldier := e.hurt c s })
    (hnext.foldl_damage hafter) (hsettled.foldl_damage e.after) hT
  refine ⟨(e.hurt c s).finish c, hallowed, hafter, htarget, ?_⟩
  have hsoldier : (f.act c).soldier = (e.met s).next c e.target := State.soldier_act c f
  rw [turn, hupdate, ok_bind, hsoldier]
  exact bind_eq_ok.mpr ⟨_, hlate, rfl⟩

/-- A turn in which a soldier is given no command, and is dealt `damageAmount`. -/
def blow (moneyManager : MoneyManager) (damageAmount : ℤ) : TurnEvents K where
  before := [.damage damageAmount]
  target := none
  moneyManager := moneyManager
  after := []

theorem attackTarget_hurt (hs : s.Orderly c)
    (htarget : s.attackTarget = none) (moneyManager : MoneyManager) {damageAmount : ℤ}
    (hd : 0 ≤ damageAmount) :
    (((blow moneyManager damageAmount).hurt c s).finish c).attackTarget = none := by
  by_contra hset
  obtain ⟨ptr, hptr⟩ := Option.ne_none_iff_exists'.mp hset
  have hdamaged : (s.damage damageAmount).Orderly c := hs.damage hd
  have hquiet : (s.damage damageAmount).attackTarget = none := htarget
  have hkept : (s.damage damageAmount).attackTarget = some ptr :=
    (State.attackTarget_next hdamaged ⟨fun _ => hquiet, fun _ => rfl⟩
      (show ((s.damage damageAmount).next c none).attackTarget = some ptr from
        attackTarget_of_finish hptr)).1
  rw [hquiet] at hkept
  cases hkept

/-- A fresh soldier can be dealt any damage, turn by turn. -/
theorem Fresh.exists_run (hfresh : s.Fresh) (hT : 1 ≤ c.soldierTotalTurnsToRespawn)
    (moneyManager : MoneyManager) {d : ℕ → ℤ} (hd : ∀ k, 0 ≤ d k) :
    ∃ run : ℕ → Soldier K, run 0 = s ∧
      ∀ k, Plays c (blow moneyManager (d k)) (run k) (run (k + 1)) := by
  refine exists_sequence (P := fun u => u.Resting c ∧ u.attackTarget = none)
    (R := fun k u u' => Plays c (blow moneyManager (d k)) u u') ?_
    ⟨hfresh.resting, hfresh.attackTarget_eq⟩
  rintro k u ⟨hu, htarget⟩
  have hallowed : ∀ event ∈ [Event.damage (d k)], event.Allowed u := by
    intro event hevent
    obtain rfl := List.mem_singleton.mp hevent
    exact hd k
  have hquiet : (none : Option (Actor K)) = none ↔ (u.damage (d k)).attackTarget = none :=
    ⟨fun _ => htarget, fun _ => rfl⟩
  obtain ⟨u', hplays⟩ : ∃ u', Plays c (blow moneyManager (d k)) u u' :=
    hu.exists_plays hT hallowed (fun _ h => absurd h List.not_mem_nil) hquiet
      fun _ h => absurd h (Option.some_ne_none _).symm
  obtain ⟨heq, hu', -, -⟩ := hplays.eq_finish hu hT
  exact ⟨u', hplays, hu', heq ▸ attackTarget_hurt hu.orderly htarget moneyManager (hd k)⟩

end Returns

/-- In the small game a soldier has one hp, is dead for two turns and immune for two more; it
is dealt one hp in every turn, and so dies in the first and in the sixth. -/
theorem respawn_timing_sample : ∃ run : ℕ → Soldier ℚ,
    run 0 = buildSoldier sampleRules.toConstants .player1 0 ∧
    (∀ k, Plays sampleRules.toConstants (blow (buildMoneyManager sampleRules.toConstants) 1)
      (run k) (run (k + 1))) ∧
    (run 2).hp = 0 ∧ (run 3).hp = 1 ∧ (run 5).hp = 1 ∧ (run 5).isInvulnerable = false ∧
    (run 6).hp = 0 := by
  set c : Constants ℚ := sampleRules.toConstants
  have hfresh : (buildSoldier c .player1 0).Fresh :=
    ⟨by decide, by decide, by decide, rfl, rfl, rfl, rfl, rfl⟩
  obtain ⟨run, h₀, hrun⟩ := hfresh.exists_run (c := c) (by decide) (buildMoneyManager c)
    (d := fun _ => 1) fun _ => by decide
  have halive : (run 0).hp ≠ 0 := by rw [h₀]; decide
  obtain ⟨hhp, -, -, -⟩ := (hrun 0).alive (by decide) (h₀ ▸ hfresh.resting) halive
  have hdies : (run 1).hp = 0 := by rw [hhp, h₀]; decide
  obtain ⟨hdead, -, hshield, hlast⟩ := respawn_timing (c := c) (by decide) hrun (by decide)
    (h₀ ▸ hfresh) halive hdies
  have hfull : (run 0).maxHp = 1 := by rw [h₀]; rfl
  have h3 := hshield 3 (by decide) (by decide)
  have h4 := hshield 4 (by decide) (by decide)
  have h5 := hshield 5 (by decide) (by decide)
  rw [hfull] at h3 h4 h5
  obtain ⟨hflag, h6⟩ := hlast 5 (by decide) fun j hj hjm => by
    obtain rfl | rfl | rfl : j = 3 ∨ j = 4 ∨ j = 5 := by
      have hj : 3 ≤ j := hj
      omega
    · rw [h3.1]; decide
    · rw [h4.1]; decide
    · rw [h5.1]; decide
  rw [h5.1] at h6
  exact ⟨run, h₀, hrun, (hdead 2 (by decide) (by decide)).1, h3.1, h5.1, hflag, h6⟩

end Soldier

end Simulator
