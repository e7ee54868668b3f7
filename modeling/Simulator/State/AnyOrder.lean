import Simulator.State.Balances
import Simulator.State.Clashes
import Simulator.State.SoldierRounds

/-!
# The soldiers' phases in any order

The soldiers of both players are updated in an arbitrary order and then late-updated.  Hp, towers
and balances come out the same (`Arrayed.hp_fought`, `Arrayed.towerManagers_fought`,
`Arrayed.playerMoney_fought`).  Where a soldier ends up may depend on the order, in one way only:
it goes after a target that others finish off, and stops if they are through before it
(`Arrayed.position_fought`, `Arrayed.exists_position_ne`).

## Why the order can matter at all

The updates read and write one state, so that a soldier sees what those before it have done.  It
sees little of that: positions change in the late update only, and of an actor that has been hit
it sees that less hp is left.  A soldier asks for the hp of its target in one place, when it
decides whether there is something to fight.  So it matters to what it does whether the target has
been finished off, and how much it has been hit otherwise does not.

For the target nothing is at stake: a hit on an actor without hp changes nothing, and no hit is
paid for twice.  For the soldier it decides between standing still and a step after a target out
of range (`settlesAt_next`).  That is the one difference there is, and a soldier that acts on no
target, or has its target in range, is spared even that.

## How a permutation is dealt with

What the updates of a list of soldiers leave has a closed form (`Sound.clash`), with sums and
with the list itself in it.  The sums do not depend on the order.  Rewards are added with a cap and
wrap around, and commute nevertheless, unless an addition leaves the type under a smaller cap.
-/

namespace Simulator

open Foundation

variable {K : Type}

namespace Soldier

section Position

variable [Field K] [LinearOrder K] [SquareRoot K] {c : Constants K} {s : Soldier K} {a : Actor K}

omit [Field K] [LinearOrder K] [SquareRoot K] in
/-- Where the late update puts a soldier. -/
def settlesAt (s : Soldier K) : Vector K :=
  if s.isNewPositionSet then s.newPosition else s.position

omit [Field K] [LinearOrder K] [SquareRoot K] in
theorem position_finish (c : Constants K) (s : Soldier K) :
    (s.finish c).position = s.settlesAt := by
  unfold finish
  split <;> rfl

omit [Field K] [LinearOrder K] [SquareRoot K] in
theorem settlesAt_of_unmoved (h : s.isNewPositionSet = false) : s.settlesAt = s.position := by
  rw [settlesAt, h]
  rfl

/-- The soldier acts on its target: it is alive and not on its way somewhere. -/
def ActsOnTarget (s : Soldier K) : Prop := s.state.isDead = false ∧ s.isDestinationSet = false

instance (s : Soldier K) : Decidable s.ActsOnTarget := inferInstanceAs (Decidable (_ ∧ _))

/-- The soldier is to take a step after its target. -/
def Chases (s : Soldier K) (a : Actor K) : Prop :=
  s.ActsOnTarget ∧ a.latestHp ≠ 0 ∧ ¬ s.Reaches a ∧
    SimplePathPlanner.getNextPosition s.position a.position s.speed ≠ s.position

instance [DecidableEq K] (s : Soldier K) (a : Actor K) : Decidable (s.Chases a) :=
  inferInstanceAs (Decidable (_ ∧ _ ∧ _ ∧ _))

/-- **Where a soldier ends up that acts on its target**: it goes after one that is out
of range, unless it finds it finished off. -/
theorem settlesAt_next (hacts : s.ActsOnTarget) (hunmoved : s.isNewPositionSet = false) :
    (s.next c (some a)).settlesAt = if a.latestHp ≠ 0 ∧ ¬ s.Reaches a then
      SimplePathPlanner.getNextPosition s.position a.position s.speed else s.position := by
  have hstays : ∀ s' : Soldier K, s'.isNewPositionSet = s.isNewPositionSet →
      s'.position = s.position → s'.settlesAt = s.position := fun s' hset hposition => by
    rw [settlesAt_of_unmoved (hset.trans hunmoved), hposition]
  rw [next_of_alive hacts.1, hacts.2]
  simp only [Bool.false_eq_true, if_false]
  by_cases hlatest : a.latestHp = 0
  · rw [if_pos hlatest, if_neg fun h => h.1 hlatest]
    exact hstays _ rfl rfl
  · by_cases hreach : s.Reaches a
    · rw [if_neg hlatest, if_pos hreach, if_neg fun h => h.2 hreach]
      exact hstays _ rfl rfl
    · rw [if_neg hlatest, if_neg hreach, if_pos ⟨hlatest, hreach⟩]
      rfl

/-- A soldier that does not act on its target does not look at it. -/
theorem next_congr (hacts : ¬ s.ActsOnTarget) (target target' : Option (Actor K)) :
    s.next c target = s.next c target' := by
  by_cases halive : s.state.isDead = false
  · have hdest : s.isDestinationSet = true := by
      by_contra h
      exact hacts ⟨halive, by simpa using h⟩
    rw [next_of_alive halive, next_of_alive halive, if_pos hdest, if_pos hdest]
  · obtain ⟨n, hn⟩ := SoldierState.exists_of_isDead (by simpa using halive)
    rw [next_of_dead hn, next_of_dead hn]

/-- The body of a soldier after its update does not depend on what it has found. -/
theorem sameBody_next_next (c : Constants K) (s : Soldier K) (target target' : Option (Actor K)) :
    (s.next c target).SameBody (s.next c target') := by
  by_cases hdead : s.state = .dead 0
  · rw [next_of_dead hdead, next_of_dead hdead]
    exact .refl _
  · have h := sameBody_next c hdead target
    have h' := sameBody_next c hdead target'
    exact ⟨h'.hp.trans h.hp.symm, h'.damageIncurred.trans h.damageIncurred.symm,
      h'.isInvulnerable.trans h.isInvulnerable.symm, h'.position.trans h.position.symm⟩

omit [Field K] [LinearOrder K] [SquareRoot K] in
theorem SameBody.hp_finish {s' : Soldier K} (h : s.SameBody s') (c : Constants K) (d : ℤ) :
    ((s'.damage d).finish c).hp = ((s.damage d).finish c).hp := by
  have hhp : (s'.damage d).hp = (s.damage d).hp := h.hp
  have hinvulnerable : (s'.damage d).isInvulnerable = (s.damage d).isInvulnerable :=
    h.isInvulnerable
  have hlatest : (s'.damage d).latestHp = (s.damage d).latestHp := by
    simp only [damage, latestHp, h.hp, h.damageIncurred]
  rw [Soldier.hp_finish, Soldier.hp_finish, hhp, hinvulnerable, hlatest]

end Position

end Soldier

namespace State

variable [Field K] [LinearOrder K] [SquareRoot K]

/-- The soldiers' phases of an update. -/
def fight (c : Constants K) (st : State K) : Except Fault (State K) := do
  let st ← updateSoldiers c st
  lateUpdateSoldiers c st

example [FloorRing K] (c : Constants K) (st : State K) :
    update c st = PlayerId.all.foldlM (updateTowers c) st >>= fight c := rfl

/-- The soldiers' phases with the updates in the given order. -/
def fightInOrder (c : Constants K) (l : List (PlayerId × ℕ)) (st : State K) :
    Except Fault (State K) := do
  let st ← l.foldlM (fun st x => runSoldier (Soldier.update c) x.1 st x.2) st
  lateUpdateSoldiers c st

/-- The slots of all soldiers, in the order of the loops. -/
def slots (c : Constants K) : List (PlayerId × ℕ) := roster c PlayerId.all

/-- What the soldiers' phases leave when the soldiers are updated in the given order. -/
def fought (c : Constants K) (l : List (PlayerId × ℕ)) (st : State K) : State K :=
  (st.actAll c l).finishAll c (slots c)

section Slots

omit [Field K] [LinearOrder K] [SquareRoot K]

variable {c : Constants K}

theorem mem_slots {x : PlayerId × ℕ} : x ∈ slots c ↔ x.2 < c.numSoldiers := by
  rw [slots, mem_roster]
  exact and_iff_right (PlayerId.mem_all x.1)

theorem nodup_slots (c : Constants K) : (slots c).Nodup := nodup_roster c (by decide)

end Slots

variable [FloorRing K] {r : Ruleset K} {st : State K} {l l' : List (PlayerId × ℕ)}

/-! ## The phases return -/

theorem Sound.allSettled_actAll (h : st.Sound r.toConstants)
    (hl : ∀ x ∈ slots r.toConstants, x ∈ l) : (st.actAll r.toConstants l).AllSettled := by
  intro p i s hs
  exact (h.engaged_actAll (hl (p, i) (mem_slots.mpr ((h.actAll l).slot_lt hs))) s hs).1

theorem Sound.lateUpdate_actAll (h : st.Sound r.toConstants)
    (hl : ∀ x ∈ slots r.toConstants, x ∈ l) :
    lateUpdateSoldiers r.toConstants (st.actAll r.toConstants l) =
      .ok (st.fought r.toConstants l) :=
  (h.actAll l).foldlM_lateUpdate (h.allSettled_actAll hl) PlayerId.all

/-- **The soldiers' phases return**, in the order of the loops, -/
theorem Sound.fight_eq (h : st.Sound r.toConstants) :
    st.fight r.toConstants = .ok (st.fought r.toConstants (slots r.toConstants)) := by
  rw [fight, updateSoldiers, h.foldlM_update, ok_bind]
  exact h.lateUpdate_actAll fun _ hx => hx

/-- and in any other. -/
theorem Sound.fightInOrder_eq (h : st.Sound r.toConstants) (hl : l.Perm (slots r.toConstants)) :
    st.fightInOrder r.toConstants l = .ok (st.fought r.toConstants l) := by
  have hrun : l.foldlM (fun st x => runSoldier (Soldier.update r.toConstants) x.1 st x.2) st =
      .ok (st.actAll r.toConstants l) :=
    foldlM_eq_foldl (I := fun st : State K => st.Sound r.toConstants)
      (fun st' h' x hx => runSoldier_update h' (by
        rw [h'.length_soldiers]
        exact mem_slots.mp (hl.mem_iff.mp hx)))
      (fun _ h' x _ => h'.actEffect x.1 x.2) h
  rw [fightInOrder, hrun, ok_bind]
  exact h.lateUpdate_actAll fun x hx => hl.mem_iff.mpr hx

/-! ## What they leave -/

omit [FloorRing K] in
theorem Clash.getElem?_fought (h : Clash r.toConstants st l (st.actAll r.toConstants l))
    {x : PlayerId × ℕ} (hx : x ∈ slots r.toConstants) {u : Soldier K}
    (hu : (st.soldiers x.1)[x.2]? = some u) :
    ((st.fought r.toConstants l).soldiers x.1)[x.2]? =
      some (((st.acted r.toConstants l x u).damage
        (st.barrage l (.soldier x.1 x.2))).finish r.toConstants) := by
  rw [fought, getElem?_finishAll _ (nodup_slots _), h.soldier x u hu, Option.map_some, if_pos hx]

/-- What the soldiers' phases need of a state: it is sound, nobody's target is about to
respawn, no move is pending, and the balances are in their range. -/
structure Arrayed (r : Ruleset K) (st : State K) : Prop where
  sound : st.Sound r.toConstants
  attackable : ∀ z, st.Attackable z
  unmoved : st.AllAt fun s => s.isNewPositionSet = false
  bounded : st.moneyManager.Bounded r.toConstants

section Arrayed

theorem Arrayed.clash (h : st.Arrayed r) (hl : l.Perm (slots r.toConstants)) :
    Clash r.toConstants st l (st.actAll r.toConstants l) :=
  h.sound.clash h.attackable (hl.nodup_iff.mpr (nodup_slots _)) fun _ hx =>
    mem_slots.mp (hl.mem_iff.mp hx)

omit [SquareRoot K] in
theorem Arrayed.mem_slots (h : st.Arrayed r) {x : PlayerId × ℕ} {u : Soldier K}
    (hu : (st.soldiers x.1)[x.2]? = some u) : x ∈ slots r.toConstants :=
  State.mem_slots.mpr (h.sound.slot_lt hu)

/-- Something about all soldiers comes out the same in two orders if it does for each. -/
theorem Arrayed.map_fought_congr (h : st.Arrayed r) (hl : l.Perm (slots r.toConstants))
    (hl' : l'.Perm (slots r.toConstants)) {α : Type} (f : Soldier K → α)
    (hf : ∀ x u, (st.soldiers x.1)[x.2]? = some u →
      f (((st.acted r.toConstants l x u).damage
          (st.barrage l (.soldier x.1 x.2))).finish r.toConstants) =
        f (((st.acted r.toConstants l' x u).damage
          (st.barrage l' (.soldier x.1 x.2))).finish r.toConstants)) (p : PlayerId) :
    ((st.fought r.toConstants l).soldiers p).map f =
      ((st.fought r.toConstants l').soldiers p).map f := by
  have hlength : ∀ l, ((st.fought r.toConstants l).soldiers p).length = (st.soldiers p).length :=
    fun l => by
      rw [fought, finishAll_eq _ (nodup_slots _), length_soldiers_apply,
        (h.sound.actAll l).length_soldiers, h.sound.length_soldiers]
  refine List.ext_getElem? ?_
  intro i
  rw [List.getElem?_map, List.getElem?_map]
  cases hu : (st.soldiers p)[i]? with
  | none =>
    have hout := List.getElem?_eq_none_iff.mp hu
    rw [List.getElem?_eq_none (by rw [hlength]; exact hout),
      List.getElem?_eq_none (by rw [hlength]; exact hout)]
  | some u =>
    have hx := h.mem_slots (x := (p, i)) hu
    rw [(h.clash hl).getElem?_fought hx hu, (h.clash hl').getElem?_fought hx hu]
    exact congrArg some (hf (p, i) u hu)

/-- **Hp does not depend on the order.** -/
theorem Arrayed.hp_fought (h : st.Arrayed r) (hl : l.Perm (slots r.toConstants))
    (hl' : l'.Perm (slots r.toConstants)) (p : PlayerId) :
    ((st.fought r.toConstants l).soldiers p).map Soldier.hp =
      ((st.fought r.toConstants l').soldiers p).map Soldier.hp := by
  refine h.map_fought_congr hl hl' Soldier.hp ?_ p
  intro x u hu
  have hx := h.mem_slots hu
  rw [barrage_perm st (hl.trans hl'.symm), acted, acted, if_pos (hl.mem_iff.mpr hx),
    if_pos (hl'.mem_iff.mpr hx)]
  exact ((u.sameBody_next_next r.toConstants _ _).hp_finish _ _).symm

/-- **Towers do not depend on the order.** -/
theorem Arrayed.towerManagers_fought (h : st.Arrayed r) (hl : l.Perm (slots r.toConstants))
    (hl' : l'.Perm (slots r.toConstants)) :
    (st.fought r.toConstants l).towerManagers = (st.fought r.toConstants l').towerManagers := by
  rw [fought, fought, towerManagers_finishAll _ (nodup_slots _),
    towerManagers_finishAll _ (nodup_slots _)]
  ext q
  rw [(h.clash hl).tower, (h.clash hl').tower]
  exact TowerManager.mapTowers_congr fun t _ => by rw [barrage_perm st (hl.trans hl'.symm)]

omit [Field K] [LinearOrder K] [SquareRoot K] [FloorRing K] in
theorem payFor_eq {ptr : ActorPtr} {a : Actor K} (ha : st.deref ptr = some a) (m : MoneyManager) :
    st.payFor m ptr = m.rewarded a := by
  rw [payFor, ha]

omit [Field K] [LinearOrder K] [SquareRoot K] [FloorRing K] in
theorem unrecorded_payFor (st : State K) (m : MoneyManager) (ptr : ActorPtr) :
    (st.payFor m.unrecorded ptr).unrecorded = (st.payFor m ptr).unrecorded := by
  cases ha : st.deref ptr with
  | none => simp only [payFor, ha, MoneyManager.unrecorded]
  | some a =>
    rw [payFor_eq ha, payFor_eq ha]
    cases a <;> rfl

omit [SquareRoot K] in
theorem Arrayed.foldl_payFor_perm (h : st.Arrayed r) (hfit : r.RewardsFit)
    {fallen fallen' : List ActorPtr} (hperm : fallen.Perm fallen')
    (hderef : ∀ ptr ∈ fallen, ∃ a, st.deref ptr = some a) :
    (fallen.foldl st.payFor st.moneyManager).unrecorded =
      (fallen'.foldl st.payFor st.moneyManager).unrecorded := by
  have hhom : ∀ fallen : List ActorPtr,
      fallen.foldl (fun m ptr => (st.payFor m ptr).unrecorded) st.moneyManager.unrecorded =
        (fallen.foldl st.payFor st.moneyManager).unrecorded := fun fallen =>
    List.foldl_hom MoneyManager.unrecorded fun m ptr => st.unrecorded_payFor m ptr
  have hrewards : ∀ {m : MoneyManager} {ptr a}, m.HasTables r.toConstants →
      st.deref ptr = some a → m.Rewards a := fun {m ptr a} hm ha => by
    obtain ⟨amount, hamount, hpos⟩ := h.sound.rewards ha
    refine ⟨amount, ?_, hpos⟩
    rw [← hamount]
    unfold MoneyManager.killRewardAmount
    rw [hm.soldierKill, hm.towerKill, h.sound.tables.soldierKill, h.sound.tables.towerKill]
  rw [← hhom, ← hhom]
  refine foldl_perm (I := fun m : MoneyManager =>
    m.Bounded r.toConstants ∧ m.HasTables r.toConstants) hperm ?_ ?_ ?_
  · intro m hm ptr hptr
    obtain ⟨a, ha⟩ := hderef ptr hptr
    have hbounded := hm.1.rewarded a
    rw [payFor_eq ha]
    exact ⟨⟨hbounded.maxMoney, hbounded.le, hbounded.ge⟩, hm.2.towerKill, hm.2.soldierKill,
      hm.2.towerSuicide⟩
  · intro m hm ptr hptr ptr' hptr'
    obtain ⟨a, ha⟩ := hderef ptr hptr
    obtain ⟨a', ha'⟩ := hderef ptr' hptr'
    rw [unrecorded_payFor, unrecorded_payFor, payFor_eq ha, payFor_eq ha', payFor_eq ha,
      payFor_eq ha']
    exact MoneyManager.unrecorded_rewarded_comm hfit hm.1 hm.2 (hrewards hm.2 ha)
      (hrewards hm.2 ha')
  · exact ⟨⟨h.bounded.maxMoney, h.bounded.le, h.bounded.ge⟩, h.sound.tables.towerKill,
      h.sound.tables.soldierKill, h.sound.tables.towerSuicide⟩

/-- **Balances do not depend on the order**: the same actors are paid for. -/
theorem Arrayed.playerMoney_fought (h : st.Arrayed r) (hfit : r.RewardsFit)
    (hl : l.Perm (slots r.toConstants)) (hl' : l'.Perm (slots r.toConstants)) :
    (st.fought r.toConstants l).moneyManager.playerMoney =
      (st.fought r.toConstants l').moneyManager.playerMoney := by
  rw [fought, fought, moneyManager_finishAll _ (nodup_slots _),
    moneyManager_finishAll _ (nodup_slots _)]
  obtain ⟨fallen, hnodup, hmem, hmoney⟩ := (h.clash hl).money
  obtain ⟨fallen', hnodup', hmem', hmoney'⟩ := (h.clash hl').money
  have hperm : fallen.Perm fallen' := by
    refine (List.perm_ext_iff_of_nodup hnodup hnodup').mpr ?_
    intro ptr
    rw [hmem, hmem']
    unfold Falls
    rw [barrage_perm st (hl.trans hl'.symm)]
  have hbalances := h.foldl_payFor_perm hfit hperm fun ptr hptr => by
    obtain ⟨a, ha, -⟩ := (hmem ptr).mp hptr
    exact ⟨a, ha⟩
  rw [← hmoney, ← hmoney'] at hbalances
  exact (congrArg MoneyManager.playerMoney hbalances :)

/-! ## Where the soldiers end up -/

omit [FloorRing K] in
/-- **Where a soldier ends up that acts on its target**, when it is updated after the
soldiers of `l`. -/
theorem settlesAt_next_found {u : Soldier K} (hacts : u.ActsOnTarget)
    (hunmoved : u.isNewPositionSet = false) {ptr : ActorPtr} (hptr : u.attackTarget = some ptr)
    {a : Actor K} (ha : st.deref ptr = some a) (l : List (PlayerId × ℕ)) :
    (u.next r.toConstants (st.found l u)).settlesAt =
      if st.barrage l ptr < a.latestHp ∧ ¬ u.Reaches a then
        SimplePathPlanner.getNextPosition u.position a.position u.speed else u.position := by
  have hfound : st.found l u = some (a.damage (st.barrage l ptr)) := by
    rw [found, hptr, Option.bind_some, ha, Option.map_some]
  have hreaches : u.Reaches (a.damage (st.barrage l ptr)) ↔ u.Reaches a := by
    unfold Soldier.Reaches
    rw [Actor.position_damage]
  have hlatest : (a.damage (st.barrage l ptr)).latestHp ≠ 0 ↔ st.barrage l ptr < a.latestHp := by
    rw [Actor.latestHp_damage]
    omega
  rw [hfound, Soldier.settlesAt_next hacts hunmoved, Actor.position_damage]
  exact if_congr (and_congr hlatest (not_congr hreaches)) rfl rfl

/-- The soldiers do not finish off what one of them is to take a step after. -/
def SparesThePursued (c : Constants K) (st : State K) : Prop :=
  ∀ (x : PlayerId × ℕ) s ptr a, (st.soldiers x.1)[x.2]? = some s → s.attackTarget = some ptr →
    st.deref ptr = some a → s.Chases a → st.barrage (slots c) ptr < a.latestHp

theorem Sound.barrage_le (h : st.Sound r.toConstants) (hl : l.Sublist l') (ptr : ActorPtr) :
    st.barrage l ptr ≤ st.barrage l' ptr :=
  (hl.map _).sum_le_sum fun d hd => by
    obtain ⟨x, -, rfl⟩ := List.mem_map.mp hd
    exact h.blowAt_nonneg x ptr

theorem Arrayed.getElem?_position_fought (h : st.Arrayed r) (hl : l.Perm (slots r.toConstants))
    {x : PlayerId × ℕ} {u : Soldier K} (hu : (st.soldiers x.1)[x.2]? = some u) :
    (((st.fought r.toConstants l).soldiers x.1).map Soldier.position)[x.2]? =
      some (u.next r.toConstants (st.found (l.takeWhile fun y => y ≠ x) u)).settlesAt := by
  have hx := h.mem_slots hu
  rw [List.getElem?_map, (h.clash hl).getElem?_fought hx hu, Option.map_some,
    Soldier.position_finish, acted, if_pos (hl.mem_iff.mpr hx)]
  rfl

/-- **Positions do not depend on the order** if nobody loses its target on the way. -/
theorem Arrayed.position_fought (h : st.Arrayed r) (hspares : st.SparesThePursued r.toConstants)
    (hl : l.Perm (slots r.toConstants)) (hl' : l'.Perm (slots r.toConstants)) (p : PlayerId) :
    ((st.fought r.toConstants l).soldiers p).map Soldier.position =
      ((st.fought r.toConstants l').soldiers p).map Soldier.position := by
  refine h.map_fought_congr hl hl' Soldier.position ?_ p
  intro x u hu
  have hx := h.mem_slots hu
  have hunmoved := h.unmoved x.1 x.2 u hu
  rw [Soldier.position_finish, Soldier.position_finish, acted, acted, if_pos (hl.mem_iff.mpr hx),
    if_pos (hl'.mem_iff.mpr hx)]
  show (u.next _ _).settlesAt = (u.next _ _).settlesAt
  by_cases hacts : u.ActsOnTarget
  · cases hptr : u.attackTarget with
    | none =>
      have hnone : ∀ l, st.found l u = none := fun l => by rw [found, hptr, Option.bind_none]
      rw [hnone, hnone]
    | some ptr =>
      obtain ⟨a, ha⟩ := h.sound.deref_of_designates (h.sound.target x.1 x.2 u ptr hu hptr)
      -- the damage before the soldier is less than all damage
      have hpart : ∀ {l : List (PlayerId × ℕ)}, l.Perm (slots r.toConstants) →
          st.barrage (l.takeWhile fun y => y ≠ x) ptr ≤
            st.barrage (slots r.toConstants) ptr := fun {l} hl => by
        rw [← barrage_perm st hl]
        exact h.sound.barrage_le (List.takeWhile_sublist _) ptr
      have hle := hpart hl
      have hle' := hpart hl'
      rw [settlesAt_next_found hacts hunmoved hptr ha, settlesAt_next_found hacts hunmoved hptr ha]
      by_cases hchases : u.Chases a
      · have hlt := hspares x u ptr a hu hptr ha hchases
        rw [if_pos ⟨by omega, hchases.2.2.1⟩, if_pos ⟨by omega, hchases.2.2.1⟩]
      · by_cases hsame : SimplePathPlanner.getNextPosition u.position a.position u.speed =
            u.position
        · rw [hsame, ite_self, ite_self]
        · have hidle : ∀ l, ¬ (st.barrage l ptr < a.latestHp ∧ ¬ u.Reaches a) := fun l hgoes => by
            have := h.sound.barrage_nonneg l ptr
            exact hchases ⟨hacts, by omega, hgoes.2, hsame⟩
          rw [if_neg (hidle _), if_neg (hidle _)]
  · rw [Soldier.next_congr hacts]

/-- **A soldier that would lose its target** ends up elsewhere when it comes first than
when it comes last. -/
theorem Arrayed.exists_position_ne (h : st.Arrayed r)
    (hcut : ¬ st.SparesThePursued r.toConstants) : ∃ l l' p,
      l.Perm (slots r.toConstants) ∧ l'.Perm (slots r.toConstants) ∧
        ((st.fought r.toConstants l).soldiers p).map Soldier.position ≠
          ((st.fought r.toConstants l').soldiers p).map Soldier.position := by
  simp only [SparesThePursued, not_forall, not_lt] at hcut
  obtain ⟨x, u, ptr, a, hu, hptr, ha, hchases, hfinished⟩ := hcut
  have hunmoved := h.unmoved x.1 x.2 u hu
  have hx := h.mem_slots hu
  set others := (slots r.toConstants).erase x with hothers
  have hfirst : (x :: others).Perm (slots r.toConstants) := (List.perm_cons_erase hx).symm
  have hlast : (others ++ [x]).Perm (slots r.toConstants) :=
    (List.perm_append_singleton x others).trans hfirst
  have hnotin : x ∉ others := fun hin =>
    (List.Nodup.not_mem_erase (nodup_slots r.toConstants)) (hothers ▸ hin)
  refine ⟨x :: others, others ++ [x], x.1, hfirst, hlast, ?_⟩
  intro heq
  have hslot := congrArg (fun positions => positions[x.2]?) heq
  rw [h.getElem?_position_fought hfirst hu, h.getElem?_position_fought hlast hu,
    settlesAt_next_found hchases.1 hunmoved hptr ha,
    settlesAt_next_found hchases.1 hunmoved hptr ha] at hslot
  have hnone : (x :: others).takeWhile (fun y => y ≠ x) = [] := by simp
  -- it does no damage itself, being out of range
  have hself : st.blowAt x ptr = 0 := by
    rw [blowAt_eq hu ha]
    exact if_neg fun hassails => hchases.2.2.1 hassails.2.2.2
  have hrest : st.barrage (slots r.toConstants) ptr = st.barrage others ptr := by
    rw [← barrage_perm st hlast, barrage_append, barrage_singleton, hself, add_zero]
  have hzero : st.barrage [] ptr = 0 := rfl
  have hlatest := h.sound.latestHp_nonneg ha
  have halive := hchases.2.1
  rw [hnone, takeWhile_concat hnotin, if_pos ⟨by omega, hchases.2.2.1⟩,
    if_neg fun hgoes => by omega] at hslot
  exact hchases.2.2.2 (Option.some.inj hslot)

end Arrayed

end State

end Simulator
