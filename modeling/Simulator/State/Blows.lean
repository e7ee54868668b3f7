import Mathlib.Algebra.Order.BigOperators.Group.List
import Simulator.State.SoldierPhases

/-!
# One update, in closed form

The update of a soldier does something to two actors at most: the soldier itself is
advanced, and its target takes damage.  A target whose pending damage has used up its hp
is not hit any more, but by then a hit would not change anything.  So the update can be
read as if every soldier did damage to every actor, mostly none (`State.blowAt`), and
nobody had to look at the hp of its target first (`Sound.getElem?_actEffect`,
`Sound.towerManagers_actEffect`).

## Damage adds up

That reading is worth the detour because damage is a sum with a floor.  Two hits do what one hit
with the sum of their damages does, no damage does nothing, and an actor whose hp is used up is
beyond damage; this is so for towers, which lose hp at once, and for soldiers, which collect
damage, alike.  `State.barrage` adds up what the soldiers of a list are to do to an actor, and as a
sum it does not depend on their order (`barrage_perm`).

## Who is hit

`Assails` says of a soldier that it is to hit the actor behind its target pointer, with everything
but the hp of that actor taken into account: the soldier is alive, it is not on its way to a
destination, and the actor is in range.  None of this changes while the soldiers are updated.  The
update of a soldier is paid for when it finishes its target off (`exists_of_kills_eq_some`), and an
update that is not paid for finishes nothing off.
-/

namespace Simulator

open Foundation

variable {K : Type}

namespace Soldier

theorem damage_damage (u : Soldier K) (d : ℤ) {e : ℤ} (he : 0 ≤ e) :
    (u.damage d).damage e = u.damage (d + e) := by
  simp only [damage, Soldier.mk.injEq, true_and, and_true]
  omega

theorem damage_zero {u : Soldier K} (h : u.damageIncurred ≤ u.hp) : u.damage 0 = u := by
  simp only [damage, add_zero, min_eq_right h]

theorem damage_of_spent {u : Soldier K} (h : u.latestHp = 0) {d : ℤ} (hd : 0 ≤ d) :
    u.damage d = u := by
  have hspent : min u.hp (u.damageIncurred + d) = u.damageIncurred := by
    simp only [latestHp] at h
    omega
  simp only [damage, hspent]

theorem latestHp_damage_eq_zero {u : Soldier K} {d : ℤ} :
    (u.damage d).latestHp = 0 ↔ u.latestHp ≤ d := by
  simp only [latestHp, damage]
  omega

variable [Field K] [LinearOrder K] [SquareRoot K]

/-- The soldier is to hit the actor behind its pointer, unless that is finished off
before. -/
def Assails (s : Soldier K) (ptr : ActorPtr) (a : Actor K) : Prop :=
  s.attackTarget = some ptr ∧ s.state.isDead = false ∧ s.isDestinationSet = false ∧ s.Reaches a

instance (s : Soldier K) (ptr : ActorPtr) (a : Actor K) : Decidable (s.Assails ptr a) :=
  inferInstanceAs (Decidable (_ ∧ _))

theorem assails_and_latestHp {s : Soldier K} {ptr : ActorPtr} {a : Actor K} :
    s.attackTarget = some ptr ∧ s.Strikes a ↔ s.Assails ptr a ∧ a.latestHp ≠ 0 := by
  unfold Assails Strikes
  tauto

/-- Whether a soldier is hit depends on where it is, not on its hp. -/
theorem assails_congr {s : Soldier K} {ptr : ActorPtr} {u v : Soldier K}
    (h : u.position = v.position) : s.Assails ptr (.soldier u) ↔ s.Assails ptr (.soldier v) := by
  unfold Assails Reaches
  rw [show (Actor.soldier u).position = (Actor.soldier v).position from h]

end Soldier

namespace Actor

theorem latestHp_damage (a : Actor K) (damageAmount : ℤ) :
    (a.damage damageAmount).latestHp = max 0 (a.latestHp - damageAmount) := by
  cases a with
  | soldier s =>
    show s.hp - min s.hp (s.damageIncurred + damageAmount) =
      max 0 (s.hp - s.damageIncurred - damageAmount)
    omega
  | tower t => rfl

/-- Damage adds up. -/
theorem damage_damage (a : Actor K) (d : ℤ) {e : ℤ} (he : 0 ≤ e) :
    (a.damage d).damage e = a.damage (d + e) := by
  cases a with
  | soldier s => exact congrArg Actor.soldier (s.damage_damage d he)
  | tower t =>
    have hhp : max 0 (max 0 (t.hp - d) - e) = max 0 (t.hp - (d + e)) := by omega
    simp only [damage, Tower.damage, hhp]

/-- An actor whose hp is used up takes no more damage. -/
theorem damage_of_spent {a : Actor K} (h : a.latestHp = 0) {d : ℤ} (hd : 0 ≤ d) :
    a.damage d = a := by
  cases a with
  | soldier s => exact congrArg Actor.soldier (Soldier.damage_of_spent h hd)
  | tower t =>
    have hhp : max 0 (t.hp - d) = t.hp := by
      simp only [latestHp] at h
      omega
    simp only [damage, Tower.damage, hhp]

/-- No damage does nothing. -/
theorem damage_zero {a : Actor K} (h : 0 ≤ a.latestHp) : a.damage 0 = a := by
  cases a with
  | soldier s => exact congrArg Actor.soldier (Soldier.damage_zero (sub_nonneg.mp h))
  | tower t =>
    have hhp : max 0 (t.hp - 0) = t.hp := by
      simp only [latestHp] at h
      omega
    simp only [damage, Tower.damage, hhp]

@[simp] theorem position_damage (a : Actor K) (damageAmount : ℤ) :
    (a.damage damageAmount).position = a.position := by
  cases a <;> rfl

/-- The reward for an actor does not depend on the damage it has taken. -/
theorem rewarded_damage (a : Actor K) (damageAmount : ℤ) (m : MoneyManager) :
    m.rewarded (a.damage damageAmount) = m.rewarded a := by
  cases a <;> rfl

end Actor

namespace State

/-! ## Blows -/

section Blows

variable [Field K] [LinearOrder K] [SquareRoot K]

/-- The damage that the update of the soldier in slot `x` is to do to the actor behind
a pointer, if that has any hp left by then. -/
def blowAt (st : State K) (x : PlayerId × ℕ) (ptr : ActorPtr) : ℤ :=
  match (st.soldiers x.1)[x.2]?, st.deref ptr with
  | some s, some a => if s.Assails ptr a then s.attackDamage else 0
  | _, _ => 0

/-- The damage that the soldiers of a list are to do to the actor behind a pointer. -/
def barrage (st : State K) (l : List (PlayerId × ℕ)) (ptr : ActorPtr) : ℤ :=
  (l.map fun x => st.blowAt x ptr).sum

theorem barrage_append (st : State K) (l l' : List (PlayerId × ℕ)) (ptr : ActorPtr) :
    st.barrage (l ++ l') ptr = st.barrage l ptr + st.barrage l' ptr := by
  simp [barrage]

theorem barrage_singleton (st : State K) (x : PlayerId × ℕ) (ptr : ActorPtr) :
    st.barrage [x] ptr = st.blowAt x ptr := by
  simp [barrage]

/-- The order of the soldiers does not matter. -/
theorem barrage_perm (st : State K) {l l' : List (PlayerId × ℕ)} (h : l.Perm l')
    (ptr : ActorPtr) : st.barrage l ptr = st.barrage l' ptr :=
  (h.map _).sum_eq

theorem blowAt_eq {st : State K} {x : PlayerId × ℕ} {ptr : ActorPtr} {s : Soldier K} {a : Actor K}
    (hs : (st.soldiers x.1)[x.2]? = some s) (ha : st.deref ptr = some a) :
    st.blowAt x ptr = if s.Assails ptr a then s.attackDamage else 0 := by
  simp only [blowAt, hs, ha]

/-- A soldier does no damage to what is not its target. -/
theorem blowAt_of_ne {st : State K} {x : PlayerId × ℕ} {ptr : ActorPtr} {s : Soldier K}
    (hs : (st.soldiers x.1)[x.2]? = some s) (hptr : s.attackTarget ≠ some ptr) :
    st.blowAt x ptr = 0 := by
  unfold blowAt
  rw [hs]
  cases st.deref ptr with
  | none => rfl
  | some a => exact if_neg fun h => hptr h.1

end Blows

/-! ## One update -/

variable [Field K] [LinearOrder K] [FloorRing K] [SquareRoot K]

section Round

variable {r : Ruleset K} {st : State K} {x : PlayerId × ℕ} {s : Soldier K} {ptr : ActorPtr}
  {a : Actor K}

theorem Sound.blowAt_nonneg (h : st.Sound r.toConstants) (x : PlayerId × ℕ) (ptr : ActorPtr) :
    0 ≤ st.blowAt x ptr := by
  unfold blowAt
  split
  · rename_i s a hs ha
    split
    · rw [(h.soldier x.1 x.2 s hs).attackDamage_eq]
      exact r.soldierAttackDamage_nonneg
    · exact le_rfl
  · exact le_rfl

theorem Sound.barrage_nonneg (h : st.Sound r.toConstants) (l : List (PlayerId × ℕ))
    (ptr : ActorPtr) : 0 ≤ st.barrage l ptr := by
  refine List.sum_nonneg ?_
  intro d hd
  obtain ⟨x, -, rfl⟩ := List.mem_map.mp hd
  exact h.blowAt_nonneg x ptr

/-- A soldier does no damage to those of its own player. -/
theorem Sound.blowAt_self (h : st.Sound r.toConstants) (hs : (st.soldiers x.1)[x.2]? = some s)
    (j : ℕ) : st.blowAt x (.soldier x.1 j) = 0 :=
  blowAt_of_ne hs fun hptr => PlayerId.ne_opponent x.1 (h.target x.1 x.2 s _ hs hptr).1

omit [SquareRoot K] in
theorem Sound.latestHp_nonneg (h : st.Sound r.toConstants) (ha : st.deref ptr = some a) :
    0 ≤ a.latestHp := by
  cases ptr with
  | soldier q j =>
    obtain ⟨u, hu, rfl⟩ := Option.map_eq_some_iff.mp ha
    exact sub_nonneg.mpr (h.soldier q j u hu).damage_le
  | tower q id =>
    obtain ⟨t, ht, -, rfl⟩ := h.deref_tower.mp ha
    exact ((h.manager q).tower t ht).hp_nonneg

/-- **A hit**, whether it is made or would not change anything. -/
theorem Sound.damage_hits (h : st.Sound r.toConstants) (hs : (st.soldiers x.1)[x.2]? = some s)
    (ha : st.deref ptr = some a) :
    (st.hits x.1 x.2 ptr).elim a a.damage = a.damage (st.blowAt x ptr) := by
  have hnonneg := h.blowAt_nonneg x ptr
  have hlatest := h.latestHp_nonneg ha
  rw [blowAt_eq hs ha] at hnonneg ⊢
  by_cases hassails : s.Assails ptr a
  · rw [if_pos hassails] at hnonneg ⊢
    have htarget : st.targetOf x.1 x.2 = some a := by simp [targetOf, hs, hassails.1, ha]
    rw [hits_eq hs htarget]
    by_cases hspent : a.latestHp = 0
    · rw [if_neg fun hstrikes => hstrikes.2.2.2.1 hspent, Option.elim_none,
        Actor.damage_of_spent hspent hnonneg]
    · rw [if_pos (Soldier.assails_and_latestHp.mpr ⟨hassails, hspent⟩), Option.elim_some]
  · have hnone : st.hits x.1 x.2 ptr = none := by
      cases hd : st.hits x.1 x.2 ptr with
      | none => rfl
      | some d =>
        obtain ⟨s', a', hs', hptr, hderef, hstrikes, -⟩ := exists_of_hits hd
        obtain rfl := Option.some.inj (hs.symm.trans hs')
        obtain rfl := Option.some.inj (ha.symm.trans hderef)
        exact absurd (Soldier.assails_and_latestHp.mp ⟨hptr, hstrikes⟩).1 hassails
    rw [hnone, if_neg hassails, Option.elim_none, Actor.damage_zero hlatest]

/-- **An update, on the soldiers.** -/
theorem Sound.getElem?_actEffect (h : st.Sound r.toConstants)
    (hs : (st.soldiers x.1)[x.2]? = some s) {y : PlayerId × ℕ} {u : Soldier K}
    (hu : (st.soldiers y.1)[y.2]? = some u) :
    ((st.apply (st.actEffect r.toConstants x.1 x.2)).soldiers y.1)[y.2]? =
      some (if y = x then u.next r.toConstants (st.targetOf x.1 x.2)
        else u.damage (st.blowAt x (.soldier y.1 y.2))) := by
  rw [getElem?_apply, hu, Option.map_some, soldier_actEffect]
  have hptr : st.deref (.soldier y.1 y.2) = some (.soldier u) := by rw [deref_soldier, hu]; rfl
  have hdamage := h.damage_hits hs hptr
  by_cases hyx : y = x
  · subst hyx
    rw [if_pos rfl, h.hits_self]
    simp only [and_self, if_true, Option.elim_none]
  · have hne : ¬ (y.1 = x.1 ∧ y.2 = x.2) := fun heq => hyx (Prod.ext heq.1 heq.2)
    rw [if_neg hyx]
    simp only [if_neg hne]
    cases hd : st.hits x.1 x.2 (.soldier y.1 y.2) with
    | none =>
      rw [hd] at hdamage
      exact congrArg some (Actor.soldier.inj hdamage)
    | some d =>
      rw [hd] at hdamage
      exact congrArg some (Actor.soldier.inj hdamage)

/-- **An update, on the towers.** -/
theorem Sound.towerManagers_actEffect (h : st.Sound r.toConstants)
    (hs : (st.soldiers x.1)[x.2]? = some s) (q : PlayerId) :
    (st.apply (st.actEffect r.toConstants x.1 x.2)).towerManagers q =
      (st.towerManagers q).mapTowers fun t => t.damage (st.blowAt x (.tower q t.id)) := by
  rw [towerManagers_apply]
  refine TowerManager.mapTowers_congr ?_
  intro t ht
  have hdamage := h.damage_hits hs (h.deref_tower.mpr ⟨t, ht, rfl, rfl⟩)
  rw [tower_actEffect]
  cases hd : st.hits x.1 x.2 (.tower q t.id) with
  | none =>
    rw [hd] at hdamage
    exact Actor.tower.inj hdamage
  | some d =>
    rw [hd] at hdamage
    exact Actor.tower.inj hdamage

omit [FloorRing K] in
/-- **An update that finishes an actor off** is paid for. -/
theorem exists_of_kills_eq_some {b : Actor K} (hs : (st.soldiers x.1)[x.2]? = some s)
    (hb : st.kills x.1 x.2 = some b) : ∃ ptr a, s.attackTarget = some ptr ∧
      st.deref ptr = some a ∧ a.latestHp ≠ 0 ∧ a.latestHp ≤ st.blowAt x ptr ∧
        b = a.damage (st.blowAt x ptr) := by
  obtain ⟨s', ptr, a, hs', hptr, hderef, hstrikes, rfl, hspent, -⟩ := exists_of_kills hb
  obtain rfl := Option.some.inj (hs.symm.trans hs')
  have hblow : st.blowAt x ptr = s.attackDamage := by
    rw [blowAt_eq hs hderef]
    exact if_pos (Soldier.assails_and_latestHp.mp ⟨hptr, hstrikes⟩).1
  rw [Actor.latestHp_damage] at hspent
  exact ⟨ptr, a, hptr, hderef, hstrikes.2.2.1, by rw [hblow]; omega, by rw [hblow]⟩

omit [FloorRing K] in
/-- An update that is not paid for finishes nothing off. -/
theorem lt_latestHp_of_kills_eq_none (hs : (st.soldiers x.1)[x.2]? = some s)
    (ha : st.deref ptr = some a) (hhp : 0 < a.latestHp) (hkills : st.kills x.1 x.2 = none) :
    st.blowAt x ptr < a.latestHp := by
  rw [blowAt_eq hs ha]
  by_cases hassails : s.Assails ptr a
  · have htarget : st.targetOf x.1 x.2 = some a := by simp [targetOf, hs, hassails.1, ha]
    have hstrikes := (Soldier.assails_and_latestHp.mpr ⟨hassails, hhp.ne'⟩).2
    rw [kills_eq hs htarget] at hkills
    by_contra hle
    rw [if_pos hassails] at hle
    refine Option.some_ne_none _ ((if_pos ⟨hstrikes, ?_⟩).symm.trans hkills)
    rw [Actor.latestHp_damage]
    omega
  · rw [if_neg hassails]
    exact hhp

end Round

end State

end Simulator
