import Simulator.State.SoldierUpdates
import Simulator.State.State

/-!
# The effect of one soldier on the state

Updating a soldier changes that soldier, perhaps the actor it hits, and perhaps a
balance.  An `Effect` is such a change, given pointwise: what becomes of every
soldier, of every tower and of the money.  `State.apply` carries it out, and
`State.actEffect` is the effect of updating one soldier.  `runSoldier_update` says
that this is what the update does to the state.

## Why effects

The update of a soldier is written as a program that takes the soldier out of its vector, follows
its pointer, changes what it finds, and writes things back.  Two such programs, one after the other,
are hard to compare with the same two in the other order, since each of them reads what the other
has written.  As effects they are functions from things to things.

Two effects that do the same to every object that is there are the same for the
state (`apply_congr`), and effects compose pointwise (`apply_apply`), so that questions about the
order of updates become questions about single objects: what one update and then the other does to
this tower, and to this soldier.

## Towers whose memory has been released

A tower that has died is kept for two more turns, since soldiers may point to it.  An effect says
what becomes of every tower that can be pointed to, listed or not (`mapTowers`), because damage
may be done to one of those as well.  Towers whose memory is gone are beyond the reach of pointers.
-/

namespace Simulator

open Foundation

namespace TowerManager

variable {K : Type}

/-- Change every tower whose memory has not been released. -/
def mapTowers (m : TowerManager K) (g : Tower K → Tower K) : TowerManager K :=
  { m with
    towers := m.towers.map g
    towersToDelete0 := m.towersToDelete0.map g
    towersToDelete1 := m.towersToDelete1.map g }

@[simp] theorem allocatedTowers_mapTowers (m : TowerManager K) (g : Tower K → Tower K) :
    (m.mapTowers g).allocatedTowers = m.allocatedTowers.map g := by
  simp [allocatedTowers, mapTowers]

theorem mem_allocatedTowers_of_mem {m : TowerManager K} {t : Tower K} (h : t ∈ m.towers) :
    t ∈ m.allocatedTowers := by
  simp [allocatedTowers, h]

theorem mapTowers_congr {m : TowerManager K} {g g' : Tower K → Tower K}
    (h : ∀ t ∈ m.allocatedTowers, g t = g' t) : m.mapTowers g = m.mapTowers g' := by
  simp only [allocatedTowers, List.mem_append] at h
  unfold mapTowers
  rw [List.map_congr_left fun t ht => h t (.inl (.inl ht)),
    List.map_congr_left fun t ht => h t (.inr ht),
    List.map_congr_left fun t ht => h t (.inl (.inr ht))]

@[simp] theorem mapTowers_mapTowers (m : TowerManager K) (g g' : Tower K → Tower K) :
    (m.mapTowers g).mapTowers g' = m.mapTowers (g' ∘ g) := by
  simp [mapTowers]

@[simp] theorem mapTowers_id (m : TowerManager K) : m.mapTowers (fun t => t) = m := by
  simp [mapTowers]

end TowerManager

/-- What becomes of every soldier, of every tower, and of the money. -/
@[ext]
structure Effect (K : Type) where
  soldier : PlayerId → ℕ → Soldier K → Soldier K
  tower : PlayerId → Tower K → Tower K
  money : MoneyManager → MoneyManager

namespace State

variable {K : Type}

/-! ## Effects -/

/-- Carry out an effect. -/
def apply (st : State K) (E : Effect K) : State K :=
  { st with
    soldiers := fun p => (st.soldiers p).mapIdx (E.soldier p)
    towerManagers := fun p => (st.towerManagers p).mapTowers (E.tower p)
    moneyManager := E.money st.moneyManager }

@[simp] theorem getElem?_apply (st : State K) (E : Effect K) (p : PlayerId) (i : ℕ) :
    ((st.apply E).soldiers p)[i]? = (st.soldiers p)[i]?.map (E.soldier p i) := by
  simp [apply]

@[simp] theorem length_soldiers_apply (st : State K) (E : Effect K) (p : PlayerId) :
    ((st.apply E).soldiers p).length = (st.soldiers p).length := by
  simp [apply]

@[simp] theorem towerManagers_apply (st : State K) (E : Effect K) (p : PlayerId) :
    (st.apply E).towerManagers p = (st.towerManagers p).mapTowers (E.tower p) := rfl

@[simp] theorem moneyManager_apply (st : State K) (E : Effect K) :
    (st.apply E).moneyManager = E.money st.moneyManager := rfl

@[simp] theorem map_apply (st : State K) (E : Effect K) : (st.apply E).map = st.map := rfl

@[simp] theorem actorIdIncrement_apply (st : State K) (E : Effect K) :
    (st.apply E).actorIdIncrement = st.actorIdIncrement := rfl

theorem apply_congr {st : State K} {E F : Effect K}
    (hs : ∀ p i s, (st.soldiers p)[i]? = some s → E.soldier p i s = F.soldier p i s)
    (ht : ∀ p, ∀ t ∈ (st.towerManagers p).allocatedTowers, E.tower p t = F.tower p t)
    (hm : E.money st.moneyManager = F.money st.moneyManager) : st.apply E = st.apply F := by
  have hsoldiers : (fun p => (st.soldiers p).mapIdx (E.soldier p)) =
      fun p => (st.soldiers p).mapIdx (F.soldier p) := by
    funext p
    refine List.ext_getElem? ?_
    intro i
    simp only [List.getElem?_mapIdx]
    cases hi : (st.soldiers p)[i]? with
    | none => rfl
    | some s => simp [hs p i s hi]
  have htowers : (fun p => (st.towerManagers p).mapTowers (E.tower p)) =
      fun p => (st.towerManagers p).mapTowers (F.tower p) :=
    funext fun p => TowerManager.mapTowers_congr (ht p)
  simp only [apply, hsoldiers, htowers, hm]

theorem apply_apply (st : State K) (E F : Effect K) :
    (st.apply E).apply F = st.apply
      { soldier := fun p i => F.soldier p i ∘ E.soldier p i
        tower := fun p => F.tower p ∘ E.tower p
        money := F.money ∘ E.money } := by
  simp [apply, List.mapIdx_mapIdx]

/-! ## The effect of an update -/

section Act

variable [Field K] [LinearOrder K] [SquareRoot K]

/-- What the update of a soldier finds behind its target pointer. -/
def targetOf (st : State K) (p : PlayerId) (i : ℕ) : Option (Actor K) :=
  (st.soldiers p)[i]?.bind fun s => s.attackTarget.bind st.deref

/-- The damage the update of soldier `i` of player `p` does to the actor behind a
pointer, when it hits it. -/
def hits (st : State K) (p : PlayerId) (i : ℕ) (ptr : ActorPtr) : Option ℤ :=
  match (st.soldiers p)[i]?, st.targetOf p i with
  | some s, some a => if s.attackTarget = some ptr ∧ s.Strikes a then some s.attackDamage else none
  | _, _ => none

/-- The actor that the update of a soldier finishes off. -/
def kills (st : State K) (p : PlayerId) (i : ℕ) : Option (Actor K) :=
  match (st.soldiers p)[i]?, st.targetOf p i with
  | some s, some a =>
    let a' := a.damage s.attackDamage
    if s.Strikes a ∧ a'.latestHp = 0 then some a' else none
  | _, _ => none

/-- The effect of updating one soldier. -/
def actEffect (c : Constants K) (st : State K) (p : PlayerId) (i : ℕ) : Effect K where
  soldier q k u :=
    let u := match st.hits p i (.soldier q k) with
      | some damageAmount => u.damage damageAmount
      | none => u
    if q = p ∧ k = i then u.next c (st.targetOf p i) else u
  tower q t :=
    match st.hits p i (.tower q t.id) with
    | some damageAmount => t.damage damageAmount
    | none => t
  money m :=
    match st.kills p i with
    | some a => m.rewarded a
    | none => m

theorem soldier_actEffect (c : Constants K) (st : State K) (p : PlayerId) (i : ℕ) (q : PlayerId)
    (k : ℕ) (u : Soldier K) : (st.actEffect c p i).soldier q k u =
      let u' := (st.hits p i (.soldier q k)).elim u u.damage
      if q = p ∧ k = i then u'.next c (st.targetOf p i) else u' := by
  cases hd : st.hits p i (.soldier q k) with
  | none => simp only [actEffect, hd, Option.elim_none]
  | some d => simp only [actEffect, hd, Option.elim_some]

theorem tower_actEffect (c : Constants K) (st : State K) (p : PlayerId) (i : ℕ) (q : PlayerId)
    (t : Tower K) :
    (st.actEffect c p i).tower q t = (st.hits p i (.tower q t.id)).elim t t.damage := by
  cases hd : st.hits p i (.tower q t.id) with
  | none => simp only [actEffect, hd, Option.elim_none]
  | some d => simp only [actEffect, hd, Option.elim_some]

theorem money_actEffect (c : Constants K) (st : State K) (p : PlayerId) (i : ℕ) (m : MoneyManager) :
    (st.actEffect c p i).money m = (st.kills p i).elim m m.rewarded := by
  cases hk : st.kills p i with
  | none => simp only [actEffect, hk, Option.elim_none]
  | some a => simp only [actEffect, hk, Option.elim_some]

end Act

end State

end Simulator
