import Simulator.State.Onslaught
import Simulator.State.Update

/-!
# The order of the players in the soldiers' phases

The update of a soldier reads its target, which the update of that target may have
changed before.  What it reads there is the hp that is left, the position and the
name.  Hp changes in the late update only, damage is pending for everybody, and
moves are made in the late update too; only a soldier that respawns changes at
once.  A soldier that is about to respawn is nobody's target, if respawning takes
two turns or more, so that updates of soldiers of different players commute.

## Rounds that commute

`Alike` relates two actors that are the same for those who attack them, and a soldier treats the one
as it treats the other (`Alike.next`).  The update of an enemy soldier replaces the target of a
soldier by one that is alike, whether it is the target that was updated or something that hit it.
So the effect of a round is not changed by an enemy's round (`Sound.actEffect_stable`), and as
effects are pointwise, two rounds of enemies commute if they commute on every single object: a
soldier of either player, a tower, the money.  On a soldier the one round advances it and the other
damages it, and those two are independent.  Rounds of soldiers of one player are not exchanged, as
the loops of both players keep their own order.

## Phases that commute

The two loops of a phase are exchanged by exchanging rounds.  This takes an invariant about what is
still to be updated (`Pending`), since a soldier that respawns is no target only as long as nobody
takes it as one, and rounds give no soldier a target.
-/

namespace Simulator

open Foundation

variable {K : Type}

namespace Actor

/-- The two actors are the same for those who attack them. -/
def Alike : Actor K → Actor K → Prop
  | .soldier s, .soldier s' => s.SameBody s' ∧ s'.id = s.id ∧ s'.playerId = s.playerId
  | .tower t, .tower t' => t' = t
  | _, _ => False

theorem Alike.refl (a : Actor K) : a.Alike a := by
  cases a with
  | soldier s => exact ⟨.refl s, rfl, rfl⟩
  | tower t => rfl

section Alike

variable {a a' : Actor K}

theorem Alike.latestHp (h : a.Alike a') : a'.latestHp = a.latestHp := by
  cases a <;> cases a'
  case soldier.soldier s s' =>
    show s'.hp - s'.damageIncurred = s.hp - s.damageIncurred
    rw [h.1.hp, h.1.damageIncurred]
  case tower.tower => rw [show _ = _ from h]
  all_goals exact h.elim

theorem Alike.position (h : a.Alike a') : a'.position = a.position := by
  cases a <;> cases a'
  case soldier.soldier => exact h.1.position
  case tower.tower => rw [show _ = _ from h]
  all_goals exact h.elim

theorem Alike.rewarded (h : a.Alike a') (m : MoneyManager) : m.rewarded a' = m.rewarded a := by
  cases a <;> cases a'
  case soldier.soldier =>
    simp only [MoneyManager.rewarded, Actor.playerId, MoneyManager.killRewardAmount,
      MoneyManager.killPayout, h.2.1, h.2.2]
  case tower.tower => rw [show _ = _ from h]
  all_goals exact h.elim

theorem Alike.damage (h : a.Alike a') (damageAmount : ℤ) :
    (a.damage damageAmount).Alike (a'.damage damageAmount) := by
  cases a <;> cases a'
  case soldier.soldier s s' =>
    refine ⟨⟨h.1.hp, ?_, h.1.isInvulnerable, h.1.position⟩, h.2⟩
    show min s'.hp (s'.damageIncurred + damageAmount) = min s.hp (s.damageIncurred + damageAmount)
    rw [h.1.hp, h.1.damageIncurred]
  case tower.tower => rw [show _ = _ from h]; exact Alike.refl _
  all_goals exact h.elim

variable [Field K] [LinearOrder K] [SquareRoot K]

theorem Alike.reaches_iff (h : a.Alike a') (s : Soldier K) : s.Reaches a' ↔ s.Reaches a := by
  rw [Soldier.Reaches, Soldier.Reaches, h.position]

theorem Alike.strikes_iff (h : a.Alike a') (s : Soldier K) : s.Strikes a' ↔ s.Strikes a := by
  rw [Soldier.Strikes, Soldier.Strikes, h.latestHp, h.reaches_iff]

/-- A soldier treats the one as it treats the other. -/
theorem Alike.next (h : a.Alike a') (c : Constants K) (s : Soldier K) :
    s.next c (some a') = s.next c (some a) := by
  simp only [Soldier.next, h.latestHp, h.reaches_iff, h.position]

end Alike

end Actor

namespace State

variable [Field K] [LinearOrder K] [FloorRing K] [SquareRoot K]

/-! ## One round of each player -/

section Rounds

variable {r : Ruleset K} {st : State K} {p : PlayerId} {i j : ℕ} {s u : Soldier K}

/-- A soldier finds the same behind its target pointer after the round of an enemy
soldier, unless that is its target and respawns. -/
theorem Sound.targetOf_stable (h : st.Sound r.toConstants) (hs : (st.soldiers p)[i]? = some s)
    (hu : (st.soldiers p.opponent)[j]? = some u)
    (hstays : u.attackTarget = some (.soldier p i) → s.state ≠ .dead 0) :
    let st' := st.apply (st.actEffect r.toConstants p i)
    st.targetOf p.opponent j = none ∧ st'.targetOf p.opponent j = none ∨
      ∃ a a', st.targetOf p.opponent j = some a ∧ st'.targetOf p.opponent j = some a' ∧
        a.Alike a' := by
  intro st'
  have hu' : (st'.soldiers p.opponent)[j]? = some (u.damage (blow p j u s)) :=
    h.opponent_actEffect hs hu
  have htarget : st.targetOf p.opponent j = u.attackTarget.bind st.deref := by
    rw [targetOf, hu, Option.bind_some]
  have htarget' : st'.targetOf p.opponent j = u.attackTarget.bind st'.deref := by
    rw [targetOf, hu', Option.bind_some]
    rfl
  rw [htarget, htarget']
  cases hptr : u.attackTarget with
  | none => exact .inl ⟨rfl, rfl⟩
  | some ptr =>
    have hdes := h.target p.opponent j u ptr hu hptr
    obtain ⟨a, ha⟩ := h.deref_of_designates hdes
    refine .inr ?_
    rw [Option.bind_some, Option.bind_some, ha]
    cases ptr with
    | soldier q k =>
      obtain ⟨rfl, -⟩ := hdes
      rw [PlayerId.opponent_opponent] at ha hptr ⊢
      obtain ⟨v, hv, rfl⟩ := Option.map_eq_some_iff.mp ha
      refine ⟨_, _, rfl, by rw [deref_soldier, h.self_actEffect hv, Option.map_some], ?_⟩
      by_cases hk : k = i
      · subst hk
        obtain rfl := Option.some.inj (hs.symm.trans hv)
        rw [if_pos rfl]
        exact ⟨Soldier.sameBody_next _ (hstays hptr) _, Soldier.name_next _ _ _⟩
      · rw [if_neg hk]
        exact .refl _
    | tower q id =>
      obtain ⟨rfl, -⟩ := hdes
      rw [PlayerId.opponent_opponent] at ha ⊢
      have hmanager : st'.towerManagers p = st.towerManagers p := by
        rw [towerManagers_apply]
        have hsame : ∀ t ∈ (st.towerManagers p).allocatedTowers,
            (st.actEffect r.toConstants p i).tower p t = t := fun t _ => by
          rw [h.tower_actEffect_self]
        rw [TowerManager.mapTowers_congr hsame, TowerManager.mapTowers_id]
      exact ⟨a, a, rfl, by rw [deref, hmanager]; exact ha, .refl a⟩

/-- **What the update of a soldier does is not changed by the update of an enemy
soldier**, unless that is its target and respawns. -/
theorem Sound.actEffect_stable (h : st.Sound r.toConstants) {q : PlayerId} (hq : q = p.opponent)
    (hs : (st.soldiers p)[i]? = some s) (hu : (st.soldiers q)[j]? = some u)
    (hstays : u.attackTarget = some (.soldier p i) → s.state ≠ .dead 0) :
    (st.apply (st.actEffect r.toConstants p i)).actEffect r.toConstants q j =
      st.actEffect r.toConstants q j := by
  subst hq
  set st' := st.apply (st.actEffect r.toConstants p i) with hst'
  have hu' : (st'.soldiers p.opponent)[j]? = some (u.damage (blow p j u s)) :=
    h.opponent_actEffect hs hu
  obtain ⟨hhits, hkills, hnext⟩ : (∀ ptr, st'.hits p.opponent j ptr = st.hits p.opponent j ptr) ∧
      (∀ m : MoneyManager, ((st'.kills p.opponent j).elim m m.rewarded) =
        (st.kills p.opponent j).elim m m.rewarded) ∧
      ∀ v : Soldier K, v.next r.toConstants (st'.targetOf p.opponent j) =
        v.next r.toConstants (st.targetOf p.opponent j) := by
    rcases h.targetOf_stable hs hu hstays with ⟨hnone, hnone'⟩ | ⟨a, a', ha, ha', halike⟩
    · refine ⟨?_, ?_, fun v => by rw [hnone, hnone']⟩
      · intro ptr
        rw [hits_eq_none hnone, hits_eq_none hnone']
      · intro m
        rw [kills_eq_none hnone, kills_eq_none hnone']
    · refine ⟨?_, ?_, fun v => by rw [ha, ha', halike.next]⟩
      · intro ptr
        rw [hits_eq hu ha, hits_eq hu' ha']
        exact if_congr (and_congr Iff.rfl (halike.strikes_iff u)) rfl rfl
      · intro m
        have hdamage := halike.damage u.attackDamage
        have hiff : (u.damage (blow p j u s)).Strikes a' ∧ (a'.damage u.attackDamage).latestHp = 0 ↔
            u.Strikes a ∧ (a.damage u.attackDamage).latestHp = 0 :=
          and_congr (halike.strikes_iff u) (by rw [hdamage.latestHp])
        have hkills' : st'.kills p.opponent j =
            if (u.damage (blow p j u s)).Strikes a' ∧ (a'.damage u.attackDamage).latestHp = 0 then
              some (a'.damage u.attackDamage) else none := kills_eq hu' ha'
        rw [kills_eq hu ha, hkills']
        by_cases hkill : u.Strikes a ∧ (a.damage u.attackDamage).latestHp = 0
        · rw [if_pos hkill, if_pos (hiff.mpr hkill)]
          exact hdamage.rewarded m
        · rw [if_neg hkill, if_neg (mt hiff.mp hkill)]
  have hmoney : (st'.actEffect r.toConstants p.opponent j).money =
      (st.actEffect r.toConstants p.opponent j).money := by
    funext m
    rw [money_actEffect, money_actEffect, hkills]
  have hsoldier : (st'.actEffect r.toConstants p.opponent j).soldier =
      (st.actEffect r.toConstants p.opponent j).soldier := by
    simp only [State.actEffect, hhits, hnext]
  have htower : (st'.actEffect r.toConstants p.opponent j).tower =
      (st.actEffect r.toConstants p.opponent j).tower := by
    simp only [State.actEffect, hhits]
  exact Effect.ext hsoldier htower hmoney

theorem Sound.soldier_comm (h : st.Sound r.toConstants) {q : PlayerId} (hq : q ≠ p)
    (hs : (st.soldiers p)[i]? = some s) (hu : (st.soldiers q)[j]? = some u)
    (hstays : u.attackTarget = some (.soldier p i) → s.state ≠ .dead 0) {k : ℕ} {v : Soldier K}
    (hv : (st.soldiers p)[k]? = some v) :
    let E := st.actEffect r.toConstants p i
    let F := st.actEffect r.toConstants q j
    F.soldier p k (E.soldier p k v) = E.soldier p k (F.soldier p k v) := by
  intro E F
  have hE : ∀ w, E.soldier p k w = if k = i then w.next r.toConstants (st.targetOf p i) else w :=
    fun w => by
      rw [soldier_actEffect, h.hits_self]
      simp only [true_and, Option.elim_none]
  have hF : ∀ w, F.soldier p k w = (st.hits q j (.soldier p k)).elim w w.damage := fun w => by
    rw [soldier_actEffect]
    exact if_neg fun heq => hq heq.1.symm
  rw [hE, hE, hF, hF]
  by_cases hk : k = i
  · subst hk
    obtain rfl := Option.some.inj (hs.symm.trans hv)
    rw [if_pos rfl, if_pos rfl]
    cases hd : st.hits q j (.soldier p k) with
    | none => rfl
    | some d =>
      obtain ⟨u', -, hu', hptr, -⟩ := exists_of_hits hd
      obtain rfl := Option.some.inj (hu.symm.trans hu')
      exact (Soldier.next_damage _ (hstays hptr) _ d).symm
  · rw [if_neg hk, if_neg hk]

/-- **Rounds of enemy soldiers commute**, if neither has the other as its target while
that is about to respawn. -/
theorem Sound.actEffect_comm (h : st.Sound r.toConstants) (hs : (st.soldiers p)[i]? = some s)
    (hu : (st.soldiers p.opponent)[j]? = some u)
    (hstays : u.attackTarget = some (.soldier p i) → s.state ≠ .dead 0)
    (hstays' : s.attackTarget = some (.soldier p.opponent j) → u.state ≠ .dead 0) :
    let E := st.actEffect r.toConstants p i
    let F := st.actEffect r.toConstants p.opponent j
    (st.apply E).apply ((st.apply E).actEffect r.toConstants p.opponent j) =
      (st.apply F).apply ((st.apply F).actEffect r.toConstants p i) := by
  intro E F
  have hp : p = p.opponent.opponent := (PlayerId.opponent_opponent p).symm
  have hne := PlayerId.opponent_ne p
  have hE := h.actEffect_stable (q := p.opponent) rfl hs hu hstays
  have hF := h.actEffect_stable hp hu hs hstays'
  rw [hE, hF, apply_apply, apply_apply]
  refine apply_congr ?_ ?_ ?_
  · intro q k v hv
    show F.soldier q k (E.soldier q k v) = E.soldier q k (F.soldier q k v)
    by_cases hq : q = p
    · subst hq
      exact h.soldier_comm hne hs hu hstays hv
    · obtain rfl := PlayerId.eq_opponent_of_ne hq
      exact (h.soldier_comm (PlayerId.ne_opponent p) hu hs hstays' hv).symm
  · intro q t ht
    show F.tower q (E.tower q t) = E.tower q (F.tower q t)
    by_cases hq : q = p
    · subst hq
      rw [h.tower_actEffect_self, h.tower_actEffect_self]
    · obtain rfl := PlayerId.eq_opponent_of_ne hq
      rw [h.tower_actEffect_self, h.tower_actEffect_self]
  · show F.money (E.money st.moneyManager) = E.money (F.money st.moneyManager)
    simp only [E, F, money_actEffect]
    cases ha : st.kills p i with
    | none => rfl
    | some a =>
      cases hb : st.kills p.opponent j with
      | none => rfl
      | some b =>
        refine MoneyManager.rewarded_comm _ ?_
        rw [h.playerId_of_kills ha, h.playerId_of_kills hb, PlayerId.opponent_opponent]
        exact hne

end Rounds

/-! ## All rounds -/

omit [Field K] [LinearOrder K] [FloorRing K] [SquareRoot K] in
/-- The soldier is not about to respawn, or it is nobody's target. -/
def Attackable (st : State K) (z : PlayerId × ℕ) : Prop :=
  ∀ q (k : ℕ) s u, (st.soldiers q)[k]? = some s → s.attackTarget = some (.soldier z.1 z.2) →
    (st.soldiers z.1)[z.2]? = some u → u.state ≠ .dead 0

theorem Attackable.actEffect {r : Ruleset K} {st : State K} {z : PlayerId × ℕ}
    (h : st.Attackable z) (hs : st.Sound r.toConstants) {x : PlayerId × ℕ} (hx : z ≠ x) :
    (st.apply (st.actEffect r.toConstants x.1 x.2)).Attackable z := by
  intro q k s' u' hs' hptr hu'
  obtain ⟨s, hsome, rfl⟩ := Option.map_eq_some_iff.mp ((getElem?_apply st _ q k).symm.trans hs')
  obtain ⟨u, hu, rfl⟩ := Option.map_eq_some_iff.mp ((getElem?_apply st _ z.1 z.2).symm.trans hu')
  have hstate := h q k s u hsome (hs.attackTarget_actEffect x.1 x.2 hsome hptr) hu
  have hne : ¬ (z.1 = x.1 ∧ z.2 = x.2) := fun heq => hx (Prod.ext heq.1 heq.2)
  rw [soldier_actEffect]
  simp only [if_neg hne]
  cases st.hits x.1 x.2 (.soldier z.1 z.2) <;> exact hstate

/-- The soldiers of both players that are still to be updated. -/
structure Pending (r : Ruleset K) (p : PlayerId) (l m : List (PlayerId × ℕ)) (st : State K) :
    Prop where
  sound : st.Sound r.toConstants
  nodup : (l ++ m).Nodup
  left : ∀ x ∈ l, x.1 = p ∧ x.2 < r.numSoldiers
  right : ∀ x ∈ m, x.1 = p.opponent ∧ x.2 < r.numSoldiers
  attackable : ∀ z ∈ l ++ m, st.Attackable z

section Pending

variable {r : Ruleset K} {p : PlayerId} {l m : List (PlayerId × ℕ)} {st : State K}
  {x : PlayerId × ℕ}

theorem Pending.step_left (h : Pending r p (x :: l) m st) :
    Pending r p l m (st.apply (st.actEffect r.toConstants x.1 x.2)) where
  sound := h.sound.actEffect x.1 x.2
  nodup := (List.nodup_cons.mp h.nodup).2
  left := fun z hz => h.left z (List.mem_cons_of_mem _ hz)
  right := h.right
  attackable := fun z hz => (h.attackable z (List.mem_cons_of_mem _ hz)).actEffect h.sound
    fun heq => (List.nodup_cons.mp h.nodup).1 (heq ▸ hz)

theorem Pending.step_right (h : Pending r p l (x :: m) st) :
    Pending r p l m (st.apply (st.actEffect r.toConstants x.1 x.2)) where
  sound := h.sound.actEffect x.1 x.2
  nodup := (List.nodup_middle.mp h.nodup).of_cons
  left := h.left
  right := fun z hz => h.right z (List.mem_cons_of_mem _ hz)
  attackable := fun z hz => by
    have hnodup := List.nodup_cons.mp (List.nodup_middle.mp h.nodup)
    refine (h.attackable z ?_).actEffect h.sound fun heq => hnodup.1 (heq ▸ hz)
    exact List.perm_middle.mem_iff.mpr (List.mem_cons_of_mem _ hz)

/-- **The next soldiers of both players commute.** -/
theorem Pending.comm {y : PlayerId × ℕ} (h : Pending r p (x :: l) (y :: m) st) :
    let E := st.actEffect r.toConstants x.1 x.2
    let F := st.actEffect r.toConstants y.1 y.2
    (st.apply E).apply ((st.apply E).actEffect r.toConstants y.1 y.2) =
      (st.apply F).apply ((st.apply F).actEffect r.toConstants x.1 x.2) := by
  obtain ⟨q, i⟩ := x
  obtain ⟨q', j⟩ := y
  obtain ⟨rfl, hi⟩ := h.left _ (List.mem_cons_self ..)
  obtain ⟨rfl, hj⟩ := h.right _ (List.mem_cons_self ..)
  dsimp only at hi hj ⊢
  obtain ⟨s, hs⟩ := h.sound.exists_soldier q hi
  obtain ⟨u, hu⟩ := h.sound.exists_soldier q.opponent hj
  refine h.sound.actEffect_comm hs hu ?_ ?_
  · intro hptr
    exact h.attackable (q, i) (by simp) q.opponent j u s hu hptr hs
  · intro hptr
    exact h.attackable (q.opponent, j) (by simp) q i s u hs hptr hu

end Pending

/-- **The order of the players in the first phase does not matter**, if nobody's target
is about to respawn. -/
theorem Sound.actAll_comm {r : Ruleset K} {st : State K} (h : st.Sound r.toConstants)
    (hattackable : ∀ z, st.Attackable z) (p : PlayerId) :
    st.actAll r.toConstants (roster r.toConstants [p, p.opponent]) =
      st.actAll r.toConstants (roster r.toConstants [p.opponent, p]) := by
  have hroster : ∀ q q', roster r.toConstants [q, q'] =
      roster r.toConstants [q] ++ roster r.toConstants [q'] := fun q q' => by simp [roster]
  have hnodup : (roster r.toConstants [p, p.opponent]).Nodup := nodup_roster _ (by simp)
  have hmem : ∀ q, ∀ x ∈ roster r.toConstants [q], x.1 = q ∧ x.2 < r.numSoldiers := fun q x hx => by
    simpa using mem_roster.mp hx
  rw [hroster] at hnodup
  rw [State.actAll, State.actAll, hroster, hroster, List.foldl_append, List.foldl_append]
  exact foldl_comm_foldl (I := Pending r p) (fun _ _ _ _ h => h.step_left)
    (fun _ _ _ _ h => h.step_right) (fun _ _ _ _ _ h => h.comm)
    ⟨h, hnodup, hmem p, hmem p.opponent, fun z _ => hattackable z⟩

end State

end Simulator
