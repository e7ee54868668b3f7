import Simulator.Foundation.Counting
import Simulator.State.Blows

/-!
# What the soldiers of one player do to those of the other

While the soldiers of a player are updated, those of the opponent change in one
way only: they take damage.  Which soldiers hit which does not depend on the order,
since positions and orders of the opponent's soldiers stay as they are.

`State.onslaught` adds up what is coming to a soldier, and `Sound.assaulted` says that
this is the damage it has taken when the other player's soldiers are through, and that
a reward is paid for every soldier that is finished off on the way.

## Counting the kills

A reward is paid by the soldier whose hit uses up the last hp, and afterwards the target is not hit
any more in this turn.  So a player is paid, in one phase, as often as there are soldiers of the
opponent that had hp left after the damage collected so far and have none now.  The proof counts
the fallen (`fallen`) before and after every round: a round that finishes a soldier off adds one to
that number and one to the rewards on record, and any other round changes neither
(`Sound.soldierKills_actEffect`).

Both players' soldiers are updated in a turn, one player's first.  The soldiers that come second
have been hit by then, but strike as they would have before (`Assaulted.onslaught_opponent`), as
what they go by, their orders and positions, is not changed by damage.
-/

namespace Simulator

open Foundation

variable {K : Type}

/-- The reward is for a soldier. -/
def Payout.isSoldierKill : Payout → Bool
  | .soldierKill _ => true
  | .towerKill _ | .towerSuicide _ => false

/-- The number of soldiers a player has been paid for. -/
def MoneyManager.soldierKills (m : MoneyManager) (p : PlayerId) : ℕ :=
  (m.payouts p).countP Payout.isSoldierKill

theorem MoneyManager.soldierKills_rewarded (m : MoneyManager) (a : Actor K) (p : PlayerId) :
    (m.rewarded a).soldierKills p = m.soldierKills p +
      if p = a.playerId.opponent ∧ (killPayout a).isSoldierKill = true then 1 else 0 := by
  unfold soldierKills rewarded
  by_cases hp : p = a.playerId.opponent
  · subst hp
    simp [pay, record, List.countP_append, List.countP_cons]
  · simp [pay, record, setBalance, hp]

namespace State

/-- The number of soldiers of a player whose pending damage uses up their hp. -/
def fallen (st : State K) (p : PlayerId) : ℕ :=
  (st.soldiers p).countP fun u => u.latestHp = 0

section Sum

variable [Field K] [LinearOrder K] [SquareRoot K]

/-- The damage that a soldier of player `p` is to do to soldier `j` of the opponent,
when it finds it as `u`. -/
def blow (p : PlayerId) (j : ℕ) (u s : Soldier K) : ℤ :=
  if s.Assails (.soldier p.opponent j) (.soldier u) then s.attackDamage else 0

/-- The damage that all soldiers of player `p` are to do to soldier `j` of the
opponent, when they find it as `u`. -/
def onslaught (st : State K) (p : PlayerId) (j : ℕ) (u : Soldier K) : ℤ :=
  ((st.soldiers p).map (blow p j u)).sum

theorem blow_congr {p : PlayerId} {j : ℕ} {u v : Soldier K} (h : u.position = v.position) :
    blow p j u = blow p j v := by
  ext s
  simp only [blow, Soldier.assails_congr h]

end Sum

variable [Field K] [LinearOrder K] [FloorRing K] [SquareRoot K]

/-! ## One round -/

section Round

variable {r : Ruleset K} {st : State K} {p : PlayerId} {i : ℕ} {s : Soldier K}

theorem Sound.blow_nonneg (h : st.Sound r.toConstants) (hs : (st.soldiers p)[i]? = some s)
    (j : ℕ) (u : Soldier K) : 0 ≤ blow p j u s := by
  unfold blow
  split
  · rw [(h.soldier p i s hs).attackDamage_eq]
    exact r.soldierAttackDamage_nonneg
  · exact le_rfl

theorem Sound.onslaught_nonneg (h : st.Sound r.toConstants) (p : PlayerId) (j : ℕ)
    (u : Soldier K) : 0 ≤ st.onslaught p j u := by
  refine List.sum_nonneg ?_
  intro d hd
  obtain ⟨s, hs, rfl⟩ := List.mem_map.mp hd
  obtain ⟨i, hi⟩ := List.getElem?_of_mem hs
  exact h.blow_nonneg hi j u

/-- **A round, on a soldier of the opponent.** -/
theorem Sound.opponent_actEffect (h : st.Sound r.toConstants) (hs : (st.soldiers p)[i]? = some s)
    {j : ℕ} {u : Soldier K} (hu : (st.soldiers p.opponent)[j]? = some u) :
    ((st.apply (st.actEffect r.toConstants p i)).soldiers p.opponent)[j]? =
      some (u.damage (blow p j u s)) := by
  have hptr : st.deref (.soldier p.opponent j) = some (.soldier u) := by rw [deref_soldier, hu]; rfl
  have hblow : st.blowAt (p, i) (.soldier p.opponent j) = blow p j u s := blowAt_eq hs hptr
  have hround := h.getElem?_actEffect (x := (p, i)) hs (y := (p.opponent, j)) hu
  rw [if_neg fun heq => PlayerId.opponent_ne p (Prod.mk.inj heq).1, hblow] at hround
  exact hround

/-- **A round, on the soldiers of the player itself.** -/
theorem Sound.self_actEffect (h : st.Sound r.toConstants) {j : ℕ} {u : Soldier K}
    (hu : (st.soldiers p)[j]? = some u) :
    ((st.apply (st.actEffect r.toConstants p i)).soldiers p)[j]? =
      some (if j = i then u.next r.toConstants (st.targetOf p i) else u) := by
  rw [getElem?_apply, hu, Option.map_some, soldier_actEffect, h.hits_self, Option.elim_none]
  simp only [true_and]

/-- A blow that finishes a soldier off is a kill. -/
theorem Sound.exists_kills (h : st.Sound r.toConstants) (hs : (st.soldiers p)[i]? = some s)
    {j : ℕ} {u : Soldier K} (hu : (st.soldiers p.opponent)[j]? = some u) (hlatest : u.latestHp ≠ 0)
    (hfallen : (u.damage (blow p j u s)).latestHp = 0) :
    s.attackTarget = some (.soldier p.opponent j) ∧
      st.kills p i = some (.soldier (u.damage s.attackDamage)) := by
  by_cases hassails : s.Assails (.soldier p.opponent j) (.soldier u)
  · have htarget : st.targetOf p i = some (.soldier u) := by simp [targetOf, hs, hassails.1, hu]
    have hstrikes := (Soldier.assails_and_latestHp.mpr ⟨hassails, hlatest⟩).2
    rw [blow, if_pos hassails] at hfallen
    exact ⟨hassails.1, by rw [kills_eq hs htarget]; exact if_pos ⟨hstrikes, hfallen⟩⟩
  · rw [blow, if_neg hassails,
      Soldier.damage_zero (h.soldier p.opponent j u hu).damage_le] at hfallen
    exact absurd hfallen hlatest

/-- A soldier that is not finished off counts as fallen if it did before. -/
theorem Sound.latestHp_blow_eq_zero (h : st.Sound r.toConstants)
    (hs : (st.soldiers p)[i]? = some s) {j : ℕ} {u : Soldier K}
    (hu : (st.soldiers p.opponent)[j]? = some u)
    (hspared : ∀ a, st.kills p i = some a → s.attackTarget ≠ some (.soldier p.opponent j)) :
    (u.damage (blow p j u s)).latestHp = 0 ↔ u.latestHp = 0 := by
  constructor
  · intro hfallen
    by_contra hlatest
    obtain ⟨hptr, hkill⟩ := h.exists_kills hs hu hlatest hfallen
    exact hspared _ hkill hptr
  · intro hzero
    rw [Soldier.damage_of_spent hzero (h.blow_nonneg hs j u)]
    exact hzero

theorem Sound.fallen_actEffect (h : st.Sound r.toConstants) (hs : (st.soldiers p)[i]? = some s)
    (hspared : ∀ j a, st.kills p i = some a → s.attackTarget ≠ some (.soldier p.opponent j)) :
    (st.apply (st.actEffect r.toConstants p i)).fallen p.opponent = st.fallen p.opponent := by
  refine (countP_congr_of_getElem? (length_soldiers_apply ..).symm ?_).symm
  intro j u u' hu hu'
  obtain rfl := Option.some.inj ((h.opponent_actEffect hs hu).symm.trans hu')
  exact decide_eq_decide.mpr (h.latestHp_blow_eq_zero hs hu (hspared j)).symm

theorem Sound.fallen_actEffect_of_strikes (h : st.Sound r.toConstants)
    (hs : (st.soldiers p)[i]? = some s) {j : ℕ} {u : Soldier K}
    (hu : (st.soldiers p.opponent)[j]? = some u)
    (hptr : s.attackTarget = some (.soldier p.opponent j)) (hstrikes : s.Strikes (.soldier u))
    (hspent : (u.damage s.attackDamage).latestHp = 0) :
    (st.apply (st.actEffect r.toConstants p i)).fallen p.opponent = st.fallen p.opponent + 1 := by
  have hblow : blow p j u s = s.attackDamage :=
    if_pos (Soldier.assails_and_latestHp.mp ⟨hptr, hstrikes⟩).1
  -- as far as the count goes, the soldier that is hit is the only one that changes
  have hset : (st.apply (st.actEffect r.toConstants p i)).fallen p.opponent =
      ((st.soldiers p.opponent).set j (u.damage s.attackDamage)).countP
        fun u => u.latestHp = 0 := by
    refine countP_congr_of_getElem? ?_ ?_
    · rw [List.length_set, length_soldiers_apply]
    · intro k v' v hv' hv
      by_cases hk : j = k
      · subst hk
        rw [List.getElem?_set_self (List.getElem?_eq_some_iff.mp hu).1] at hv
        rw [h.opponent_actEffect hs hu, hblow] at hv'
        rw [Option.some.inj (hv'.symm.trans hv)]
      · rw [List.getElem?_set_ne hk] at hv
        obtain rfl := Option.some.inj ((h.opponent_actEffect hs hv).symm.trans hv')
        refine decide_eq_decide.mpr (h.latestHp_blow_eq_zero hs hv fun _ _ hptr' => hk ?_)
        rw [hptr] at hptr'
        exact (ActorPtr.soldier.inj (Option.some.inj hptr')).2
  rw [hset]
  exact countP_set_of_gain hu (decide_eq_false hstrikes.2.2.1) (decide_eq_true hspent)

/-- **A round pays for a soldier when it finishes one off**, and only then. -/
theorem Sound.soldierKills_actEffect (h : st.Sound r.toConstants)
    (hs : (st.soldiers p)[i]? = some s) :
    let st' := st.apply (st.actEffect r.toConstants p i)
    st'.moneyManager.soldierKills p + st.fallen p.opponent =
        st.moneyManager.soldierKills p + st'.fallen p.opponent ∧
      st'.moneyManager.soldierKills p.opponent = st.moneyManager.soldierKills p.opponent := by
  intro st'
  have hmoney : st'.moneyManager = (st.kills p i).elim st.moneyManager st.moneyManager.rewarded :=
    money_actEffect r.toConstants st p i st.moneyManager
  cases hkills : st.kills p i with
  | none =>
    rw [hkills, Option.elim_none] at hmoney
    rw [hmoney, h.fallen_actEffect hs (by simp [hkills])]
    exact ⟨rfl, rfl⟩
  | some a' =>
    rw [hkills, Option.elim_some] at hmoney
    obtain ⟨s', ptr, a, hs', hptr, hderef, hstrikes, rfl, hspent, -⟩ := exists_of_kills hkills
    obtain rfl := Option.some.inj (hs.symm.trans hs')
    have hpays : (a.damage s.attackDamage).playerId.opponent = p := by
      rw [h.playerId_of_kills hkills, PlayerId.opponent_opponent]
    rw [hmoney, MoneyManager.soldierKills_rewarded, MoneyManager.soldierKills_rewarded, hpays]
    simp only [PlayerId.opponent_ne, false_and, if_false, add_zero, and_true, true_and]
    cases ptr with
    | tower q id =>
      obtain ⟨t, -, -, rfl⟩ := h.deref_tower.mp hderef
      rw [h.fallen_actEffect hs fun _ _ _ h' => by simp [hptr] at h']
      rfl
    | soldier q j =>
      obtain ⟨rfl, -⟩ := h.target p i s _ hs hptr
      obtain ⟨u, hu, rfl⟩ := Option.map_eq_some_iff.mp hderef
      rw [h.fallen_actEffect_of_strikes hs hu hptr hstrikes hspent]
      show st.moneyManager.soldierKills p + 1 + _ = _
      omega

end Round

/-! ## All rounds of one player -/

/-- What the first `n` soldiers of player `p` have done to a state. -/
structure Assaulted (c : Constants K) (p : PlayerId) (st : State K) (n : ℕ) (st' : State K) :
    Prop where
  opponent : ∀ (j : ℕ) u, (st.soldiers p.opponent)[j]? = some u →
    (st'.soldiers p.opponent)[j]? =
      some (u.damage (((st.soldiers p).take n).map (blow p j u)).sum)
  acted : ∀ (j : ℕ) u, (st.soldiers p)[j]? = some u → j < n →
    ∃ target, (st'.soldiers p)[j]? = some (u.next c target)
  waiting : ∀ (j : ℕ) u, (st.soldiers p)[j]? = some u → n ≤ j → (st'.soldiers p)[j]? = some u
  paid : st'.moneyManager.soldierKills p + st.fallen p.opponent =
    st.moneyManager.soldierKills p + st'.fallen p.opponent
  unpaid : st'.moneyManager.soldierKills p.opponent = st.moneyManager.soldierKills p.opponent

section Rounds

variable {r : Ruleset K} {st : State K} {p : PlayerId}

theorem Sound.assaulted_zero (h : st.Sound r.toConstants) : Assaulted r.toConstants p st 0 st where
  opponent := fun j u hu => by
    rw [List.take_zero, List.map_nil, List.sum_nil,
      Soldier.damage_zero (h.soldier p.opponent j u hu).damage_le]
    exact hu
  acted := fun _ _ _ hj => absurd hj (Nat.not_lt_zero _)
  waiting := fun _ _ hu _ => hu
  paid := rfl
  unpaid := rfl

/-- **One more soldier.** -/
theorem Assaulted.step {n : ℕ} {st' : State K} (h : Assaulted r.toConstants p st n st')
    (hs' : st'.Sound r.toConstants) (hst : st.Sound r.toConstants)
    (hn : n < (st.soldiers p).length) :
    Assaulted r.toConstants p st (n + 1) (st'.apply (st'.actEffect r.toConstants p n)) := by
  obtain ⟨s, hs⟩ : ∃ s, (st.soldiers p)[n]? = some s := ⟨_, List.getElem?_eq_getElem hn⟩
  have hwaits := h.waiting n s hs le_rfl
  obtain ⟨hpaid, hunpaid⟩ := hs'.soldierKills_actEffect hwaits
  refine ⟨?_, ?_, ?_, ?_, ?_⟩
  · intro j u hu
    have hblow : blow p j (u.damage (((st.soldiers p).take n).map (blow p j u)).sum) s =
        blow p j u s := congrFun (blow_congr rfl) s
    rw [hs'.opponent_actEffect hwaits (h.opponent j u hu), hblow,
      Soldier.damage_damage _ _ (hst.blow_nonneg hs j u), List.take_add_one, hs]
    simp
  · intro j u hu hj
    rcases Nat.lt_succ_iff_lt_or_eq.mp hj with hj | rfl
    · obtain ⟨target, htarget⟩ := h.acted j u hu hj
      exact ⟨target, by rw [hs'.self_actEffect htarget, if_neg hj.ne]⟩
    · exact ⟨_, by rw [hs'.self_actEffect (h.waiting j u hu le_rfl), if_pos rfl]⟩
  · intro j u hu hj
    rw [hs'.self_actEffect (h.waiting j u hu (by omega)), if_neg (by omega)]
  · have := h.paid
    omega
  · exact hunpaid.trans h.unpaid

theorem Sound.assaulted_range (h : st.Sound r.toConstants) (p : PlayerId) {n : ℕ}
    (hn : n ≤ r.numSoldiers) : Assaulted r.toConstants p st n
      (st.actAll r.toConstants ((List.range n).map fun i => (p, i))) := by
  induction n with
  | zero => exact h.assaulted_zero
  | succ n ih =>
    have hlt : n < (st.soldiers p).length := (h.length_soldiers p).symm ▸ hn
    have hstep := (ih (by omega)).step (h.actAll _) h hlt
    rw [List.range_succ, List.map_append]
    simpa [State.actAll, List.foldl_append] using hstep

/-- **All soldiers of a player**: those of the opponent have taken the onslaught, and
the player has been paid for those that it has finished off. -/
theorem Sound.assaulted (h : st.Sound r.toConstants) (p : PlayerId) :
    Assaulted r.toConstants p st r.numSoldiers
      (st.actAll r.toConstants (roster r.toConstants [p])) := by
  simpa [roster] using h.assaulted_range p le_rfl

/-- **After the onslaught.** -/
theorem Assaulted.damaged {st' : State K} (h : Assaulted r.toConstants p st r.numSoldiers st')
    (hst : st.Sound r.toConstants) {j : ℕ} {u : Soldier K}
    (hu : (st.soldiers p.opponent)[j]? = some u) :
    (st'.soldiers p.opponent)[j]? = some (u.damage (st.onslaught p j u)) := by
  rw [h.opponent j u hu, onslaught, List.take_of_length_le (hst.length_soldiers p).le]

/-- A soldier that has been hit strikes as before. -/
theorem Assaulted.onslaught_opponent {st' : State K}
    (h : Assaulted r.toConstants p st r.numSoldiers st') (hst : st.Sound r.toConstants)
    (hst' : st'.Sound r.toConstants) (j : ℕ) (w : Soldier K) :
    st'.onslaught p.opponent j w = st.onslaught p.opponent j w := by
  have hmap : (st'.soldiers p.opponent).map (blow p.opponent j w) =
      (st.soldiers p.opponent).map (blow p.opponent j w) := by
    refine List.ext_getElem? ?_
    intro k
    rw [List.getElem?_map, List.getElem?_map]
    cases hk : (st.soldiers p.opponent)[k]? with
    | none =>
      have hlen := (hst.length_soldiers p.opponent).trans (hst'.length_soldiers p.opponent).symm
      rw [List.getElem?_eq_none_iff] at hk
      rw [List.getElem?_eq_none (hlen ▸ hk)]
    | some s =>
      rw [h.damaged hst hk]
      rfl
  rw [onslaught, onslaught, hmap]

end Rounds

end State

end Simulator
