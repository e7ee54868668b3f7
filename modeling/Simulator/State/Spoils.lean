import Simulator.Foundation.Accounts
import Simulator.State.Blows

/-!
# Which kills are paid for

A soldier that uses up what hp its target has left is paid at once, and the payment is put on
record under the id of the target.  So the record of the soldiers' phase is about single
actors, and a statement about its length would not do: a player that is paid twice for one
tower and not at all for another has as many payments as it should have.

## Dues

`State.dues` is the set of rewards that there are grounds for: one for each actor of a player
whose hp is used up, be it by a tower's loss of hp or by the damage that waits for a
soldier's late update.  The set grows while the soldiers of the other player act, because an
actor that is down is not helped up by a hit, and the player is paid just for what is added to
it.  In terms of accounts, the payments settle the dues (`Foundation.Settles`).

## The phases of a player

All of this is about the actors of one player while the soldiers of the other act
(`Sound.settles_roster`).  When its own soldiers act, they may respawn, so that dues go away
again; but then nothing is paid for them, since soldiers hit only actors of the opponent
(`Sound.payouts_roster`).  In the same way the towers of a player stay as they are while its
own soldiers act (`Sound.towerManagers_roster_self`).
-/

namespace Simulator

open Foundation

variable {K : Type}

namespace State

/-- The rewards for the actors of a player whose hp is used up. -/
def dues (st : State K) (q : PlayerId) : Set Payout :=
  {x | ∃ ptr a, st.deref ptr = some a ∧ a.playerId = q ∧ a.latestHp = 0 ∧
    MoneyManager.killPayout a = x}

/-! ## Rewards and actors -/

section Actors

variable [Field K] [LinearOrder K] [FloorRing K] {r : Ruleset K} {st : State K} {q : PlayerId}

/-- **An actor is known by its reward**, among those of a player. -/
theorem Sound.eq_of_killPayout (h : st.Sound r.toConstants) {ptr ptr' : ActorPtr} {a a' : Actor K}
    (ha : st.deref ptr = some a) (ha' : st.deref ptr' = some a') (hq : a.playerId = a'.playerId)
    (hid : MoneyManager.killPayout a = MoneyManager.killPayout a') : ptr = ptr' := by
  cases ptr with
  | soldier q i =>
    obtain ⟨u, hu, rfl⟩ := Option.map_eq_some_iff.mp ha
    cases ptr' with
    | soldier q' j =>
      obtain ⟨v, hv, rfl⟩ := Option.map_eq_some_iff.mp ha'
      have hsound := h.soldier q i u hu
      have hsound' := h.soldier q' j v hv
      obtain rfl : q = q' := hsound.playerId_eq.symm.trans (hq.trans hsound'.playerId_eq)
      have hids : u.id = v.id := Payout.soldierKill.inj hid
      rw [hsound.id_eq, hsound'.id_eq] at hids
      obtain rfl : i = j := by omega
      rfl
    | tower q' id =>
      obtain ⟨t, -, -, rfl⟩ := h.deref_tower.mp ha'
      cases hid
  | tower q id =>
    obtain ⟨t, ht, rfl, rfl⟩ := h.deref_tower.mp ha
    cases ptr' with
    | soldier q' j =>
      obtain ⟨v, -, rfl⟩ := Option.map_eq_some_iff.mp ha'
      cases hid
    | tower q' id' =>
      obtain ⟨t', ht', rfl, rfl⟩ := h.deref_tower.mp ha'
      have hplayer := ((h.manager q).tower t ht).playerId_eq
      have hplayer' := ((h.manager q').tower t' ht').playerId_eq
      obtain rfl : q = q' := hplayer.symm.trans (hq.trans hplayer')
      rw [Payout.towerKill.inj hid]

theorem Sound.mem_dues (h : st.Sound r.toConstants) {ptr : ActorPtr} {a : Actor K}
    (ha : st.deref ptr = some a) :
    MoneyManager.killPayout a ∈ st.dues a.playerId ↔ a.latestHp = 0 := by
  constructor
  · rintro ⟨ptr', a', ha', hq, hspent, hid⟩
    obtain rfl := h.eq_of_killPayout ha' ha hq hid
    obtain rfl := Option.some.inj (ha'.symm.trans ha)
    exact hspent
  · exact fun hspent => ⟨ptr, a, ha, rfl, hspent, rfl⟩

theorem Sound.soldierKill_mem_dues (h : st.Sound r.toConstants) {j : ℕ} {u : Soldier K}
    (hu : (st.soldiers q)[j]? = some u) : .soldierKill u.id ∈ st.dues q ↔ u.latestHp = 0 := by
  have hfound : st.deref (.soldier q j) = some (.soldier u) := by
    rw [deref_soldier, hu, Option.map_some]
  have hdue := h.mem_dues hfound
  rwa [show (Actor.soldier u).playerId = q from (h.soldier q j u hu).playerId_eq] at hdue

theorem Sound.towerKill_mem_dues (h : st.Sound r.toConstants) {t : Tower K}
    (ht : t ∈ (st.towerManagers q).allocatedTowers) : .towerKill t.id ∈ st.dues q ↔ t.hp = 0 := by
  have hdue := h.mem_dues (h.deref_tower.mpr ⟨t, ht, rfl, rfl⟩)
  rwa [show (Actor.tower t).playerId = q from ((h.manager q).tower t ht).playerId_eq] at hdue

end Actors

variable [Field K] [LinearOrder K] [FloorRing K] [SquareRoot K]

/-! ## One round -/

section Round

variable {r : Ruleset K} {st : State K} {p : PlayerId} {i : ℕ} {s : Soldier K} {ptr : ActorPtr}
  {a b : Actor K}

/-- **A round, on an actor of the opponent**: it takes the blow that is meant for it. -/
theorem Sound.deref_actEffect (h : st.Sound r.toConstants) (hs : (st.soldiers p)[i]? = some s)
    (ha : st.deref ptr = some a) (hne : a.playerId ≠ p) :
    (st.apply (st.actEffect r.toConstants p i)).deref ptr =
      some (a.damage (st.blowAt (p, i) ptr)) := by
  cases ptr with
  | soldier q j =>
    obtain ⟨u, hu, rfl⟩ := Option.map_eq_some_iff.mp ha
    have hq : (q, j) ≠ (p, i) := by
      intro heq
      obtain ⟨rfl, rfl⟩ := Prod.mk.inj heq
      exact hne (h.soldier q j u hu).playerId_eq
    rw [deref_soldier, h.getElem?_actEffect (x := (p, i)) hs (y := (q, j)) hu, if_neg hq]
    rfl
  | tower q id =>
    obtain ⟨t, ht, rfl, rfl⟩ := h.deref_tower.mp ha
    refine (h.actEffect p i).deref_tower.mpr ⟨t.damage (st.blowAt (p, i) (.tower q t.id)), ?_, rfl,
      rfl⟩
    rw [h.towerManagers_actEffect (x := (p, i)) hs, TowerManager.allocatedTowers_mapTowers]
    exact List.mem_map_of_mem ht

/-- An actor that is there after a round was there before, with the same player. -/
theorem Sound.exists_of_deref_actEffect (h : st.Sound r.toConstants)
    (hs : (st.soldiers p)[i]? = some s)
    (hb : (st.apply (st.actEffect r.toConstants p i)).deref ptr = some b) :
    ∃ a, st.deref ptr = some a ∧ a.playerId = b.playerId := by
  have hsound := h.actEffect p i
  cases ptr with
  | soldier q j =>
    obtain ⟨v, hv, rfl⟩ := Option.map_eq_some_iff.mp hb
    obtain ⟨u, hu⟩ := h.exists_soldier q (hsound.slot_lt hv)
    refine ⟨.soldier u, by rw [deref_soldier, hu, Option.map_some], ?_⟩
    exact (h.soldier q j u hu).playerId_eq.trans (hsound.soldier q j v hv).playerId_eq.symm
  | tower q id =>
    obtain ⟨w, hw, rfl, rfl⟩ := hsound.deref_tower.mp hb
    rw [h.towerManagers_actEffect (x := (p, i)) hs, TowerManager.allocatedTowers_mapTowers] at hw
    obtain ⟨t, ht, rfl⟩ := List.mem_map.mp hw
    exact ⟨.tower t, h.deref_tower.mpr ⟨t, ht, rfl, rfl⟩, rfl⟩

theorem Sound.mem_dues_actEffect (h : st.Sound r.toConstants)
    (hs : (st.soldiers p)[i]? = some s) {x : Payout} :
    x ∈ (st.apply (st.actEffect r.toConstants p i)).dues p.opponent ↔
      ∃ ptr a, st.deref ptr = some a ∧ a.playerId = p.opponent ∧
        a.latestHp ≤ st.blowAt (p, i) ptr ∧ MoneyManager.killPayout a = x := by
  have hne : ∀ a : Actor K, a.playerId = p.opponent → a.playerId ≠ p := fun a ha =>
    ha ▸ PlayerId.opponent_ne p
  have hspent : ∀ (a : Actor K) (d : ℤ), (a.damage d).latestHp = 0 ↔ a.latestHp ≤ d := fun a d => by
    rw [Actor.latestHp_damage]
    omega
  have hplayer : ∀ (a : Actor K) (d : ℤ), (a.damage d).playerId = a.playerId := fun a d => by
    cases a <;> rfl
  have hpayout : ∀ (a : Actor K) (d : ℤ),
      MoneyManager.killPayout (a.damage d) = MoneyManager.killPayout a := fun a d => by
    cases a <;> rfl
  constructor
  · rintro ⟨ptr, b, hb, hq, hzero, rfl⟩
    obtain ⟨a, ha, hab⟩ := h.exists_of_deref_actEffect hs hb
    have hq' := hab.trans hq
    obtain rfl := Option.some.inj (hb.symm.trans (h.deref_actEffect hs ha (hne a hq')))
    exact ⟨ptr, a, ha, hq', (hspent a _).mp hzero, (hpayout a _).symm⟩
  · rintro ⟨ptr, a, ha, hq, hle, rfl⟩
    exact ⟨ptr, _, h.deref_actEffect hs ha (hne a hq), (hplayer a _).trans hq, (hspent a _).mpr hle,
      hpayout a _⟩

/-- **A round of a player settles its dues**: if it uses up the hp of an actor, that is paid
for, and nothing else is. -/
theorem Sound.settles_actEffect (h : st.Sound r.toConstants) (hs : (st.soldiers p)[i]? = some s) :
    let st' := st.apply (st.actEffect r.toConstants p i)
    ∃ new, st'.moneyManager.payouts p = st.moneyManager.payouts p ++ new ∧
      Settles (st.dues p.opponent) (st'.dues p.opponent) new := by
  intro st'
  have hmoney : st'.moneyManager = (st.kills p i).elim st.moneyManager st.moneyManager.rewarded :=
    money_actEffect r.toConstants st p i st.moneyManager
  -- what was due is still due
  have hsubset : st.dues p.opponent ⊆ st'.dues p.opponent := by
    rintro x ⟨ptr, a, ha, hq, hzero, rfl⟩
    exact (h.mem_dues_actEffect hs).mpr ⟨ptr, a, ha, hq, hzero ▸ h.blowAt_nonneg _ _, rfl⟩
  cases hkills : st.kills p i with
  | none =>
    rw [hkills, Option.elim_none] at hmoney
    refine ⟨[], by rw [hmoney, List.append_nil], settles_nil (Set.Subset.antisymm ?_ hsubset)⟩
    intro x hx
    obtain ⟨ptr, a, ha, hq, hle, rfl⟩ := (h.mem_dues_actEffect hs).mp hx
    refine ⟨ptr, a, ha, hq, ?_, rfl⟩
    have hnonneg := h.latestHp_nonneg ha
    by_contra hne
    have hlt := lt_latestHp_of_kills_eq_none (x := (p, i)) hs ha (by omega) hkills
    omega
  | some b =>
    rw [hkills, Option.elim_some] at hmoney
    obtain ⟨ptr, a, hptr, ha, hlive, hle, rfl⟩ :=
      exists_of_kills_eq_some (x := (p, i)) hs hkills
    have hq : a.playerId = p.opponent := h.playerId_of_deref (h.target p i s ptr hs hptr) ha
    have hpayouts : st'.moneyManager.payouts p =
        st.moneyManager.payouts p ++ [MoneyManager.killPayout a] := by
      rw [hmoney, Actor.rewarded_damage, MoneyManager.rewarded, hq, PlayerId.opponent_opponent,
        MoneyManager.payouts_pay, Function.update_self]
    refine ⟨_, hpayouts, settles_singleton ?_ (Set.Subset.antisymm ?_ ?_)⟩
    · intro hdue
      rw [← hq] at hdue
      exact hlive ((h.mem_dues ha).mp hdue)
    · intro x hx
      obtain ⟨ptr', a', ha', hq', hle', rfl⟩ := (h.mem_dues_actEffect hs).mp hx
      by_cases heq : ptr' = ptr
      · subst heq
        obtain rfl := Option.some.inj (ha'.symm.trans ha)
        exact .inl rfl
      · -- the blow was not meant for this one
        have hzero : st.blowAt (p, i) ptr' = 0 := blowAt_of_ne (x := (p, i)) hs fun hptr' =>
          heq (Option.some.inj (hptr'.symm.trans hptr))
        have hnonneg := h.latestHp_nonneg ha'
        exact .inr ⟨ptr', a', ha', hq', by omega, rfl⟩
    · refine Set.insert_subset ?_ hsubset
      exact (h.mem_dues_actEffect hs).mpr ⟨ptr, a, ha, hq, hle, rfl⟩

theorem Sound.payouts_actEffect (h : st.Sound r.toConstants) (p : PlayerId) (i : ℕ) {q : PlayerId}
    (hq : q ≠ p) : (st.apply (st.actEffect r.toConstants p i)).moneyManager.payouts q =
      st.moneyManager.payouts q := by
  rw [moneyManager_apply, money_actEffect]
  cases hkills : st.kills p i with
  | none => rfl
  | some a =>
    rw [Option.elim_some, MoneyManager.rewarded, h.playerId_of_kills hkills,
      PlayerId.opponent_opponent, MoneyManager.payouts_pay, Function.update_of_ne hq]

end Round

/-! ## All rounds of a player -/

section Rounds

variable {r : Ruleset K} {st : State K}

/-- **The soldiers of a player settle its dues.** -/
theorem Sound.settles_roster (h : st.Sound r.toConstants) (p : PlayerId) :
    let st' := st.actAll r.toConstants (roster r.toConstants [p])
    ∃ kills, st'.moneyManager.payouts p = st.moneyManager.payouts p ++ kills ∧
      Settles (st.dues p.opponent) (st'.dues p.opponent) kills :=
  h.actAll_invariant (I := fun st' => ∃ kills,
      st'.moneyManager.payouts p = st.moneyManager.payouts p ++ kills ∧
        Settles (st.dues p.opponent) (st'.dues p.opponent) kills)
    ⟨[], by rw [List.append_nil], settles_nil rfl⟩
    fun mid hmid ⟨kills, hpayouts, hsettles⟩ x hx => by
      obtain ⟨hp, hi⟩ := mem_roster.mp hx
      obtain ⟨s, hs⟩ := hmid.exists_soldier x.1 hi
      obtain ⟨new, hnew, hsettles'⟩ := hmid.settles_actEffect hs
      rw [List.mem_singleton] at hp
      rw [hp] at hnew hsettles' ⊢
      exact ⟨kills ++ new, by rw [hnew, hpayouts, List.append_assoc], hsettles.trans hsettles'⟩

theorem Sound.payouts_roster (h : st.Sound r.toConstants) {p q : PlayerId} (hq : q ≠ p) :
    (st.actAll r.toConstants (roster r.toConstants [p])).moneyManager.payouts q =
      st.moneyManager.payouts q :=
  h.actAll_invariant (I := fun st' => st'.moneyManager.payouts q = st.moneyManager.payouts q) rfl
    fun mid hmid hpayouts x hx => by
      obtain ⟨hp, -⟩ := mem_roster.mp hx
      rw [List.mem_singleton] at hp
      exact (hmid.payouts_actEffect x.1 x.2 (hp ▸ hq)).trans hpayouts

theorem Sound.towerManagers_roster_self (h : st.Sound r.toConstants) (p : PlayerId) :
    (st.actAll r.toConstants (roster r.toConstants [p])).towerManagers p = st.towerManagers p :=
  h.actAll_invariant (I := fun st' => st'.towerManagers p = st.towerManagers p) rfl
    fun mid hmid hmanager x hx => by
      obtain ⟨hp, -⟩ := mem_roster.mp hx
      rw [List.mem_singleton] at hp
      rw [towerManagers_apply, ← hmanager, ← hp]
      refine Eq.trans (TowerManager.mapTowers_congr ?_) (TowerManager.mapTowers_id _)
      intro t _
      exact hmid.tower_actEffect_self x.1 x.2 t

end Rounds

end State

end Simulator
