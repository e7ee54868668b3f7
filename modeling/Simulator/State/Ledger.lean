import Mathlib.Data.List.Forall2
import Simulator.Foundation.Accounts
import Simulator.State.Balances
import Simulator.State.Update

/-!
# The accounts of the players

`MoneyManager` keeps balances.  An account says where they come from: `Posted` lists
what has been charged to a player and what it has been paid between two states of the
money, as the entries of an account whose deposits are wrapped around and capped.  The entries
are not in the program.  They are chosen by the proof, and what ties them to the program is that
the balance after is what the entries make of the balance before, and that the rewards on record
are the sources of the entries.

## The towers' phase

The update of a tower manager charges the price of every build and of every upgrade
that is queued, and pays for every demolition what the table has for the level the tower
had before.  The three come in this order, and each is a loop over a queue with an entry for every
round (`posted_builds`, `posted_upgrades`, `posted_suicides`).

That the level is the one from before needs an argument, since the upgrades are carried out first:
no tower is queued for both, and the towers that have just been built have ids that no request
names (`repays_of_purchases`).  The other player's account is not touched.

## The soldiers' phases

The update of a soldier pays for the actor it kills, if it kills one.  `Bounty` says what such an
entry can be: a soldier of the opponent at the price of all soldiers, or a tower of the opponent
that has no hp left, at the price of its level.  An entry that is justified stays so while the
other soldiers are updated, since soldiers keep their ids and dead towers their level.  The late
updates pay nothing.
-/

namespace Simulator

open Foundation

variable {K : Type}

/-- Below the end of the type, a deposit adds at most its amount. -/
theorem prudent_credited {maxMoney : ℤ} (h : 0 ≤ maxMoney) :
    Prudent (credited maxMoney) (2 ^ 63 - 1) := by
  intro balance amount hbalance hamount hfits
  unfold credited
  rw [int64_eq (by omega) (by omega)]
  split <;> omega

theorem credited_of_le {maxMoney balance amount : ℤ} (hbalance : 0 ≤ balance)
    (hamount : 0 ≤ amount) (hfits : balance + amount < 2 ^ 63)
    (hle : balance + amount ≤ maxMoney) : credited maxMoney balance amount = balance + amount := by
  unfold credited
  rw [int64_eq (by omega) hfits, if_neg (by omega)]

namespace MoneyManager

/-- Between `m` and `m'` the entries `l` have been made on the account of player `p`. -/
structure Posted (m m' : MoneyManager) (p : PlayerId) (l : List (Posting Payout ℤ)) : Prop where
  maxMoney : m'.maxMoney = m.maxMoney
  money : m'.playerMoney p = balanceAfter (credited m.maxMoney) (m.playerMoney p) l
  payouts : m'.payouts p = m.payouts p ++ sources l
  covered : Covered (credited m.maxMoney) (m.playerMoney p) l
  proper : ∀ x ∈ l, x.IsProper

section Posted

variable {m m' m'' : MoneyManager} {p : PlayerId} {l l' : List (Posting Payout ℤ)}

theorem posted_nil (hmax : m'.maxMoney = m.maxMoney)
    (hmoney : m'.playerMoney p = m.playerMoney p) (hpayouts : m'.payouts p = m.payouts p) :
    m.Posted m' p [] where
  maxMoney := hmax
  money := hmoney
  payouts := by rw [hpayouts, sources, List.filterMap_nil, List.append_nil]
  covered := trivial
  proper := fun _ hx => absurd hx List.not_mem_nil

theorem Posted.trans (h : m.Posted m' p l) (h' : m'.Posted m'' p l') :
    m.Posted m'' p (l ++ l') where
  maxMoney := h'.maxMoney.trans h.maxMoney
  money := by rw [h'.money, h.money, h.maxMoney, balanceAfter_append]
  payouts := by rw [h'.payouts, h.payouts, sources_append, List.append_assoc]
  covered := covered_append.mpr ⟨h.covered, by rw [← h.money, ← h.maxMoney]; exact h'.covered⟩
  proper := fun x hx => (List.mem_append.mp hx).elim (h.proper x) (h'.proper x)

theorem posted_pay (m : MoneyManager) (p : PlayerId) {amount : ℤ} (hpos : 0 < amount)
    (payout : Payout) : m.Posted (m.pay p amount payout) p [.credit payout amount] where
  maxMoney := rfl
  money := by rw [playerMoney_pay, Function.update_self, increased_eq]; rfl
  payouts := by rw [payouts_pay, Function.update_self]; rfl
  covered := ⟨trivial, trivial⟩
  proper := fun x hx => by
    obtain rfl := List.mem_singleton.mp hx
    exact ⟨le_refl _, hpos.le⟩

theorem posted_pay_of_ne (m : MoneyManager) {p q : PlayerId} (hq : q ≠ p) (amount : ℤ)
    (payout : Payout) : m.Posted (m.pay p amount payout) q [] :=
  posted_nil rfl (by rw [playerMoney_pay, Function.update_of_ne hq])
    (by rw [payouts_pay, Function.update_of_ne hq])

theorem posted_debits {amounts : List ℤ} (hnonneg : ∀ a ∈ amounts, 0 ≤ a)
    (hle : amounts = [] ∨ amounts.sum ≤ m.playerMoney p) :
    m.Posted (m.setBalance p (m.playerMoney p - amounts.sum)) p (amounts.map .debit) where
  maxMoney := rfl
  money := by rw [playerMoney_setBalance, Function.update_self, balanceAfter_debits]
  payouts := by rw [payouts_setBalance, sources_debits, List.append_nil]
  covered := by
    rcases hle with rfl | hle
    · trivial
    · exact covered_debits hnonneg hle
  proper := fun x hx => by
    obtain ⟨a, ha, rfl⟩ := List.mem_map.mp hx
    exact ⟨hnonneg a ha, le_refl _⟩

end Posted

end MoneyManager

/-! ## The towers' phase -/

/-- The entry for the demolition of one of the towers: what the table has for its
level. -/
def Repays (c : Constants K) (towers : List (Tower K)) (towerId : ℤ)
    (x : Posting Payout ℤ) : Prop :=
  ∃ t ∈ towers, t.id = towerId ∧ ∃ amount,
    vectorAt c.towerSuicideRewardAmounts (t.towerLevel - 1) = .ok amount ∧
      x = .credit (.towerSuicide towerId) amount

/-- The entries for the builds and the upgrades that are queued. -/
def TowerManager.purchases (c : Constants K) (m : TowerManager K) : List (Posting Payout ℤ) :=
  (m.towersToBuildOffsets.map fun _ => TowerEnv.buildCost c).map .debit ++
    (m.towersToUpgrade.map (TowerEnv.upgradeCost c m.towers)).map .debit

theorem TowerManager.sources_purchases (c : Constants K) (m : TowerManager K) :
    sources (m.purchases c) = [] := by
  rw [purchases, sources_append, sources_debits, sources_debits, List.append_nil]

/-- The entries for demolitions are on record in their order. -/
theorem sources_of_repays {c : Constants K} {towers : List (Tower K)} {l : List ℤ}
    {xs : List (Posting Payout ℤ)} (h : List.Forall₂ (Repays c towers) l xs) :
    sources xs = l.map Payout.towerSuicide := by
  induction h with
  | nil => rfl
  | cons hx _ ih =>
    obtain ⟨t, -, -, amount, -, rfl⟩ := hx
    rw [List.map_cons, ← ih]
    rfl

namespace TowerEnv

open TowerManager

/-- **The demolitions**, on the account of their player. -/
theorem posted_suicides {c : Constants K} {p : PlayerId} {e e' : TowerEnv K}
    (hplayer : ∀ t ∈ e.manager.towers, t.playerId = p)
    (htable : e.moneyManager.towerSuicideRewardAmounts = c.towerSuicideRewardAmounts)
    {l : List ℤ} (hloop : l.foldlM suicideNext e = .ok e') :
    ∃ xs, List.Forall₂ (Repays c e.manager.towers) l xs ∧
      e.moneyManager.Posted e'.moneyManager p xs := by
  induction l generalizing e with
  | nil =>
    obtain rfl := Except.ok.inj hloop
    exact ⟨[], .nil, MoneyManager.posted_nil rfl rfl rfl⟩
  | cons towerId l ih =>
    obtain ⟨e₁, hround, hrest⟩ := bind_eq_ok.mp hloop
    obtain ⟨i, t, amount, hi, ht, -, hamount, hpos, rfl⟩ := suicideNext_eq_ok.mp hround
    have hmem := List.mem_of_getElem? ht
    obtain rfl : t.id = towerId := by
      obtain ⟨t', ht', hid⟩ := getElem?_of_towerIndex hi
      obtain rfl := Option.some.inj (ht.symm.trans ht')
      exact hid
    -- a tower that has been demolished has kept its id and its level
    have hold : ∀ u ∈ (e.demolished i t amount).manager.towers, ∃ v ∈ e.manager.towers,
        u.id = v.id ∧ u.playerId = v.playerId ∧ u.towerLevel = v.towerLevel := by
      intro u hu
      rcases List.mem_or_eq_of_mem_set hu with hu | rfl
      · exact ⟨u, hu, rfl, rfl, rfl⟩
      · exact ⟨t, hmem, rfl, rfl, rfl⟩
    obtain ⟨xs, hxs, hposted⟩ := ih (e := e.demolished i t amount) (fun u hu => by
      obtain ⟨v, hv, -, hv', -⟩ := hold u hu
      exact hv'.trans (hplayer v hv)) htable hrest
    have hpay : e.moneyManager.Posted (e.demolished i t amount).moneyManager p
        [.credit (.towerSuicide t.id) amount] :=
      hplayer t hmem ▸ MoneyManager.posted_pay e.moneyManager t.playerId hpos _
    refine ⟨_, .cons ⟨t, hmem, rfl, amount, htable ▸ hamount, rfl⟩ (hxs.imp ?_),
      hpay.trans hposted⟩
    intro id x
    rintro ⟨u, hu, rfl, amount', hamount', rfl⟩
    obtain ⟨v, hv, hvid, -, hlevel⟩ := hold u hu
    exact ⟨v, hv, hvid.symm, amount', hlevel ▸ hamount', rfl⟩

variable [Field K] [LinearOrder K] [FloorRing K] [IsStrictOrderedRing K]

omit [Field K] [LinearOrder K] [FloorRing K] [IsStrictOrderedRing K] in
theorem upgradeCost_nonneg {r : Ruleset K} (towers : List (Tower K)) (towerId : ℤ) :
    0 ≤ upgradeCost r.toConstants towers towerId := by
  simpa using sum_upgradeCost_nonneg (r := r) towers [towerId]

omit [Field K] [LinearOrder K] [FloorRing K] [IsStrictOrderedRing K] in
/-- **The builds**, each at the price of the lowest level. -/
theorem posted_builds {r : Ruleset K} {m : MoneyManager} {p : PlayerId} {offsets : List (Vector K)}
    (hafford : offsets = [] ∨ offsets.length * buildCost r.toConstants ≤ m.playerMoney p) :
    m.Posted (m.setBalance p (m.playerMoney p - offsets.length * buildCost r.toConstants)) p
      ((offsets.map fun _ => buildCost r.toConstants).map .debit) := by
  have hcost : 0 ≤ buildCost r.toConstants :=
    (r.towerBuildCosts_pos _ (mem_of_vectorAt (exists_vectorAt_zero (r := r) rfl))).le
  have hsum : (offsets.map fun _ => buildCost r.toConstants).sum =
      offsets.length * buildCost r.toConstants := by
    rw [List.map_const', List.sum_replicate, nsmul_eq_mul]
  rw [← hsum] at hafford ⊢
  refine MoneyManager.posted_debits ?_ (hafford.imp_left ?_)
  · intro a ha
    obtain ⟨_, -, rfl⟩ := List.mem_map.mp ha
    exact hcost
  · intro hnil
    rw [hnil, List.map_nil]

omit [Field K] [LinearOrder K] [FloorRing K] [IsStrictOrderedRing K] in
/-- **The upgrades**, each at the price of the level after the one the tower has. -/
theorem posted_upgrades {r : Ruleset K} {m : MoneyManager} {p : PlayerId}
    {towers : List (Tower K)} {ids : List ℤ}
    (hafford : ids = [] ∨ (ids.map (upgradeCost r.toConstants towers)).sum ≤ m.playerMoney p) :
    m.Posted
      (m.setBalance p (m.playerMoney p - (ids.map (upgradeCost r.toConstants towers)).sum)) p
      ((ids.map (upgradeCost r.toConstants towers)).map .debit) := by
  refine MoneyManager.posted_debits ?_ (hafford.imp_left ?_)
  · intro a ha
    obtain ⟨id, -, rfl⟩ := List.mem_map.mp ha
    exact upgradeCost_nonneg towers id
  · intro hnil
    rw [hnil, List.map_nil]

omit [IsStrictOrderedRing K] in
/-- A demolition pays for the level of before the builds and the upgrades: no tower is queued for
both an upgrade and a demolition, and a new tower has an id that no request names. -/
theorem repays_of_purchases {r : Ruleset K} {p : PlayerId} {e : TowerEnv K}
    (h : e.Sound r.toConstants p)
    (hq : e.manager.Queued r.toConstants (e.moneyManager.playerMoney p))
    {elementSize : ℤ} {id : ℤ} (hid : id ∈ e.manager.towersToSuicide) {x : Posting Payout ℤ}
    (hx : Repays r.toConstants ((e.manager.towers ++ freshTowers r.toConstants p elementSize
      e.actorIdIncrement e.manager.towersToBuildOffsets).map fun t =>
        if t.id ∈ e.manager.towersToUpgrade then upgradedTower r.toConstants t else t) id x) :
    Repays r.toConstants e.manager.towers id x := by
  obtain ⟨t, ht, rfl, amount, hamount, rfl⟩ := hx
  obtain ⟨u, hu, rfl⟩ := List.mem_map.mp ht
  have huid : (if u.id ∈ e.manager.towersToUpgrade then upgradedTower r.toConstants u
      else u).id = u.id := by
    split <;> rfl
  rw [huid] at hid ⊢
  rw [if_neg fun hup => hq.disjoint u.id hup hid] at hamount
  rcases List.mem_append.mp hu with hu | hu
  · exact ⟨u, hu, rfl, amount, hamount, rfl⟩
  · obtain ⟨v, hv, hvid⟩ := hq.suicides u.id hid
    obtain ⟨_, -, id', hle, rfl⟩ := mem_freshTowers hu
    have hlt := h.manager.id_lt v (mem_allocatedTowers_of_mem hv)
    change v.id = id' at hvid
    omega

/-- **The update of a tower manager**, on the accounts: its player is charged for what is
queued and paid for the demolitions, and the other player is neither. -/
theorem posted_update {r : Ruleset K} {p : PlayerId} {e e' : TowerEnv K}
    (h : e.Sound r.toConstants p)
    (hq : e.manager.Queued r.toConstants (e.moneyManager.playerMoney p))
    (hrun : update r.toConstants e = .ok e') :
    (∃ xs, List.Forall₂ (Repays r.toConstants e.manager.towers) e.manager.towersToSuicide xs ∧
      e.moneyManager.Posted e'.moneyManager p (e.manager.purchases r.toConstants ++ xs)) ∧
    ∀ q, q ≠ p → e.moneyManager.Posted e'.moneyManager q [] := by
  obtain ⟨e₁, e₂, h₁, h₂, hs₂, -, hm₂, hmoney₂, -⟩ := purchases_spec h hq
  have hbuilds := posted_builds hq.builds_affordable
  have hupgrades := posted_upgrades (m := e.moneyManager.setBalance p
    (e.moneyManager.playerMoney p - e.manager.towersToBuildOffsets.length *
      buildCost r.toConstants)) (p := p) (by
    rw [MoneyManager.playerMoney_setBalance, Function.update_self]
    exact hq.upgrades_affordable)
  rw [MoneyManager.playerMoney_setBalance, Function.update_self, ← hmoney₂] at hupgrades
  have hqueue : e₂.manager.towersToSuicide = e.manager.towersToSuicide := by rw [hm₂]
  obtain ⟨e₃, h₃, hdeaths⟩ : ∃ e₃, e.manager.towersToSuicide.foldlM suicideNext e₂ = .ok e₃ ∧
      handleTowerDeathUpdates r.toConstants e₃ = .ok e' := by
    simpa only [update, h₁, ok_bind, h₂, handleTowerSuicideUpdates, hqueue, bind_eq_ok] using hrun
  have hmoney₄ : e'.moneyManager = e₃.moneyManager :=
    (manager_of_deaths (e := e₃.aged) e₃.manager.towers (List.append_nil _).symm hdeaths).2.1
  obtain ⟨xs, hxs, hsuicides⟩ := posted_suicides (c := r.toConstants) (p := p)
    (fun t ht => (hs₂.manager.tower t (mem_allocatedTowers_of_mem ht)).playerId_eq)
    hs₂.tables.towerSuicide h₃
  have hrepays : List.Forall₂ (Repays r.toConstants e.manager.towers)
      e.manager.towersToSuicide xs := by
    have hqueued := (List.forall₂_and_left (p := (· ∈ e.manager.towersToSuicide)) _ _).mpr
      ⟨fun id hid => hid, hxs⟩
    refine hqueued.imp ?_
    intro id x hx
    rw [hm₂] at hx
    exact repays_of_purchases h hq hx.1 hx.2
  have hposted : e.moneyManager.Posted e'.moneyManager p
      (e.manager.purchases r.toConstants ++ xs) :=
    hmoney₄ ▸ (hbuilds.trans hupgrades).trans hsuicides
  obtain ⟨e₄, hrun', -, -, -, hpayouts, hother, -⟩ := update_spec h hq
  obtain rfl := Except.ok.inj (hrun.symm.trans hrun')
  exact ⟨⟨xs, hrepays, hposted⟩, fun q hqp => MoneyManager.posted_nil hposted.maxMoney
    (hother q hqp) (by rw [hpayouts, Function.update_of_ne hqp])⟩

end TowerEnv

namespace State

variable [Field K] [LinearOrder K] [FloorRing K] [IsStrictOrderedRing K]

theorem Sound.posted_updateTowers {r : Ruleset K} {st st' : State K} (h : st.Sound r.toConstants)
    {p : PlayerId}
    (hq : (st.towerManagers p).Queued r.toConstants (st.moneyManager.playerMoney p))
    (hrun : State.updateTowers r.toConstants st p = .ok st') :
    (∃ xs, List.Forall₂ (Repays r.toConstants (st.towers p))
        (st.towerManagers p).towersToSuicide xs ∧
      st.moneyManager.Posted st'.moneyManager p
        ((st.towerManagers p).purchases r.toConstants ++ xs)) ∧
    ∀ q, q ≠ p → st.moneyManager.Posted st'.moneyManager q [] := by
  unfold State.updateTowers at hrun
  cases he : TowerEnv.update r.toConstants (st.towerEnv p) with
  | error fault =>
    rw [he] at hrun
    cases hrun
  | ok e =>
    rw [he] at hrun
    obtain rfl := Except.ok.inj hrun
    exact TowerEnv.posted_update (h.env p) hq he

/-- **The towers' phase**, on the account of either player. -/
theorem Ready.posted_updateTowers {r : Ruleset K} {st st₂ : State K} (h : st.Ready r)
    {p : PlayerId}
    (hrun : [p, p.opponent].foldlM (State.updateTowers r.toConstants) st = .ok st₂)
    (q : PlayerId) :
    ∃ xs, List.Forall₂ (Repays r.toConstants (st.towers q))
        (st.towerManagers q).towersToSuicide xs ∧
      st.moneyManager.Posted st₂.moneyManager q
        ((st.towerManagers q).purchases r.toConstants ++ xs) := by
  have hne : p.opponent ≠ p := PlayerId.opponent_ne p
  obtain ⟨st₁, h₁, hrest⟩ := bind_eq_ok.mp hrun
  obtain ⟨_, h₂, hlast⟩ := bind_eq_ok.mp hrest
  obtain rfl := Except.ok.inj hlast
  obtain ⟨_, h₁', hs₁, hu₁⟩ := h.sound.updateTowers (h.queued p) (h.targeting.listed p)
  obtain rfl := Except.ok.inj (h₁.symm.trans h₁')
  obtain ⟨hself₁, hother₁⟩ := h.sound.posted_updateTowers (h.queued p) h₁
  obtain ⟨hself₂, hother₂⟩ := hs₁.posted_updateTowers (p := p.opponent) (by
    rw [hu₁.other _ hne, hu₁.money _ hne]
    exact h.queued p.opponent) h₂
  by_cases hqp : q = p
  · subst hqp
    obtain ⟨xs, hxs, hposted⟩ := hself₁
    refine ⟨xs, hxs, ?_⟩
    simpa only [List.append_nil] using hposted.trans (hother₂ q hne.symm)
  · obtain rfl := PlayerId.eq_opponent_of_ne hqp
    rw [State.towers, hu₁.other _ hne] at hself₂
    obtain ⟨xs, hxs, hposted⟩ := hself₂
    exact ⟨xs, hxs, (hother₁ _ hne).trans hposted⟩

/-! ## The soldiers' phases -/

omit [Field K] [LinearOrder K] [FloorRing K] [IsStrictOrderedRing K] in
/-- The entries there may be for kills of actors of player `q`. -/
inductive Bounty (c : Constants K) (st : State K) (q : PlayerId) : Posting Payout ℤ → Prop
  /-- A soldier, at the price of all soldiers. -/
  | soldier {s : Soldier K} (hs : s ∈ st.soldiers q) :
    Bounty c st q (.credit (.soldierKill s.id) c.soldierKillRewardAmount)
  /-- A dead tower, at the price of its level. -/
  | tower {t : Tower K} {amount : ℤ} (ht : t ∈ st.towers q) (hdead : t.hp = 0)
    (hamount : vectorAt c.towerKillRewardAmounts (t.towerLevel - 1) = .ok amount) :
    Bounty c st q (.credit (.towerKill t.id) amount)

section Bounty

variable [SquareRoot K] {r : Ruleset K} {st st' : State K} {q : PlayerId} {x : Posting Payout ℤ}

omit [SquareRoot K] [IsStrictOrderedRing K] in
/-- Soldiers keep their ids, so an entry stays justified as long as dead towers stay
what they are. -/
theorem Bounty.of_towers (hb : Bounty r.toConstants st q x) (h : st.Sound r.toConstants)
    (h' : st'.Sound r.toConstants) (htowers : ∀ t ∈ st.towers q, t.hp = 0 →
      ∃ t' ∈ st'.towers q, t'.id = t.id ∧ t'.hp = 0 ∧ t'.towerLevel = t.towerLevel) :
    Bounty r.toConstants st' q x := by
  cases hb with
  | soldier hs =>
    obtain ⟨i, hi⟩ := List.getElem?_of_mem hs
    obtain ⟨s', hs'⟩ := h'.exists_soldier q (h.slot_lt hi)
    rw [(h.soldier q i _ hi).id_eq, ← (h'.soldier q i s' hs').id_eq]
    exact .soldier (List.mem_of_getElem? hs')
  | tower ht hdead hamount =>
    obtain ⟨t', ht', hid, hdead', hlevel⟩ := htowers _ ht hdead
    rw [← hid]
    exact .tower ht' hdead' (hlevel ▸ hamount)

omit [IsStrictOrderedRing K] in
theorem Bounty.actEffect (hb : Bounty r.toConstants st q x) (h : st.Sound r.toConstants)
    (p : PlayerId) (i : ℕ) :
    Bounty r.toConstants (st.apply (st.actEffect r.toConstants p i)) q x :=
  hb.of_towers h (h.actEffect p i) fun t ht hdead => by
    have hworn := h.worn_actEffect p i q t
    exact ⟨_, List.mem_map_of_mem ht, hworn.id, hworn.hp_eq_zero hdead, hworn.towerLevel⟩

omit [SquareRoot K] [IsStrictOrderedRing K] in
theorem Sound.exists_of_deref_eq_soldier {c : Constants K} (h : st.Sound c) {ptr : ActorPtr}
    {u : Soldier K} (hptr : st.Designates q ptr) (hderef : st.deref ptr = some (.soldier u)) :
    ∃ j : ℕ, (st.soldiers q.opponent)[j]? = some u := by
  cases ptr with
  | soldier q' j =>
    obtain ⟨rfl, -⟩ := hptr
    obtain ⟨v, hv, hvu⟩ := Option.map_eq_some_iff.mp hderef
    obtain rfl := Actor.soldier.inj hvu
    exact ⟨j, hv⟩
  | tower q' id =>
    obtain ⟨t, -, -, hcontra⟩ := h.deref_tower.mp hderef
    cases hcontra

omit [IsStrictOrderedRing K] in
/-- **A round of the first phase**, on the account of either player. -/
theorem Sound.posted_actEffect (h : st.Sound r.toConstants) (p : PlayerId) (i : ℕ)
    (q : PlayerId) :
    let st' := st.apply (st.actEffect r.toConstants p i)
    ∃ xs, (∀ x ∈ xs, Bounty r.toConstants st' q.opponent x) ∧
      st.moneyManager.Posted st'.moneyManager q xs := by
  intro st'
  have hmoney : st'.moneyManager = (st.kills p i).elim st.moneyManager st.moneyManager.rewarded :=
    money_actEffect r.toConstants st p i st.moneyManager
  cases hkills : st.kills p i with
  | none =>
    rw [hkills, Option.elim_none] at hmoney
    exact ⟨[], nofun, hmoney ▸ MoneyManager.posted_nil rfl rfl rfl⟩
  | some a' =>
    rw [hkills, Option.elim_some] at hmoney
    obtain ⟨s, ptr, a, hs, hptr, hderef, hstrikes, rfl, hspent, hhits⟩ := exists_of_kills hkills
    have hpays : (a.damage s.attackDamage).playerId.opponent = p := by
      rw [h.playerId_of_kills hkills, PlayerId.opponent_opponent]
    obtain ⟨amount, hamount, hpos⟩ := (h.rewards hderef).damage s.attackDamage
    rw [MoneyManager.rewarded, hpays, hamount] at hmoney
    by_cases hqp : q = p
    · subst hqp
      refine ⟨_, ?_, hmoney ▸ st.moneyManager.posted_pay q hpos _⟩
      intro x hx
      obtain rfl := List.mem_singleton.mp hx
      cases a with
      | soldier u =>
        obtain ⟨j, hu⟩ := h.exists_of_deref_eq_soldier (h.target q i s ptr hs hptr) hderef
        obtain rfl : r.soldierKillRewardAmount = amount :=
          h.tables.soldierKill ▸ Except.ok.inj hamount
        exact Bounty.actEffect (.soldier (List.mem_of_getElem? hu)) h q i
      | tower u =>
        obtain ⟨_, rfl, hu⟩ := h.exists_of_deref_eq_tower hderef
        obtain ⟨rfl, -⟩ := h.target q i s _ hs hptr
        have hlisted := (h.manager q.opponent).listed_of_alive hu hstrikes.2.2.1
        have heffect : (st.actEffect r.toConstants q i).tower q.opponent u =
            u.damage s.attackDamage := by
          rw [tower_actEffect, hhits, Option.elim_some]
        exact .tower (heffect ▸ List.mem_map_of_mem hlisted) hspent
          (h.tables.towerKill ▸ hamount)
    · exact ⟨[], nofun, hmoney ▸ st.moneyManager.posted_pay_of_ne hqp _ _⟩

omit [IsStrictOrderedRing K] in
/-- **The first phase**, on the account of either player. -/
theorem Sound.posted_actAll (h : st.Sound r.toConstants) (l : List (PlayerId × ℕ))
    (q : PlayerId) :
    ∃ xs, (∀ x ∈ xs, Bounty r.toConstants (st.actAll r.toConstants l) q.opponent x) ∧
      st.moneyManager.Posted (st.actAll r.toConstants l).moneyManager q xs :=
  h.actAll_invariant (I := fun st' => ∃ xs,
      (∀ x ∈ xs, Bounty r.toConstants st' q.opponent x) ∧
        st.moneyManager.Posted st'.moneyManager q xs)
    ⟨[], nofun, MoneyManager.posted_nil rfl rfl rfl⟩
    fun mid hmid ⟨xs, hxs, hposted⟩ y _ => by
      obtain ⟨ys, hys, hposted'⟩ := hmid.posted_actEffect y.1 y.2 q
      refine ⟨xs ++ ys, ?_, hposted.trans hposted'⟩
      intro x hx
      exact (List.mem_append.mp hx).elim (fun hx => (hxs x hx).actEffect hmid y.1 y.2) (hys x)

/-- **The update**, on the account of a player: the purchases, then the demolitions, then
the kills. -/
theorem Ready.posted_update (h : st.Ready r)
    (hupdate : State.update r.toConstants st = .ok st') (p : PlayerId) :
    ∃ suicides kills, List.Forall₂ (Repays r.toConstants (st.towers p))
        (st.towerManagers p).towersToSuicide suicides ∧
      (∀ x ∈ kills, Bounty r.toConstants st' p.opponent x) ∧
      st.moneyManager.Posted st'.moneyManager p
        ((st.towerManagers p).purchases r.toConstants ++ suicides ++ kills) := by
  obtain ⟨st₁, st₂, htowers, -, -, -, hs₂, hrun, -, hrested⟩ := h.updateInOrder .player1
  obtain rfl := Except.ok.inj (hrun.symm.trans hupdate)
  obtain ⟨suicides, hsuicides, hposted⟩ := h.posted_updateTowers htowers p
  set l := roster r.toConstants [.player1, PlayerId.player1.opponent] with hl
  have hnodup : l.Nodup := nodup_roster _ (by simp)
  obtain ⟨kills, hkills, hposted'⟩ := hs₂.posted_actAll l p
  refine ⟨suicides, kills, hsuicides, ?_, ?_⟩
  · intro x hx
    refine (hkills x hx).of_towers (hs₂.actAll l) hrested.sound ?_
    intro t ht hdead
    exact ⟨t, by rwa [State.towers, towerManagers_finishAll r.toConstants hnodup], rfl, hdead, rfl⟩
  · rw [moneyManager_finishAll r.toConstants hnodup]
    exact hposted.trans hposted'

end Bounty

end State

end Simulator
