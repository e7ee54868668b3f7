import Simulator.Main.KillRewards
import Simulator.Main.TowerDeaths
import Simulator.State.Ledger

/-!
# The money of a game

The account of a player over a whole game: for every turn the prices of the builds and
of the upgrades that were accepted, then what its demolitions bring, then what its kills
bring.  The balance is what these entries make of the money at the start, every price is
covered when it is charged, and the rewards are those that are on record.  So money is
neither made nor lost, except for what a deposit is cut off at the maximum:
`Game.money_conserved`.  It asks that the rewards fit the type of the balance, which
`Accounted.earned_le` reads off the length of the record.

## What a turn enters

`Turn.Enters` says which entries these are, and it leaves nothing open but their order among
the kills.  The purchases and the demolitions are read off the queues that the commands have
left.  The kills are not in any queue: `Turn.Rewards` says that the actors that are paid for
are the opponent's soldiers that are beaten in the turn and its towers that have fallen in it,
each of them once.

Beaten is not dead.  An invulnerable soldier that is hit hard enough is paid for although it
lives on, and this is why the account is about what the soldiers do to it and not about who is
dead afterwards.  A tower that has fallen is dead, and it is listed once more.
-/

namespace Simulator

open Foundation

variable {K : Type} [Field K] [LinearOrder K] [FloorRing K] [SquareRoot K]

/-- The entries for the kills of a turn: one for every soldier of the opponent that is beaten,
and one for every tower of the opponent that has fallen, at their prices. -/
structure Turn.Rewards (c : Constants K) (p : PlayerId) (t : Turn K)
    (kills : List (Posting Payout ℤ)) : Prop where
  bounty : ∀ x ∈ kills, t.after.Bounty c p.opponent x
  nodup : (sources kills).Nodup
  soldiers : ∀ (j : ℕ) u, (t.commanded.soldiers p.opponent)[j]? = some u →
    (.soldierKill u.id ∈ sources kills ↔ t.commanded.Beats c p u j)
  towers : ∀ w ∈ t.after.towers p.opponent, (.towerKill w.id ∈ sources kills ↔ w.hp = 0)

/-- What a turn enters in the account of a player: the purchases its commands have
queued, the demolitions, and the kills. -/
def Turn.Enters (c : Constants K) (p : PlayerId) (t : Turn K) (l : List (Posting Payout ℤ)) :
    Prop :=
  ∃ suicides kills, l = (t.commanded.towerManagers p).purchases c ++ suicides ++ kills ∧
    List.Forall₂ (Repays c (t.commanded.towers p))
      (t.commanded.towerManagers p).towersToSuicide suicides ∧
    t.Rewards c p kills

/-- The account of a player, with one list of entries for each turn. -/
structure Accounted (c : Constants K) (p : PlayerId) (past : List (Turn K)) (st : State K)
    (ls : List (List (Posting Payout ℤ))) : Prop where
  entries : List.Forall₂ (Turn.Enters c p) past ls
  payouts : st.moneyManager.payouts p = sources ls.flatten
  money : st.moneyManager.playerMoney p =
    balanceAfter (credited c.moneyMax) c.moneyStart ls.flatten
  covered : Covered (credited c.moneyMax) c.moneyStart ls.flatten

section Runs

variable [IsStrictOrderedRing K] {r : Ruleset K} {past : List (Turn K)} {st : State K}

theorem Turn.IsPlayed.posted {t : Turn K} (ht : t.IsPlayed r) (h : t.before.Rested r)
    (p : PlayerId) : ∃ l, t.Enters r.toConstants p l ∧
      t.before.moneyManager.Posted t.after.moneyManager p l := by
  obtain ⟨hsame, hready, -, hupdate⟩ := ht.commands h
  obtain ⟨suicides, kills, hsuicides, hkills, hposted⟩ := hready.posted_update hupdate p
  obtain ⟨mid, after, hfight⟩ := hready.exists_fight hupdate p
  obtain ⟨paid, hpaid, hnodup, hsoldiers, htowers⟩ := hfight.exists_kills hready
  -- the record says what the kills are
  have hsources : sources kills = paid := by
    have hpayouts := hposted.payouts.symm.trans hpaid
    rw [sources_append, sources_append, TowerManager.sources_purchases, List.nil_append,
      sources_of_repays hsuicides, List.append_assoc] at hpayouts
    exact List.append_cancel_left (List.append_cancel_left hpayouts)
  rw [← hsources] at hnodup hsoldiers htowers
  exact ⟨_, ⟨suicides, kills, rfl, hsuicides, hkills, hnodup, hsoldiers, htowers⟩,
    hsame.moneyManager ▸ hposted⟩

theorem Game.posted (h : Game r past st) (p : PlayerId) :
    ∃ ls, List.Forall₂ (Turn.Enters r.toConstants p) past ls ∧
      (buildMoneyManager r.toConstants).Posted st.moneyManager p ls.flatten := by
  induction h with
  | start h =>
    obtain ⟨st', hst', -, -, hmoney⟩ := exists_buildState r
    obtain rfl := Except.ok.inj (hst'.symm.trans h)
    exact ⟨[], .nil, MoneyManager.posted_nil (by rw [hmoney]) (by rw [hmoney]) (by rw [hmoney])⟩
  | turn hgame ht ih =>
    obtain ⟨ls, hls, hposted⟩ := ih
    obtain ⟨l, hl, hposted'⟩ := ht.posted hgame.rested p
    refine ⟨ls ++ [l], List.rel_append hls (.cons hl .nil), ?_⟩
    rw [List.flatten_append, List.flatten_singleton]
    exact hposted.trans hposted'

omit [FloorRing K] [IsStrictOrderedRing K] in
/-- Whatever a turn pays in is in the tables of the rewards. -/
theorem Turn.Enters.amount_le {c : Constants K} {p : PlayerId} {t : Turn K}
    {l : List (Posting Payout ℤ)} (h : t.Enters c p l) {most : ℤ}
    (hmost : ∀ a ∈ c.soldierKillRewardAmount ::
      (c.towerKillRewardAmounts ++ c.towerSuicideRewardAmounts), a ≤ most)
    {source : Payout} {a : ℤ} (ha : .credit source a ∈ l) : a ≤ most := by
  obtain ⟨suicides, kills, rfl, hsuicides, hrewards⟩ := h
  rcases List.mem_append.mp ha with ha | ha
  · rcases List.mem_append.mp ha with ha | ha
    · simp [TowerManager.purchases] at ha
    · obtain ⟨id, -, t', -, -, amount, hamount, heq⟩ := exists_of_forall₂ hsuicides ha
      obtain ⟨-, rfl⟩ := Posting.credit.inj heq
      exact hmost _ (by simp [mem_of_vectorAt hamount])
  · cases hrewards.bounty _ ha with
    | soldier => exact hmost _ (List.mem_cons_self ..)
    | tower _ _ hamount => exact hmost _ (by simp [mem_of_vectorAt hamount])

omit [FloorRing K] [IsStrictOrderedRing K] in
/-- **The number of rewards on record bounds what is earned**, and so it says of a game that its
money is conserved. -/
theorem Accounted.earned_le {c : Constants K} {p : PlayerId} {ls : List (List (Posting Payout ℤ))}
    (h : Accounted c p past st ls) {most : ℤ}
    (hmost : ∀ a ∈ c.soldierKillRewardAmount ::
      (c.towerKillRewardAmounts ++ c.towerSuicideRewardAmounts), a ≤ most) :
    earned ls.flatten ≤ (st.moneyManager.payouts p).length * most := by
  rw [h.payouts, ← nsmul_eq_mul]
  refine Foundation.earned_le ?_
  intro source a ha
  obtain ⟨l, hl, hmem⟩ := List.mem_flatten.mp ha
  obtain ⟨t, -, henters⟩ := exists_of_forall₂ h.entries hl
  exact henters.amount_le hmost hmem

/-- **The money of a game is accounted for.**  Unless the rewards take the balance out of
the type, no balance is ever negative, and what a player has left and has spent is at most
what it had at the start and has earned; it is that much exactly unless something is cut
off at the maximum. -/
theorem Game.money_conserved (h : Game r past st) (hstart : 0 ≤ r.moneyStart)
    (hmax : 0 ≤ r.moneyMax) (p : PlayerId) :
    ∃ ls, Accounted r.toConstants p past st ls ∧
      (r.moneyStart + earned ls.flatten < 2 ^ 63 →
        0 ≤ st.moneyManager.playerMoney p ∧
        st.moneyManager.playerMoney p + spent ls.flatten ≤ r.moneyStart + earned ls.flatten ∧
        (r.moneyStart + earned ls.flatten ≤ r.moneyMax →
          st.moneyManager.playerMoney p + spent ls.flatten =
            r.moneyStart + earned ls.flatten)) := by
  obtain ⟨ls, hls, hposted⟩ := h.posted p
  have hmoney : st.moneyManager.playerMoney p =
      balanceAfter (credited r.moneyMax) r.moneyStart ls.flatten := hposted.money
  have hcovered : Covered (credited r.moneyMax) r.moneyStart ls.flatten := hposted.covered
  refine ⟨ls, ⟨hls, hposted.payouts, hmoney, hcovered⟩, ?_⟩
  intro hfits
  have hprudent := prudent_credited hmax
  have hlimit : r.moneyStart + earned ls.flatten ≤ 2 ^ 63 - 1 := by omega
  have hconserved := balanceAfter_add (credited r.moneyMax) r.moneyStart ls.flatten
  rw [hmoney]
  refine ⟨hcovered.balanceAfter_nonneg hprudent hposted.proper hstart hlimit, ?_, ?_⟩
  · have := hcovered.forfeited_nonneg hprudent hposted.proper hstart hlimit
    omega
  · intro hle
    have hexact := hcovered.balanceAfter_eq
      (fun b a hb ha hba => hprudent b a hb ha (hba.trans hlimit)) hposted.proper hstart
      (le_refl _) fun b a hb ha hba => credited_of_le hb ha (by omega) (hba.trans hle)
    omega

omit [Field K] [LinearOrder K] [FloorRing K] [SquareRoot K] [IsStrictOrderedRing K] in
/-- In the small game player 2 builds a tower, demolishes it and kills the soldier of player 1:
the record has two rewards, and the 12 it has left are what it had, and what it earned less
what it spent. -/
theorem money_conserved_sample : ∃ past st ls, Game sampleRules past st ∧ past.length = 3 ∧
    st.moneyManager.playerMoney .player2 = 12 ∧
    sources ls.flatten = [.towerSuicide 4, .soldierKill 0] ∧
    Accounted sampleRules.toConstants .player2 past st ls ∧
    12 + spent ls.flatten = 10 + earned ls.flatten := by
  have hrun : ((play sampleRules [bothPlay _ (.quiet _) (.build _ (1, 1)),
      bothPlay _ (.quiet _) (.alterTower _ 1 4 false true),
      bothPlay _ (.quiet _) (.attackSoldier _ 1 0)]).toOption.bind fun st =>
    some (st.moneyManager.playerMoney .player2, st.moneyManager.payouts .player2)) =
      some (12, [.towerSuicide 4, .soldierKill 0]) := by
    decide +kernel
  obtain ⟨st, hplay, hrun⟩ := exists_of_toOption_bind hrun
  obtain ⟨hmoney, hpayouts⟩ := Prod.mk.inj (Option.some.inj hrun)
  obtain ⟨past, hlength, hgame⟩ := game_of_play hplay
  obtain ⟨ls, hls, hconserved⟩ := hgame.money_conserved (by decide) (by decide) .player2
  refine ⟨past, st, ls, hgame, hlength, hmoney, hls.payouts ▸ hpayouts, hls, ?_⟩
  have hearned : earned ls.flatten ≤ 2 * 5 := by
    have hle := hls.earned_le (show ∀ a ∈ _, a ≤ (5 : ℤ) by decide)
    rwa [hpayouts] at hle
  have hfits : (10 : ℤ) + earned ls.flatten < 2 ^ 63 := by omega
  have hle : (10 : ℤ) + earned ls.flatten ≤ 2 ^ 63 - 1 := by omega
  obtain ⟨-, -, hexact⟩ := hconserved hfits
  rw [hmoney] at hexact
  exact hexact hle

end Runs

end Simulator
