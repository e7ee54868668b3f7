import Simulator.State.Soundness

/-!
# The range of the balances

Rewards are added up in `int64_t` and capped.  A sum that leaves the type wraps around, and as
the cap is applied to the sum, a balance can come out negative.  Whether the order of two rewards
matters, and what a balance can be at most, has to be settled with this in mind.

## Two rewards

The sum of two rewards does not depend on their order if no addition leaves the type, and also if
one does and the cap is the greatest value of the type, so that it cuts nothing off: wrapping
around twice is wrapping around once (`int64_add`).  Under a smaller cap the order can matter, as
an addition that wraps around escapes the cap and one that does not is cut off.
`Constants.RewardsFit` is the condition under which it does not, and `credited_comm` says so.

The record of the rewards is in their order, so it is the balances that are compared, and the
record is left out of them (`unrecorded`).

## All balances

In a game a balance does not rise above the cap or the money at the start, whichever is greater,
and it does not leave the type (`MoneyManager.Bounded`).  Both a reward and a charge keep to this,
and so does the update of a tower manager, which makes charges for what has been queued and pays
rewards for demolitions.
-/

namespace Simulator

open Foundation

variable {K : Type}

/-! ## Sums in `int64_t` -/

theorem int64_lt (n : ℤ) : int64 n < 2 ^ 63 := by
  have := Int.bmod_lt (x := n) (m := 2 ^ 64) (by decide)
  unfold int64
  omega

theorem le_int64 (n : ℤ) : -2 ^ 63 ≤ int64 n := by
  have := Int.le_bmod (x := n) (m := 2 ^ 64) (by decide)
  unfold int64
  omega

theorem int64_eq {n : ℤ} (h : -2 ^ 63 ≤ n) (h' : n < 2 ^ 63) : int64 n = n :=
  Int.bmod_eq_of_le (by omega) (by omega)

/-- Wrapping around twice is wrapping around once. -/
theorem int64_add (n a : ℤ) : int64 (int64 n + a) = int64 (n + a) :=
  Int.bmod_add_bmod

/-- A balance after an increase: wrapped around, then capped. -/
def credited (maxMoney balance amount : ℤ) : ℤ :=
  if int64 (balance + amount) > maxMoney then maxMoney else int64 (balance + amount)

theorem credited_of_max (balance amount : ℤ) :
    credited (2 ^ 63 - 1) balance amount = int64 (balance + amount) :=
  if_neg (by have := int64_lt (balance + amount); omega)

theorem credited_of_fits {maxMoney balance amount : ℤ} (h : -2 ^ 63 ≤ balance)
    (hpos : 0 < amount) (hfits : balance + amount < 2 ^ 63) :
    credited maxMoney balance amount = min maxMoney (balance + amount) := by
  unfold credited
  rw [int64_eq (by omega) hfits]
  split <;> omega

/-- **Increases commute**, if they fit or nothing is cut off. -/
theorem credited_comm (maxMoney balance bound : ℤ) {a b : ℤ} (ha : 0 < a) (hb : 0 < b)
    (h : maxMoney = 2 ^ 63 - 1 ∨ -2 ^ 63 ≤ balance ∧ -2 ^ 63 ≤ maxMoney ∧ balance ≤ bound ∧
      maxMoney ≤ bound ∧ bound + a < 2 ^ 63 ∧ bound + b < 2 ^ 63) :
    credited maxMoney (credited maxMoney balance a) b =
      credited maxMoney (credited maxMoney balance b) a := by
  rcases h with rfl | ⟨hbalance, hmax, hle, hle', hfits, hfits'⟩
  · simp only [credited_of_max, int64_add]
    rw [add_right_comm]
  · rw [credited_of_fits hbalance ha (by omega), credited_of_fits hbalance hb (by omega),
      credited_of_fits (by omega) hb (by omega), credited_of_fits (by omega) ha (by omega)]
    omega

/-! ## The rules -/

/-- The rewards there are for kills. -/
def Constants.killRewardAmounts (c : Constants K) : List ℤ :=
  c.soldierKillRewardAmount :: c.towerKillRewardAmounts

/-- A reward never takes a balance out of `int64_t`; or the cap is the greatest value of
that type, as `MONEY_MAX` is. -/
def Constants.RewardsFit (c : Constants K) : Prop :=
  c.moneyMax = 2 ^ 63 - 1 ∨ -2 ^ 63 ≤ c.moneyStart ∧ -2 ^ 63 ≤ c.moneyMax ∧
    ∀ amount ∈ c.killRewardAmounts, max c.moneyStart c.moneyMax + amount < 2 ^ 63

instance (c : Constants K) : Decidable c.RewardsFit := inferInstanceAs (Decidable (_ ∨ _ ∧ _))

namespace MoneyManager

/-- The range of the balances of a game. -/
structure Bounded (c : Constants K) (m : MoneyManager) : Prop where
  maxMoney : m.maxMoney = c.moneyMax
  le : ∀ p, m.playerMoney p ≤ max c.moneyStart c.moneyMax
  ge : ∀ p, min (-2 ^ 63) (min c.moneyStart c.moneyMax) ≤ m.playerMoney p

section Bounded

variable {c : Constants K} {m : MoneyManager}

theorem increased_eq (m : MoneyManager) (p : PlayerId) (amount : ℤ) :
    m.increased p amount = credited m.maxMoney (m.playerMoney p) amount := rfl

theorem Bounded.setBalance (h : m.Bounded c) (p : PlayerId) (balance : ℤ)
    (hle : balance ≤ max c.moneyStart c.moneyMax)
    (hge : min (-2 ^ 63) (min c.moneyStart c.moneyMax) ≤ balance) :
    (m.setBalance p balance).Bounded c where
  maxMoney := h.maxMoney
  le := fun q => by
    rw [playerMoney_setBalance, Function.update_apply]
    split
    · exact hle
    · exact h.le q
  ge := fun q => by
    rw [playerMoney_setBalance, Function.update_apply]
    split
    · exact hge
    · exact h.ge q

theorem Bounded.pay (h : m.Bounded c) (p : PlayerId) (amount : ℤ) (payout : Payout) :
    (m.pay p amount payout).Bounded c := by
  have hcredited : m.increased p amount ≤ c.moneyMax ∧
      min (-2 ^ 63) c.moneyMax ≤ m.increased p amount := by
    have := le_int64 (m.playerMoney p + amount)
    rw [increased_eq, credited, h.maxMoney]
    split <;> omega
  have hset := h.setBalance p (m.increased p amount) (by omega) (by omega)
  exact ⟨hset.maxMoney, hset.le, hset.ge⟩

theorem Bounded.decrease (h : m.Bounded c) (p : PlayerId) {amount : ℤ} (hpos : 0 < amount)
    (hle : amount ≤ m.playerMoney p) :
    (m.setBalance p (m.playerMoney p - amount)).Bounded c := by
  have := h.le p
  exact h.setBalance p _ (by omega) (by omega)

theorem Bounded.rewarded (h : m.Bounded c) (a : Actor K) : (m.rewarded a).Bounded c :=
  h.pay _ _ _

end Bounded

/-! ## Rewards in any order -/

/-- The balances without the record. -/
def unrecorded (m : MoneyManager) : MoneyManager := { m with payouts := fun _ => [] }

theorem HasTables.mem_killRewardAmounts {c : Constants K} {m : MoneyManager} (h : m.HasTables c)
    {a : Actor K} {amount : ℤ} (ha : m.killRewardAmount a = .ok amount) :
    amount ∈ c.killRewardAmounts := by
  cases a with
  | soldier s =>
    obtain rfl : m.soldierKillRewardAmount = amount := Except.ok.inj ha
    rw [h.soldierKill]
    exact List.mem_cons_self ..
  | tower t =>
    obtain ⟨-, hget⟩ := vectorAt_eq_ok.mp ha
    rw [h.towerKill] at hget
    exact List.mem_cons_of_mem _ (List.mem_of_getElem? hget)

/-- **The balances after two rewards do not depend on their order.** -/
theorem unrecorded_rewarded_comm {c : Constants K} (hfit : c.RewardsFit) {m : MoneyManager}
    (hbounded : m.Bounded c) (htables : m.HasTables c) {a b : Actor K} (ha : m.Rewards a)
    (hb : m.Rewards b) :
    ((m.rewarded a).rewarded b).unrecorded = ((m.rewarded b).rewarded a).unrecorded := by
  by_cases hplayer : a.playerId = b.playerId
  · obtain ⟨amount, hamount, hpos⟩ := ha
    obtain ⟨amount', hamount', hpos'⟩ := hb
    have hkeeps : ∀ (m : MoneyManager) (a b : Actor K),
        (m.rewarded a).killRewardAmount b = m.killRewardAmount b := fun _ _ b => by cases b <;> rfl
    have hcomm := credited_comm m.maxMoney (m.playerMoney b.playerId.opponent)
      (max c.moneyStart c.moneyMax) hpos hpos'
      (hfit.imp (hbounded.maxMoney.trans ·) fun ⟨hstart, hmax, hfits⟩ => by
        have := hbounded.ge b.playerId.opponent
        have := hbounded.le b.playerId.opponent
        have := hfits amount (htables.mem_killRewardAmounts hamount)
        have := hfits amount' (htables.mem_killRewardAmounts hamount')
        rw [hbounded.maxMoney]
        omega)
    rw [rewarded, hkeeps, rewarded, rewarded, hkeeps m b a, rewarded, hamount, hamount', hplayer]
    simp only [Except.toOption, Option.getD_some]
    simp only [unrecorded, pay, record, setBalance, increased_eq, Function.update_self,
      Function.update_idem, hcomm]
  · rw [rewarded_comm m hplayer]

end MoneyManager

/-! ## The towers keep to the range -/

namespace TowerEnv

variable [Field K] [LinearOrder K] [FloorRing K] [IsStrictOrderedRing K]

/-- The update of a tower manager keeps the balances in their range. -/
theorem bounded_update {c : Constants K} {e e' : TowerEnv K} (h : e.Painted c)
    (hbounded : e.moneyManager.Bounded c) (hu : TowerEnv.update c e = .ok e') :
    e'.moneyManager.Bounded c := by
  refine (update_invariant (I := fun e₁ => e₁.Painted c ∧ e₁.moneyManager.Bounded c)
    (fun e₁ h₁ => h₁.1.charted) ?build ?upgrade ?suicide ?aged ?delete ⟨h, hbounded⟩ hu).2
  case build =>
    rintro e₁ offset e₂ ⟨hp, hm⟩ hround
    obtain ⟨cost, t, bounds, -, hpos, hle, -, hb, rfl⟩ := buildNext_eq_ok.mp hround
    exact ⟨hp.built cost hb, hm.decrease _ hpos hle⟩
  case upgrade =>
    rintro e₁ towerId e₂ ⟨hp, hm⟩ hround
    obtain ⟨i, t, cost, oldBounds, t', newBounds, -, ht, -, -, hpos, hle, hold, hup, hnew, rfl⟩ :=
      upgradeNext_eq_ok.mp hround
    exact ⟨hp.upgraded ht cost hold hnew fun hmono _ => covers_upgrade hup hnew hmono,
      hm.decrease _ hpos hle⟩
  case suicide =>
    rintro e₁ towerId e₂ ⟨hp, hm⟩ hround
    obtain ⟨i, t, amount, -, ht, -, -, -, rfl⟩ := suicideNext_eq_ok.mp hround
    exact ⟨hp.set ht (u := { t with hp := 0 }) rfl rfl rfl rfl rfl, hm.pay _ _ _⟩
  case aged =>
    rintro e₁ ⟨hp, hm⟩
    exact ⟨hp.congr rfl rfl rfl rfl, hm⟩
  case delete =>
    rintro e₁ xs t ys bounds ⟨hp, hm⟩ htowers - hb
    exact ⟨hp.deleted htowers hb, hm⟩

end TowerEnv

end Simulator
