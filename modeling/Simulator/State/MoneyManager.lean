import Simulator.State.Actor
import Simulator.Foundation.Loops

/-!
# Money

`MoneyManager` holds the balances and pays the rewards.  Amounts are `int64_t`,
and an addition that leaves the type wraps around; nothing else in the class can
leave it.  `increased` is what a reward makes of a balance: the sum, wrapped around,
and then the cap, in the order in which the source has them.

A reward is looked up in a table by the level of the tower it is for, or is the price of all
soldiers, and `Increase` throws for an amount that is not positive.  So a reward can fail in two
ways, at the table and at the amount, and `rewardKill_eq_ok` and `rewardSuicide_eq_ok` say when it
does not: they are what callers use, and no proof about a caller looks at the definitions again.

## The record of the rewards

`payouts` is a history variable: it records which rewards have been paid to whom,
oldest first.  The source keeps no such record and nothing in the model reads it;
it is what statements about the number of rewards talk about.  An entry names the actor it is for,
so that two rewards for one actor can be told from one reward for each of two actors, which the
balances alone do not show.
-/

namespace Simulator

open Foundation

variable {K : Type}

/-- A sum of two `int64_t`, with two's-complement wrap-around. -/
def int64 (n : ℤ) : ℤ := n.bmod (2 ^ 64)

/-- A reward that has been paid. -/
inductive Payout where
  /-- For killing an enemy soldier. -/
  | soldierKill (id : ℤ)
  /-- For killing an enemy tower. -/
  | towerKill (id : ℤ)
  /-- For demolishing one's own tower. -/
  | towerSuicide (id : ℤ)
  deriving DecidableEq, Repr

/-- The balances and the reward tables. -/
@[ext]
structure MoneyManager where
  playerMoney : PlayerId → ℤ
  maxMoney : ℤ
  towerKillRewardAmounts : List ℤ
  soldierKillRewardAmount : ℤ
  towerSuicideRewardAmounts : List ℤ
  /-- The rewards each player has been paid so far. -/
  payouts : PlayerId → List Payout

namespace MoneyManager

/-- Set the balance of one player. -/
def setBalance (m : MoneyManager) (p : PlayerId) (balance : ℤ) : MoneyManager :=
  { m with playerMoney := Function.update m.playerMoney p balance }

/-- Record a reward. -/
def record (m : MoneyManager) (p : PlayerId) (payout : Payout) : MoneyManager :=
  { m with payouts := Function.update m.payouts p (m.payouts p ++ [payout]) }

/-- Increase a balance, which is capped at `maxMoney`. -/
def increase (m : MoneyManager) (p : PlayerId) (amount : ℤ) : Except Fault MoneyManager :=
  if amount ≤ 0 then .error (.outOfRange "`amount` must be positive")
  else
    let balance := int64 (m.playerMoney p + amount)
    .ok (m.setBalance p (if balance > m.maxMoney then m.maxMoney else balance))

/-- Decrease a balance. -/
def decrease (m : MoneyManager) (p : PlayerId) (amount : ℤ) : Except Fault MoneyManager :=
  if amount ≤ 0 then .error (.outOfRange "`amount` must be positive")
  else if amount > m.playerMoney p then
    .error (.outOfRange "`amount` is greater than current balance")
  else .ok (m.setBalance p (m.playerMoney p - amount))

/-- The amount paid for killing an actor. -/
def killRewardAmount (m : MoneyManager) : Actor K → Except Fault ℤ
  | .soldier _ => .ok m.soldierKillRewardAmount
  | .tower t => vectorAt m.towerKillRewardAmounts (t.towerLevel - 1)

/-- The record of a kill. -/
def killPayout : Actor K → Payout
  | .soldier s => .soldierKill s.id
  | .tower t => .towerKill t.id

/-- Reward the opponent of the killed actor's player. -/
def rewardKill (m : MoneyManager) (enemyActor : Actor K) : Except Fault MoneyManager := do
  let p := enemyActor.playerId.opponent
  let rewardAmount ← m.killRewardAmount enemyActor
  let m ← m.increase p rewardAmount
  return m.record p (killPayout enemyActor)

/-- Reward a player for demolishing its own tower. -/
def rewardSuicide (m : MoneyManager) (t : Tower K) : Except Fault MoneyManager := do
  let rewardAmount ← vectorAt m.towerSuicideRewardAmounts (t.towerLevel - 1)
  let m ← m.increase t.playerId rewardAmount
  return m.record t.playerId (.towerSuicide t.id)

/-! ## What the methods do -/

@[simp] theorem playerMoney_setBalance (m : MoneyManager) (p : PlayerId) (balance : ℤ) :
    (m.setBalance p balance).playerMoney = Function.update m.playerMoney p balance := rfl

@[simp] theorem payouts_setBalance (m : MoneyManager) (p : PlayerId) (balance : ℤ) :
    (m.setBalance p balance).payouts = m.payouts := rfl

/-- The balance after an increase: wrapped around, then capped. -/
def increased (m : MoneyManager) (p : PlayerId) (amount : ℤ) : ℤ :=
  let balance := int64 (m.playerMoney p + amount)
  if balance > m.maxMoney then m.maxMoney else balance

/-- Pay a reward. -/
def pay (m : MoneyManager) (p : PlayerId) (amount : ℤ) (payout : Payout) : MoneyManager :=
  (m.setBalance p (m.increased p amount)).record p payout

@[simp] theorem playerMoney_pay (m : MoneyManager) (p : PlayerId) (amount : ℤ) (payout : Payout) :
    (m.pay p amount payout).playerMoney = Function.update m.playerMoney p (m.increased p amount) :=
  rfl

@[simp] theorem payouts_pay (m : MoneyManager) (p : PlayerId) (amount : ℤ) (payout : Payout) :
    (m.pay p amount payout).payouts = Function.update m.payouts p (m.payouts p ++ [payout]) :=
  rfl

/-- Payments to different players do not touch each other. -/
theorem pay_comm (m : MoneyManager) {p q : PlayerId} (h : q ≠ p) (amount amount' : ℤ)
    (payout payout' : Payout) :
    (m.pay p amount payout).pay q amount' payout' =
      (m.pay q amount' payout').pay p amount payout := by
  simp [pay, record, setBalance, increased, h, Ne.symm h, Function.update_comm (Ne.symm h)]

theorem increase_eq_ok {m m' : MoneyManager} {p : PlayerId} {amount : ℤ} :
    m.increase p amount = .ok m' ↔ 0 < amount ∧ m.setBalance p (m.increased p amount) = m' := by
  unfold increase
  split
  · rename_i h
    simp [not_lt.mpr h]
  · rename_i h
    simp [not_le.mp h, increased]

theorem decrease_eq_ok {m m' : MoneyManager} {p : PlayerId} {amount : ℤ} :
    m.decrease p amount = .ok m' ↔
      0 < amount ∧ amount ≤ m.playerMoney p ∧ m.setBalance p (m.playerMoney p - amount) = m' := by
  unfold decrease
  split
  · rename_i h
    simp [not_lt.mpr h]
  · rename_i h
    split
    · rename_i h'
      simp [not_le.mpr h']
    · rename_i h'
      simp [not_le.mp h, not_lt.mp h']

/-- A kill is paid for exactly when the table has a positive amount for it. -/
theorem rewardKill_eq_ok {m m' : MoneyManager} {a : Actor K} :
    m.rewardKill a = .ok m' ↔ ∃ amount, m.killRewardAmount a = .ok amount ∧ 0 < amount ∧
      m.pay a.playerId.opponent amount (killPayout a) = m' := by
  simp only [rewardKill, bind_eq_ok, increase_eq_ok, pure_eq_ok, Except.ok.injEq]
  constructor
  · rintro ⟨amount, ha, _, ⟨hpos, rfl⟩, rfl⟩
    exact ⟨amount, ha, hpos, rfl⟩
  · rintro ⟨amount, ha, hpos, rfl⟩
    exact ⟨amount, ha, _, ⟨hpos, rfl⟩, rfl⟩

theorem rewardSuicide_eq_ok {m m' : MoneyManager} {t : Tower K} :
    m.rewardSuicide t = .ok m' ↔
      ∃ amount, vectorAt m.towerSuicideRewardAmounts (t.towerLevel - 1) = .ok amount ∧
        0 < amount ∧ m.pay t.playerId amount (.towerSuicide t.id) = m' := by
  simp only [rewardSuicide, bind_eq_ok, increase_eq_ok, pure_eq_ok, Except.ok.injEq]
  constructor
  · rintro ⟨amount, ha, _, ⟨hpos, rfl⟩, rfl⟩
    exact ⟨amount, ha, hpos, rfl⟩
  · rintro ⟨amount, ha, hpos, rfl⟩
    exact ⟨amount, ha, _, ⟨hpos, rfl⟩, rfl⟩

end MoneyManager

end Simulator
