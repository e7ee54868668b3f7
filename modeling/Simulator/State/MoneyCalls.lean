import Simulator.State.Balances

/-!
# Calls that move money

`Increase` and `Decrease`, one assignment after the other and each of them in `int64_t`.
A call that throws reports the manager it leaves behind, as the methods of the tower
manager do; so that a rejected call changes nothing is something to prove
(`after_of_rejected`), and it is proved from the order of the assignments and the throws.

## What a call is for

`Honours` says it of one call: an increase stops at the cap, a decrease takes off what was asked
for, a rejected call changes no balance, and the balances keep to their range, which is from zero
to the cap.

The addition comes before the cap.  A sum that leaves the type has wrapped around to a
negative number when it is compared with the cap, which lets it through.  This is the
only way in which a sequence of calls can go wrong: `honours_iff` says it of one call
and `honoured_iff` of every sequence of them.  A decrease cannot leave the type, since it is
rejected when the balance does not cover it.

With the cap that the game is played with, the greatest value of `int64_t`, every increase that
should have been cut off is one that leaves the type.  So the cap of the production constants never
cuts anything off.
-/

namespace Simulator

open Foundation

/-- The values of `int64_t`. -/
def IsInt64 (n : ℤ) : Prop := -2 ^ 63 ≤ n ∧ n < 2 ^ 63

instance (n : ℤ) : Decidable (IsInt64 n) := inferInstanceAs (Decidable (_ ∧ _))

/-- A call of a method that moves money. -/
inductive MoneyCall where
  | increase (p : PlayerId) (amount : ℤ)
  | decrease (p : PlayerId) (amount : ℤ)
  deriving DecidableEq, Repr

/-- The amount a call asks for. -/
def MoneyCall.amount : MoneyCall → ℤ
  | .increase _ amount => amount
  | .decrease _ amount => amount

namespace MoneyManager

/-- `Increase`, assignment by assignment. -/
def runIncrease (m : MoneyManager) (p : PlayerId) (amount : ℤ) :
    Except (Fault × MoneyManager) MoneyManager :=
  if amount ≤ 0 then .error (.outOfRange "`amount` must be positive", m)
  else
    let m := m.setBalance p (int64 (m.playerMoney p + amount))
    if m.playerMoney p > m.maxMoney then .ok (m.setBalance p m.maxMoney) else .ok m

/-- `Decrease`, assignment by assignment. -/
def runDecrease (m : MoneyManager) (p : PlayerId) (amount : ℤ) :
    Except (Fault × MoneyManager) MoneyManager :=
  if amount ≤ 0 then .error (.outOfRange "`amount` must be positive", m)
  else if amount > m.playerMoney p then
    .error (.outOfRange "`amount` is greater than current balance", m)
  else .ok (m.setBalance p (int64 (m.playerMoney p - amount)))

/-- Make a call. -/
def run (m : MoneyManager) : MoneyCall → Except (Fault × MoneyManager) MoneyManager
  | .increase p amount => m.runIncrease p amount
  | .decrease p amount => m.runDecrease p amount

/-- The manager a call leaves, whether it returns or throws. -/
def after (m : MoneyManager) (call : MoneyCall) : MoneyManager :=
  match m.run call with
  | .ok m' => m'
  | .error (_, m') => m'

/-- The call returns. -/
def Accepts (m : MoneyManager) (call : MoneyCall) : Prop :=
  ∃ m', m.run call = .ok m'

/-- The manager a sequence of calls leaves; whoever makes them catches what they throw. -/
def afterAll (m : MoneyManager) (calls : List MoneyCall) : MoneyManager :=
  calls.foldl after m

/-! ## What is expected of a call -/

/-- The range of the balances. -/
def InRange (m : MoneyManager) : Prop :=
  ∀ p, 0 ≤ m.playerMoney p ∧ m.playerMoney p ≤ m.maxMoney

/-- A call does what it is for: an increase stops at the cap, a decrease is exact, a
rejected call changes no balance, and the balances keep to their range. -/
structure Honours (m : MoneyManager) (call : MoneyCall) : Prop where
  inRange : (m.after call).InRange
  increase : ∀ p amount, call = .increase p amount → m.Accepts call →
    (m.after call).playerMoney =
      Function.update m.playerMoney p (min (m.playerMoney p + amount) m.maxMoney)
  decrease : ∀ p amount, call = .decrease p amount → m.Accepts call →
    (m.after call).playerMoney = Function.update m.playerMoney p (m.playerMoney p - amount)
  rejected : ¬ m.Accepts call → (m.after call).playerMoney = m.playerMoney

/-- Every call of a sequence does what it is for. -/
def Honoured (m : MoneyManager) (calls : List MoneyCall) : Prop :=
  ∀ k call, calls[k]? = some call → (m.afterAll (calls.take k)).Honours call

/-- A call that adds to a balance stays in the type. -/
def Fits (m : MoneyManager) (call : MoneyCall) : Prop :=
  ∀ p amount, call = .increase p amount → 0 < amount → m.playerMoney p + amount < 2 ^ 63

/-! ## What a call does -/

section Call

variable {m : MoneyManager} {p : PlayerId} {amount : ℤ}

/-- The first throw comes before the first assignment. -/
theorem runIncrease_eq (m : MoneyManager) (p : PlayerId) (amount : ℤ) :
    m.runIncrease p amount = (m.increase p amount).mapError fun fault => (fault, m) := by
  unfold runIncrease increase
  split
  · rfl
  · have hself : (m.setBalance p (int64 (m.playerMoney p + amount))).playerMoney p =
        int64 (m.playerMoney p + amount) := Function.update_self ..
    simp only [hself]
    split
    · rename_i h
      have hcap : int64 (m.playerMoney p + amount) > m.maxMoney := h
      simp only [if_pos hcap, Except.mapError, setBalance, Function.update_idem]
    · rename_i h
      have hcap : ¬ int64 (m.playerMoney p + amount) > m.maxMoney := h
      simp only [if_neg hcap, Except.mapError]

theorem runDecrease_eq (h : m.playerMoney p < 2 ^ 63) (amount : ℤ) :
    m.runDecrease p amount = (m.decrease p amount).mapError fun fault => (fault, m) := by
  unfold runDecrease decrease
  split
  · rfl
  · split
    · rfl
    · rw [int64_eq (by omega) (by omega)]
      rfl

theorem accepts_increase : m.Accepts (.increase p amount) ↔ 0 < amount := by
  simp only [Accepts, run, runIncrease]
  split
  · rename_i h
    simp [not_lt.mpr h]
  · rename_i h
    split <;> simp [not_le.mp h]

theorem accepts_decrease :
    m.Accepts (.decrease p amount) ↔ 0 < amount ∧ amount ≤ m.playerMoney p := by
  simp only [Accepts, run, runDecrease]
  split
  · rename_i h
    simp [not_lt.mpr h]
  · rename_i h
    split
    · rename_i h'
      simp [not_le.mpr h']
    · rename_i h'
      simp [not_le.mp h, not_lt.mp h']

theorem after_increase (hpos : 0 < amount) :
    m.after (.increase p amount) = m.setBalance p (m.increased p amount) := by
  have hrun : m.run (.increase p amount) = .ok (m.setBalance p (m.increased p amount)) := by
    rw [run, runIncrease_eq, increase_eq_ok.mpr ⟨hpos, rfl⟩]
    rfl
  rw [after, hrun]

theorem after_decrease (h : m.playerMoney p < 2 ^ 63) (hpos : 0 < amount)
    (hle : amount ≤ m.playerMoney p) :
    m.after (.decrease p amount) = m.setBalance p (m.playerMoney p - amount) := by
  have hrun : m.run (.decrease p amount) = .ok (m.setBalance p (m.playerMoney p - amount)) := by
    rw [run, runDecrease_eq h, decrease_eq_ok.mpr ⟨hpos, hle, rfl⟩]
    rfl
  rw [after, hrun]

/-- **A rejected call changes nothing.** -/
theorem after_of_rejected {call : MoneyCall} (h : ¬ m.Accepts call) : m.after call = m := by
  cases call with
  | increase p amount =>
    rw [accepts_increase, not_lt] at h
    rw [after, run, runIncrease, if_pos h]
  | decrease p amount =>
    rw [accepts_decrease, not_and_or, not_lt, not_le] at h
    rw [after, run, runDecrease]
    by_cases hpos : amount ≤ 0
    · rw [if_pos hpos]
    · rw [if_neg hpos, if_pos (h.resolve_left hpos)]

@[simp] theorem maxMoney_after (m : MoneyManager) (call : MoneyCall) :
    (m.after call).maxMoney = m.maxMoney := by
  by_cases haccepts : m.Accepts call
  · obtain ⟨m', hrun⟩ := haccepts
    rw [after, hrun]
    cases call with
    | increase p amount =>
      simp only [run, runIncrease] at hrun
      split_ifs at hrun
      all_goals rw [← Except.ok.inj hrun]; rfl
    | decrease p amount =>
      simp only [run, runDecrease] at hrun
      split_ifs at hrun
      rw [← Except.ok.inj hrun]
      rfl
  · rw [after_of_rejected haccepts]

theorem InRange.setBalance (h : m.InRange) {balance : ℤ} (hge : 0 ≤ balance)
    (hle : balance ≤ m.maxMoney) : (m.setBalance p balance).InRange := by
  intro q
  rw [playerMoney_setBalance, Function.update_apply]
  split
  · exact ⟨hge, hle⟩
  · exact h q

end Call

/-! ## When a call does what it is for -/

variable {m : MoneyManager}

/-- A sum that leaves the type wraps around below zero. -/
theorem int64_neg {balance amount : ℤ} (hbalance : balance < 2 ^ 63) (hamount : amount < 2 ^ 63)
    (h : 2 ^ 63 ≤ balance + amount) : int64 (balance + amount) < 0 := by
  have hwrap : int64 (balance + amount - 2 ^ 64) = int64 (balance + amount) :=
    Int.sub_bmod_right ..
  rw [← hwrap, int64_eq (by omega) (by omega)]
  omega

theorem honours_increase (h : m.InRange) {p : PlayerId} {amount : ℤ} (hpos : 0 < amount)
    (hfits : m.playerMoney p + amount < 2 ^ 63) : m.Honours (.increase p amount) := by
  have hbalance := h p
  have hafter : m.increased p amount = min (m.playerMoney p + amount) m.maxMoney := by
    rw [increased_eq, credited_of_fits (by omega) hpos hfits, min_comm]
  constructor
  case inRange =>
    rw [after_increase hpos]
    exact h.setBalance (by omega) (by omega)
  case increase =>
    rintro q amount' ⟨⟩ -
    rw [after_increase hpos, playerMoney_setBalance, hafter]
  case decrease => simp
  case rejected => exact fun hrejected => absurd (accepts_increase.mpr hpos) hrejected

theorem honours_decrease (h : m.InRange) (hmax : m.maxMoney < 2 ^ 63) {p : PlayerId} {amount : ℤ}
    (hpos : 0 < amount) (hle : amount ≤ m.playerMoney p) : m.Honours (.decrease p amount) := by
  have hbalance := h p
  have hafter := after_decrease (by omega) hpos hle
  constructor
  case inRange =>
    rw [hafter]
    exact h.setBalance (by omega) (by omega)
  case increase => simp
  case decrease =>
    rintro q amount' ⟨⟩ -
    rw [hafter, playerMoney_setBalance]
  case rejected => exact fun hrejected => absurd (accepts_decrease.mpr ⟨hpos, hle⟩) hrejected

theorem honours_of_rejected (h : m.InRange) {call : MoneyCall} (hrejected : ¬ m.Accepts call) :
    m.Honours call where
  inRange := by rwa [after_of_rejected hrejected]
  increase := fun _ _ _ haccepts => absurd haccepts hrejected
  decrease := fun _ _ _ haccepts => absurd haccepts hrejected
  rejected := fun _ => by rw [after_of_rejected hrejected]

/-- **When a call does what it is for**: unless it takes a balance out of the type. -/
theorem honours_iff (h : m.InRange) (hmax : m.maxMoney < 2 ^ 63) {call : MoneyCall}
    (hamount : IsInt64 call.amount) : m.Honours call ↔ m.Fits call := by
  constructor
  · rintro hhonours p amount rfl hpos
    by_contra hover
    have hbalance := h p
    have hneg : int64 (m.playerMoney p + amount) < 0 :=
      int64_neg (by omega) hamount.2 (not_lt.mp hover)
    have hafter := (hhonours.inRange p).1
    rw [after_increase hpos, playerMoney_setBalance, Function.update_self, increased_eq, credited,
      if_neg (by omega)] at hafter
    omega
  · intro hfits
    by_cases haccepts : m.Accepts call
    · cases call with
      | increase p amount =>
        have hpos := accepts_increase.mp haccepts
        exact honours_increase h hpos (hfits p amount rfl hpos)
      | decrease p amount =>
        obtain ⟨hpos, hle⟩ := accepts_decrease.mp haccepts
        exact honours_decrease h hmax hpos hle
    · exact honours_of_rejected h haccepts

/-! ## Sequences of calls -/

@[simp] theorem afterAll_nil (m : MoneyManager) : m.afterAll [] = m := rfl

@[simp] theorem afterAll_cons (m : MoneyManager) (call : MoneyCall) (calls : List MoneyCall) :
    m.afterAll (call :: calls) = (m.after call).afterAll calls := rfl

theorem honoured_cons {call : MoneyCall} {calls : List MoneyCall} :
    m.Honoured (call :: calls) ↔ m.Honours call ∧ (m.after call).Honoured calls := by
  constructor
  · intro h
    exact ⟨h 0 call rfl, fun k call' hk => h (k + 1) call' hk⟩
  · rintro ⟨hfirst, hrest⟩ (_ | k) call' hk
    · obtain rfl : call = call' := Option.some.inj hk
      exact hfirst
    · exact hrest k call' hk

/-- **Sequences of calls**: every call does what it is for if and only if no increase
takes the balance it finds out of `int64_t`. -/
theorem honoured_iff {m : MoneyManager} {calls : List MoneyCall} (hmax : IsInt64 m.maxMoney)
    (hstart : m.InRange) (hamounts : ∀ call ∈ calls, IsInt64 call.amount) :
    m.Honoured calls ↔
      ∀ k call, calls[k]? = some call → (m.afterAll (calls.take k)).Fits call := by
  induction calls generalizing m with
  | nil => simp [Honoured]
  | cons call calls ih =>
    have hcall := honours_iff hstart hmax.2 (hamounts call (List.mem_cons_self ..))
    have hamounts' := fun c hc => hamounts c (List.mem_cons_of_mem _ hc)
    rw [honoured_cons]
    constructor
    · rintro ⟨hhonours, hrest⟩ (_ | k) call' hk
      · obtain rfl : call = call' := Option.some.inj hk
        exact hcall.mp hhonours
      · exact (ih (by rwa [maxMoney_after]) hhonours.inRange hamounts').mp hrest k call' hk
    · intro hfits
      have hhonours := hcall.mpr (hfits 0 call rfl)
      exact ⟨hhonours, (ih (by rwa [maxMoney_after]) hhonours.inRange hamounts').mpr
        fun k call' hk => hfits (k + 1) call' hk⟩

/-- Two players with five each and a cap of ten. -/
def sampleMoneyManager : MoneyManager where
  playerMoney := fun _ => 5
  maxMoney := 10
  towerKillRewardAmounts := [3]
  soldierKillRewardAmount := 2
  towerSuicideRewardAmounts := [1]
  payouts := fun _ => []

theorem honoured_iff_sample :
    sampleMoneyManager.Honoured [.increase .player1 7, .decrease .player1 3,
      .decrease .player2 20, .increase .player2 0] := by
  refine (honoured_iff (by decide) (fun p => by cases p <;> decide) (by decide)).mpr ?_
  rintro (_ | _ | _ | _ | k) call hcall <;> cases hcall
  · rintro p amount ⟨⟩
    decide
  · rintro p amount ⟨⟩
  · rintro p amount ⟨⟩
  · rintro p amount ⟨⟩
    decide

/-- With the cap that the game is played with, a balance of one and an increase by the
greatest amount of the type give the least number of the type. -/
theorem not_honoured_sample :
    let m := { sampleMoneyManager with playerMoney := fun _ => 1, maxMoney := 2 ^ 63 - 1 }
    let call := MoneyCall.increase .player1 (2 ^ 63 - 1)
    IsInt64 m.maxMoney ∧ m.InRange ∧ IsInt64 call.amount ∧
      (m.after call).playerMoney .player1 = -2 ^ 63 ∧ ¬ m.Honoured [call] := by
  intro m call
  have hafter : (m.after call).playerMoney .player1 = -2 ^ 63 := by decide
  refine ⟨by decide, fun p => by cases p <;> decide, by decide, hafter, fun h => ?_⟩
  have hrange := ((h 0 call rfl).inRange .player1).1
  rw [List.take_zero, afterAll_nil, hafter] at hrange
  exact absurd hrange (by decide)

end MoneyManager

end Simulator
