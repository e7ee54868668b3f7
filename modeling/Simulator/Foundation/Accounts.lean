import Mathlib.Algebra.Order.BigOperators.Group.List
import Mathlib.Algebra.Order.Group.Unbundled.Basic
import Mathlib.Data.List.Nodup
import Mathlib.Data.Set.Insert
import Mathlib.Tactic.Abel

/-!
# Accounts

An account is a list of entries: amounts that are taken off a balance, and amounts
that are paid in, each with the source it comes from.  What a payment in makes of a
balance is a parameter (`deposit`), since it may be less than the sum: a deposit that
is cut off at a maximum is `capped`.

`balanceAfter_add` is the law of conservation.  It says that the money that was
there or was paid in is what is left, what was spent, and what was cut off
(`forfeited`).  `balanceAfter_eq` is the case in which nothing is cut off.  Whether that is so
can often be told from the number of payments alone, by `earned_le`.

The law says nothing of where the money comes from.  That is the other half of an account:
`Settles` says of the sources of some payments that they are the dues that have come up in
the meantime, each of them once.  Dues come up one after the other and do not go away, so
the statement is put together from one payment at a time.
-/

namespace Simulator.Foundation

variable {σ α : Type*}

/-- An entry of an account. -/
inductive Posting (σ α : Type*) where
  | debit (amount : α)
  | credit (source : σ) (amount : α)
  deriving DecidableEq

namespace Posting

/-- Where the money comes from. -/
def source? : Posting σ α → Option σ
  | debit _ => none
  | credit source _ => some source

/-- What is taken off. -/
def debited [Zero α] : Posting σ α → α
  | debit amount => amount
  | credit _ _ => 0

/-- What is paid in. -/
def credited [Zero α] : Posting σ α → α
  | debit _ => 0
  | credit _ amount => amount

/-- An amount that is taken off is there. -/
def IsCovered [LE α] (balance : α) : Posting σ α → Prop
  | debit amount => amount ≤ balance
  | credit _ _ => True

end Posting

/-- The sources of the money, oldest first. -/
def sources (l : List (Posting σ α)) : List σ := l.filterMap Posting.source?

@[simp] theorem sources_append (l l' : List (Posting σ α)) :
    sources (l ++ l') = sources l ++ sources l' :=
  List.filterMap_append ..

@[simp] theorem sources_debits (amounts : List α) :
    sources (amounts.map fun a => (Posting.debit a : Posting σ α)) = [] :=
  List.filterMap_eq_nil_iff.mpr fun x hx => by
    obtain ⟨a, -, rfl⟩ := List.mem_map.mp hx
    rfl

section Sums

variable [AddCommGroup α]

/-- The sum of what is taken off. -/
def spent (l : List (Posting σ α)) : α := (l.map Posting.debited).sum

/-- The sum of what is paid in. -/
def earned (l : List (Posting σ α)) : α := (l.map Posting.credited).sum

@[simp] theorem spent_cons (x : Posting σ α) (l : List (Posting σ α)) :
    spent (x :: l) = x.debited + spent l := by
  simp [spent]

@[simp] theorem earned_cons (x : Posting σ α) (l : List (Posting σ α)) :
    earned (x :: l) = x.credited + earned l := by
  simp [earned]

/-! ## The balance -/

variable (deposit : α → α → α)

/-- The balance after an entry. -/
def post (balance : α) : Posting σ α → α
  | .debit amount => balance - amount
  | .credit _ amount => deposit balance amount

/-- The balance after all entries. -/
def balanceAfter (balance : α) (l : List (Posting σ α)) : α := l.foldl (post deposit) balance

/-- What is cut off in all. -/
def forfeited : α → List (Posting σ α) → α
  | _, [] => 0
  | balance, .debit amount :: l => forfeited (balance - amount) l
  | balance, .credit _ amount :: l =>
    balance + amount - deposit balance amount + forfeited (deposit balance amount) l

variable {deposit} {balance : α}

@[simp] theorem balanceAfter_nil :
    balanceAfter deposit balance ([] : List (Posting σ α)) = balance := rfl

@[simp] theorem balanceAfter_cons (x : Posting σ α) (l : List (Posting σ α)) :
    balanceAfter deposit balance (x :: l) = balanceAfter deposit (post deposit balance x) l := rfl

theorem balanceAfter_append (l l' : List (Posting σ α)) :
    balanceAfter deposit balance (l ++ l') =
      balanceAfter deposit (balanceAfter deposit balance l) l' :=
  List.foldl_append ..

theorem balanceAfter_debits (amounts : List α) :
    balanceAfter deposit balance (amounts.map fun a => (Posting.debit a : Posting σ α)) =
      balance - amounts.sum := by
  induction amounts generalizing balance with
  | nil => simp
  | cons a amounts ih =>
    rw [List.map_cons, balanceAfter_cons, ih, List.sum_cons, post]
    abel

/-- **Conservation**: what there was and what was paid in is there, or was spent, or
was cut off. -/
theorem balanceAfter_add (deposit : α → α → α) (balance : α) (l : List (Posting σ α)) :
    balanceAfter deposit balance l + spent l + forfeited deposit balance l =
      balance + earned l := by
  induction l generalizing balance with
  | nil => simp [spent, earned, forfeited]
  | cons x l ih =>
    cases x with
    | debit a =>
      have hrest := ih (balance - a)
      simp only [balanceAfter_cons, post, spent_cons, Posting.debited, forfeited, earned_cons,
        Posting.credited]
      calc _ = (balanceAfter deposit (balance - a) l + spent l +
            forfeited deposit (balance - a) l) + a := by abel
        _ = balance + (0 + earned l) := by
          rw [hrest]
          abel
    | credit source a =>
      have hrest := ih (deposit balance a)
      simp only [balanceAfter_cons, post, spent_cons, Posting.debited, forfeited, earned_cons,
        Posting.credited]
      calc _ = (balanceAfter deposit (deposit balance a) l + spent l +
            forfeited deposit (deposit balance a) l) + (balance + a - deposit balance a) := by abel
        _ = balance + (a + earned l) := by
          rw [hrest]
          abel

end Sums

section Order

variable [AddCommGroup α] [LinearOrder α] [IsOrderedAddMonoid α]

/-- No amount is negative. -/
def Posting.IsProper (x : Posting σ α) : Prop := 0 ≤ x.debited ∧ 0 ≤ x.credited

/-- Whatever is taken off is there when it is. -/
def Covered (deposit : α → α → α) : α → List (Posting σ α) → Prop
  | _, [] => True
  | balance, x :: l => x.IsCovered balance ∧ Covered deposit (post deposit balance x) l

/-- Up to a limit, a deposit adds at most its amount, and leaves no debt. -/
def Prudent (deposit : α → α → α) (limit : α) : Prop :=
  ∀ balance amount, 0 ≤ balance → 0 ≤ amount → balance + amount ≤ limit →
    0 ≤ deposit balance amount ∧ deposit balance amount ≤ balance + amount

variable {deposit : α → α → α} {balance limit : α} {l l' : List (Posting σ α)}

omit [IsOrderedAddMonoid α] in
theorem covered_append : Covered deposit balance (l ++ l') ↔
    Covered deposit balance l ∧ Covered deposit (balanceAfter deposit balance l) l' := by
  induction l generalizing balance with
  | nil => simp [Covered]
  | cons x l ih => simp only [List.cons_append, Covered, ih, balanceAfter_cons, and_assoc]

/-- Amounts that are there together are there one after the other. -/
theorem covered_debits {amounts : List α} (hnonneg : ∀ a ∈ amounts, 0 ≤ a)
    (hle : amounts.sum ≤ balance) :
    Covered deposit balance (amounts.map fun a => (Posting.debit a : Posting σ α)) := by
  induction amounts generalizing balance with
  | nil => trivial
  | cons a amounts ih =>
    have hrest : ∀ b ∈ amounts, 0 ≤ b := fun b hb => hnonneg b (List.mem_cons_of_mem _ hb)
    rw [List.sum_cons] at hle
    refine ⟨?_, ih hrest ?_⟩
    · exact (le_add_of_nonneg_right (List.sum_nonneg hrest)).trans hle
    · show amounts.sum ≤ balance - a
      exact le_sub_iff_add_le'.mpr hle

/-- No more is paid in than the number of the payments allows. -/
theorem earned_le {most : α} (h : ∀ source a, Posting.credit source a ∈ l → a ≤ most) :
    earned l ≤ (sources l).length • most := by
  induction l with
  | nil => simp [earned, sources]
  | cons x l ih =>
    have hrest := ih fun source a ha => h source a (List.mem_cons_of_mem _ ha)
    rw [earned_cons]
    cases x with
    | debit a =>
      rw [Posting.credited, zero_add]
      exact hrest
    | credit source a =>
      have ha : a ≤ most := h source a (List.mem_cons_self ..)
      calc a + earned l ≤ most + (sources l).length • most := add_le_add ha hrest
        _ = (sources (.credit source a :: l)).length • most := (succ_nsmul' ..).symm

/-- **Induction on an account** that is covered and stays within the limit: the balance
is never negative, and no deposit goes beyond the limit. -/
theorem Covered.induction (hdeposit : Prudent deposit limit)
    {P : α → List (Posting σ α) → Prop} (nil : ∀ balance, 0 ≤ balance → P balance [])
    (debit : ∀ balance amount l, P (balance - amount) l → P balance (.debit amount :: l))
    (credit : ∀ balance source amount l, 0 ≤ balance → 0 ≤ amount → balance + amount ≤ limit →
      P (deposit balance amount) l → P balance (.credit source amount :: l))
    (h : Covered deposit balance l) (hproper : ∀ x ∈ l, x.IsProper) (hbalance : 0 ≤ balance)
    (hlimit : balance + earned l ≤ limit) : P balance l := by
  induction l generalizing balance with
  | nil => exact nil balance hbalance
  | cons x l ih =>
    have hrest : ∀ y ∈ l, y.IsProper := fun y hy => hproper y (List.mem_cons_of_mem _ hy)
    have hx := hproper x (List.mem_cons_self ..)
    rw [earned_cons] at hlimit
    cases x with
    | debit amount =>
      refine debit balance amount l (ih h.2 hrest (sub_nonneg.mpr h.1) ?_)
      rw [Posting.credited, zero_add] at hlimit
      have hle : balance - amount ≤ balance := sub_le_self _ hx.1
      exact (add_le_add_left hle _).trans hlimit
    | credit source amount =>
      have hamount : 0 ≤ amount := hx.2
      have hearned : 0 ≤ earned l := List.sum_nonneg fun a ha => by
        obtain ⟨y, hy, rfl⟩ := List.mem_map.mp ha
        exact (hrest y hy).2
      rw [Posting.credited, ← add_assoc] at hlimit
      have hfits : balance + amount ≤ limit := (le_add_of_nonneg_right hearned).trans hlimit
      obtain ⟨hnonneg, hle⟩ := hdeposit balance amount hbalance hamount hfits
      exact credit balance source amount l hbalance hamount hfits
        (ih h.2 hrest hnonneg ((add_le_add_left hle _).trans hlimit))

section Limit

variable (hdeposit : Prudent deposit limit) (h : Covered deposit balance l)
  (hproper : ∀ x ∈ l, x.IsProper) (hbalance : 0 ≤ balance) (hlimit : balance + earned l ≤ limit)

include hdeposit h hproper hbalance hlimit

theorem Covered.balanceAfter_nonneg : 0 ≤ balanceAfter deposit balance l :=
  h.induction (P := fun balance l => 0 ≤ balanceAfter deposit balance l) hdeposit
    (fun _ h => h) (fun _ _ _ ih => ih) (fun _ _ _ _ _ _ _ ih => ih) hproper hbalance hlimit

/-- Nothing is paid in that does not come from somewhere. -/
theorem Covered.forfeited_nonneg : 0 ≤ forfeited deposit balance l :=
  h.induction (P := fun balance l => 0 ≤ forfeited deposit balance l) hdeposit
    (fun _ _ => le_refl _) (fun _ _ _ ih => ih)
    (fun balance _ amount _ hbalance hamount hfits ih =>
      add_nonneg (sub_nonneg.mpr (hdeposit balance amount hbalance hamount hfits).2) ih)
    hproper hbalance hlimit

/-- **Where deposits are exact**, the balance is what was there and was paid in less
what was spent. -/
theorem Covered.balanceAfter_eq (hexact : ∀ balance amount, 0 ≤ balance → 0 ≤ amount →
      balance + amount ≤ limit → deposit balance amount = balance + amount) :
    balanceAfter deposit balance l = balance + earned l - spent l := by
  have hzero : forfeited deposit balance l = 0 :=
    h.induction (P := fun balance l => forfeited deposit balance l = 0) hdeposit
      (fun _ _ => rfl) (fun _ _ _ ih => ih)
      (fun balance source amount l hbalance hamount hfits ih => by
        rw [forfeited, ih, hexact balance amount hbalance hamount hfits, sub_self, add_zero])
      hproper hbalance hlimit
  rw [← balanceAfter_add deposit balance l, hzero, add_zero, add_sub_cancel_right]

end Limit

end Order

/-! ## Dues -/

/-- Each of the dues that have come up is paid once, and nothing else is paid. -/
structure Settles (owed owed' : Set σ) (paid : List σ) : Prop where
  subset : owed ⊆ owed'
  nodup : paid.Nodup
  mem_iff : ∀ x, x ∈ paid ↔ x ∈ owed' ∧ x ∉ owed

section Dues

variable {owed owed' owed'' : Set σ} {paid paid' : List σ} {x : σ}

theorem settles_nil (h : owed' = owed) : Settles owed owed' [] where
  subset := h.symm.subset
  nodup := List.nodup_nil
  mem_iff := by simp [h]

theorem settles_singleton (hnew : x ∉ owed) (h : owed' = insert x owed) :
    Settles owed owed' [x] where
  subset := h ▸ Set.subset_insert x owed
  nodup := List.nodup_singleton x
  mem_iff := by
    intro y
    rw [List.mem_singleton, h, Set.mem_insert_iff]
    constructor
    · rintro rfl
      exact ⟨.inl rfl, hnew⟩
    · rintro ⟨rfl | hy, hnot⟩
      · rfl
      · exact absurd hy hnot

theorem Settles.trans (h : Settles owed owed' paid) (h' : Settles owed' owed'' paid') :
    Settles owed owed'' (paid ++ paid') where
  subset := h.subset.trans h'.subset
  nodup := List.nodup_append'.mpr ⟨h.nodup, h'.nodup, fun y hy hy' =>
    ((h'.mem_iff y).mp hy').2 ((h.mem_iff y).mp hy).1⟩
  mem_iff := by
    intro y
    rw [List.mem_append, h.mem_iff, h'.mem_iff]
    constructor
    · rintro (⟨hy, hnot⟩ | ⟨hy, hnot⟩)
      · exact ⟨h'.subset hy, hnot⟩
      · exact ⟨hy, fun hold => hnot (h.subset hold)⟩
    · rintro ⟨hy, hnot⟩
      by_cases hmid : y ∈ owed'
      · exact .inl ⟨hmid, hnot⟩
      · exact .inr ⟨hy, hmid⟩

end Dues

end Simulator.Foundation
