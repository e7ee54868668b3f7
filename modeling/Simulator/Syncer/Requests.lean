import Simulator.Foundation.Budget
import Simulator.Syncer.CommandLists

/-!
# The requests of a turn can be carried out

The checks of `StateSyncer` are made one command at a time, against a snapshot of
the balances, and the towers are built, upgraded and demolished later, all builds
first.  Here the accepted commands of a turn are added up: no tower is named twice,
what they cost together is covered by the balance, and the new towers fit.

## Money

The cost of every accepted command is taken off the snapshot, and every command that costs
something is checked against what is left of it.  So the balance affords the accepted commands in
the order in which they were accepted (`affords_price`), and then it covers their sum.  The order
in which they are paid for is another one, but a sum does not depend on the order.  Demolitions
bring money, and it is not on the snapshot, so that nothing is bought with it.

## Towers

A tower is named by the slot of the command, and a slot has one verdict.  A command with both
flags set is refused, so no tower is upgraded and demolished (`nodup_towerIds`).  Towers are
counted in the same way as money is: each build is checked against the number of towers there are
together with the builds accepted before it.
-/

namespace Simulator

open Foundation

variable {K : Type}

namespace Verdict

/-- What an accepted command costs. -/
def price (v : Verdict K) : ℤ :=
  match v.action with
  | some (.upgrade _ cost) | some (.build _ cost) => cost
  | _ => 0

/-- How many towers an accepted command adds. -/
def newTowers (v : Verdict K) : ℤ :=
  match v.action with
  | some (.build _ _) => 1
  | _ => 0

/-- The tower an accepted command upgrades or demolishes. -/
def towerId (v : Verdict K) : Option ℤ :=
  match v.action with
  | some (.upgrade towerId _) | some (.suicide towerId) => some towerId
  | _ => none

end Verdict

theorem Ledger.money_after (l : Ledger) (v : Verdict K) :
    (l.after v).money = l.money - v.price := by
  unfold Ledger.after Verdict.price
  split <;> simp_all

theorem Ledger.numTowers_after (l : Ledger) (v : Verdict K) :
    (l.after v).numTowers = l.numTowers + v.newTowers := by
  unfold Ledger.after Verdict.newTowers
  split <;> simp_all

namespace StateSyncer

/-! ## Lists of verdicts -/

section Spending

/- What a ledger says is left, and what a command takes from it. -/
variable {b : Ledger → ℤ} {price : Verdict K → ℤ}
  (hafter : ∀ l v, b (l.after v) = b l - price v)

include hafter

theorem purse_foldl (vs : List (Verdict K)) (l : Ledger) :
    b (vs.foldl Ledger.after l) = b l - (vs.map price).sum := by
  induction vs generalizing l with
  | nil => simp
  | cons v vs ih =>
    rw [List.foldl_cons, ih, hafter, List.map_cons, List.sum_cons]
    omega

/-- If every command is checked against what the ledger says is left, the purse the
ledger starts with affords them all. -/
theorem affords_judge {α : Type} {f : Ledger → α → Verdict K} {as : List α}
    (hf : ∀ l, ∀ a ∈ as, price (f l a) = 0 ∨ price (f l a) ≤ b l) (l : Ledger) :
    Affords (b l) ((judge f l as).map price) := by
  induction as generalizing l with
  | nil => trivial
  | cons a as ih =>
    refine ⟨hf l a (List.mem_cons_self ..), ?_⟩
    rw [← hafter]
    exact ih (fun l b hb => hf l b (List.mem_cons_of_mem _ hb)) _

/-- In the second loop only builds take something. -/
theorem affords_otherVerdicts [Field K] [LinearOrder K] [FloorRing K] {c : Constants K}
    {st : State K}
    {p : PlayerId} {ps : PlayerState c}
    (hsoldier : ∀ l i, price (soldierSlotVerdict st p ps l i) = 0)
    (helement : ∀ l o, price (elementVerdict st p ps l o) = 0 ∨
      price (elementVerdict st p ps l o) ≤ b l) (l : Ledger) :
    Affords (b l) ((otherVerdicts st p ps l).map price) := by
  rw [otherVerdicts, List.map_append, affords_append, ← purse_foldl hafter]
  exact ⟨affords_judge hafter (fun l i _ => .inl (hsoldier l i)) l,
    affords_judge hafter (fun l o _ => helement l o) _⟩

end Spending

/-- What the accepted commands name, when each names the key of its slot. -/
theorem sublist_judge {α β : Type} {f : Ledger → α → Verdict K} {g : Verdict K → Option β}
    (key : α → β) {as : List α} (hf : ∀ l, ∀ a ∈ as, ∀ b, g (f l a) = some b → key a = b)
    (l : Ledger) : ((judge f l as).filterMap g).Sublist (as.map key) := by
  induction as generalizing l with
  | nil => exact List.Sublist.refl _
  | cons a as ih =>
    have hrest := ih (fun l b hb => hf l b (List.mem_cons_of_mem _ hb)) (l.after (f l a))
    rw [judge, filterMap_cons_toList, List.map_cons]
    cases hv : g (f l a) with
    | none => exact hrest.trans (List.sublist_cons_self ..)
    | some b =>
      rw [hf l a (List.mem_cons_self ..) b hv]
      exact hrest.cons_cons b

/-- Upgrades and demolitions together are the towers that are named. -/
theorem perm_towerIds (vs : List (Verdict K)) :
    (vs.filterMap Verdict.upgradeId ++ vs.filterMap Verdict.suicideId).Perm
      (vs.filterMap Verdict.towerId) := by
  induction vs with
  | nil => exact .refl _
  | cons v vs ih =>
    simp only [filterMap_cons_toList]
    have hv : v.upgradeId.toList ++ v.suicideId.toList = v.towerId.toList := by
      obtain ⟨errors, action⟩ := v
      rcases action with - | action
      · rfl
      · cases action <;> rfl
    rw [← hv, List.append_assoc, List.append_assoc]
    refine List.Perm.append_left _ ?_
    refine (List.perm_append_comm_assoc ..).trans ?_
    exact List.Perm.append_left _ ih

/-! ## The commands of one player -/

section Player

variable [Field K] [LinearOrder K] [FloorRing K] {c : Constants K} {st : State K} (h : st.Sound c)
  (ps : PlayerId → PlayerState c) (skip : PlayerId → Bool) (p : PlayerId)

omit [Field K] [LinearOrder K] [FloorRing K] in
theorem newTowers_firstVerdicts {v : Verdict K} (hv : v ∈ firstVerdicts st ps skip p) :
    v.newTowers = 0 ∧ v.buildOffset = none := by
  obtain ⟨-, l, i, rfl⟩ := exists_of_mem_firstVerdicts hv
  unfold Verdict.newTowers Verdict.buildOffset
  cases ha : (towerSlotVerdict st p (ps p) l i).action with
  | none => exact ⟨rfl, rfl⟩
  | some a =>
    obtain ⟨t, -, ⟨-, -, rfl⟩ | ⟨-, rfl⟩⟩ := towerSlotVerdict_action ha
    · exact ⟨rfl, rfl⟩
    · exact ⟨rfl, rfl⟩

include h

theorem towerId_secondVerdicts {v : Verdict K} (hv : v ∈ secondVerdicts st ps skip p) :
    v.towerId = none := by
  unfold Verdict.towerId
  obtain ⟨-, l, ⟨i, rfl⟩ | ⟨o, rfl⟩⟩ := exists_of_mem_secondVerdicts hv
  · obtain ha | ⟨_, ha⟩ | ⟨_, ha⟩ := soldierSlotVerdict_orders h p (ps p) l i <;> simp only [ha]
  · cases ha : (elementVerdict st p (ps p) l o).action with
    | none => rfl
    | some a =>
      obtain ⟨-, -, -, rfl⟩ := elementVerdict_action ha
      rfl

theorem accepted_playerVerdicts {v : Verdict K} (hv : v ∈ playerVerdicts st ps skip p)
    {a : Action K} (ha : v.action = some a) : Accepted c st p a := by
  rcases List.mem_append.mp hv with hv | hv
  · obtain ⟨-, l, i, rfl⟩ := exists_of_mem_firstVerdicts hv
    exact accepted_towerSlotVerdict ha
  · obtain ⟨-, l, ⟨i, rfl⟩ | ⟨o, rfl⟩⟩ := exists_of_mem_secondVerdicts hv
    · exact accepted_soldierSlotVerdict h ha
    · exact accepted_elementVerdict h ha

/-- **No tower is named twice**, for an upgrade or a demolition. -/
theorem nodup_towerIds : ((playerVerdicts st ps skip p).filterMap Verdict.towerId).Nodup := by
  have hsecond : (secondVerdicts st ps skip p).filterMap Verdict.towerId = [] :=
    List.filterMap_eq_nil_iff.mpr fun v hv => towerId_secondVerdicts h ps skip p hv
  rw [playerVerdicts, List.filterMap_append, hsecond, List.append_nil]
  unfold firstVerdicts
  split
  · simp
  · -- the key of a slot is the id of its tower
    have hkeys : ((List.range (st.towers p).length).map
        fun i => ((st.towers p)[i]?.map Tower.id).getD 0) = (st.towers p).map Tower.id :=
      List.ext_getElem (by simp) fun i h₁ h₂ => by
        simp [List.getElem?_eq_getElem (by simpa using h₂ : i < (st.towers p).length)]
    have hsublist : ((st.towers p).map Tower.id).Sublist
        ((st.towerManagers p).allocatedTowers.map Tower.id) := by
      unfold TowerManager.allocatedTowers
      rw [List.append_assoc]
      exact (List.sublist_append_left ..).map _
    refine ((h.manager p).nodup.sublist hsublist).sublist (hkeys ▸ sublist_judge _ ?_ _)
    intro l i _ id hid
    unfold Verdict.towerId at hid
    cases ha : (towerSlotVerdict st p (ps p) l i).action with
    | none => simp [ha] at hid
    | some a =>
      obtain ⟨t, ht, ⟨-, -, rfl⟩ | ⟨-, rfl⟩⟩ := towerSlotVerdict_action ha <;>
        simpa [ha, ht] using hid

/-- **The balance affords all commands**, at the moment each is checked. -/
theorem affords_price : Affords (st.moneyManager.playerMoney p)
    ((playerVerdicts st ps skip p).map Verdict.price) := by
  have hafter : ∀ (l : Ledger) (v : Verdict K), (l.after v).money = l.money - v.price :=
    Ledger.money_after
  have hmoney : (secondLedger st ps skip p).money = st.moneyManager.playerMoney p -
      ((firstVerdicts st ps skip p).map Verdict.price).sum :=
    purse_foldl hafter (firstVerdicts st ps skip p) (firstLedger st p)
  rw [playerVerdicts, List.map_append, affords_append, ← hmoney]
  constructor
  · unfold firstVerdicts
    split
    · trivial
    · refine affords_judge hafter ?_ (firstLedger st p)
      intro l i _
      unfold Verdict.price
      cases ha : (towerSlotVerdict st p (ps p) l i).action with
      | none => exact .inl rfl
      | some a =>
        obtain ⟨t, -, ⟨-, hmoney, rfl⟩ | ⟨-, rfl⟩⟩ := towerSlotVerdict_action ha
        · exact .inr hmoney
        · exact .inl rfl
  · unfold secondVerdicts
    split
    · trivial
    · refine affords_otherVerdicts hafter ?_ ?_ _
      · intro l i
        unfold Verdict.price
        obtain ha | ⟨_, ha⟩ | ⟨_, ha⟩ := soldierSlotVerdict_orders h p (ps p) l i <;> simp only [ha]
      · intro l o
        unfold Verdict.price
        cases ha : (elementVerdict st p (ps p) l o).action with
        | none => exact .inl rfl
        | some a =>
          obtain ⟨-, hmoney, -, rfl⟩ := elementVerdict_action ha
          exact .inr hmoney

/-- **There is room for all new towers**, at the moment each is checked. -/
theorem affords_newTowers : Affords (c.maxNumTowers - (st.towers p).length)
    ((playerVerdicts st ps skip p).map Verdict.newTowers) := by
  have hfirst : ∀ x ∈ (firstVerdicts st ps skip p).map Verdict.newTowers, x = 0 := fun x hx => by
    obtain ⟨v, hv, rfl⟩ := List.mem_map.mp hx
    exact (newTowers_firstVerdicts ps skip p hv).1
  rw [playerVerdicts, List.map_append, affords_append, List.sum_eq_zero hfirst, sub_zero]
  refine ⟨affords_of_free hfirst, ?_⟩
  unfold secondVerdicts
  split
  · trivial
  · refine affords_otherVerdicts (b := fun l => c.maxNumTowers - l.numTowers)
      ?_ ?_ ?_ (secondLedger st ps skip p)
    · intro l v
      simp only [Ledger.numTowers_after]
      omega
    · intro l i
      unfold Verdict.newTowers
      obtain ha | ⟨_, ha⟩ | ⟨_, ha⟩ := soldierSlotVerdict_orders h p (ps p) l i <;> simp only [ha]
    · intro l o
      unfold Verdict.newTowers
      cases ha : (elementVerdict st p (ps p) l o).action with
      | none => exact .inl rfl
      | some a =>
        obtain ⟨hroom, -, -, rfl⟩ := elementVerdict_action ha
        right
        dsimp only
        omega

/-! ## The sums -/

theorem upgradeCost_eq {t : Tower K} (ht : t ∈ st.towers p) :
    TowerEnv.upgradeCost c (st.towers p) t.id = upgradePrice c t :=
  TowerEnv.upgradeCost_of_mem (h.manager p) ht

theorem sum_price {vs : List (Verdict K)}
    (hvs : ∀ v ∈ vs, ∀ a, v.action = some a → Accepted c st p a) :
    (vs.map Verdict.price).sum =
      (vs.filterMap Verdict.buildOffset).length * TowerEnv.buildCost c +
        ((vs.filterMap Verdict.upgradeId).map (TowerEnv.upgradeCost c (st.towers p))).sum := by
  induction vs with
  | nil => simp
  | cons v vs ih =>
    have hv : v.price = v.buildOffset.toList.length * TowerEnv.buildCost c +
        (v.upgradeId.toList.map (TowerEnv.upgradeCost c (st.towers p))).sum := by
      have haccepted := hvs v (List.mem_cons_self ..)
      obtain ⟨errors, action⟩ := v
      rcases action with - | action
      · simp [Verdict.price, Verdict.buildOffset, Verdict.upgradeId]
      · specialize haccepted action rfl
        cases action with
        | upgrade towerId cost =>
          obtain ⟨t, ht, rfl, -, rfl⟩ := haccepted
          simpa [Verdict.price, Verdict.buildOffset, Verdict.upgradeId] using
            (upgradeCost_eq h p ht).symm
        | build offset cost =>
          obtain ⟨rfl, -⟩ := haccepted
          simp [Verdict.price, Verdict.buildOffset, Verdict.upgradeId]
        | suicide towerId | move i position | attack i target =>
          simp [Verdict.price, Verdict.buildOffset, Verdict.upgradeId]
    rw [List.map_cons, List.sum_cons, ih fun w hw => hvs w (List.mem_cons_of_mem _ hw), hv,
      filterMap_cons_toList, filterMap_cons_toList, List.length_append, List.map_append,
      List.sum_append]
    push_cast
    ring

omit h [Field K] [LinearOrder K] [FloorRing K] in
theorem sum_newTowers (vs : List (Verdict K)) :
    (vs.map Verdict.newTowers).sum = (vs.filterMap Verdict.buildOffset).length := by
  induction vs with
  | nil => rfl
  | cons v vs ih =>
    have hv : v.newTowers = v.buildOffset.toList.length := by
      obtain ⟨errors, action⟩ := v
      rcases action with - | action
      · rfl
      · cases action <;> rfl
    rw [List.map_cons, List.sum_cons, ih, hv, filterMap_cons_toList, List.length_append]
    push_cast
    ring

end Player

/-! ## What the commands leave -/

section Queued

variable [Field K] [LinearOrder K] [FloorRing K] {r : Ruleset K} {st : State K}

theorem price_ne_zero (h : st.Sound r.toConstants) {p : PlayerId} {v : Verdict K}
    (hv : ∀ a, v.action = some a → Accepted r.toConstants st p a)
    (hbuys : v.buildOffset ≠ none ∨ v.upgradeId ≠ none) : v.price ≠ 0 := by
  obtain ⟨errors, action⟩ := v
  rcases action with - | action
  · simp [Verdict.buildOffset, Verdict.upgradeId] at hbuys
  · have haccepted := hv action rfl
    cases action with
    | upgrade towerId cost =>
      obtain ⟨t, ht, -, hlevel, rfl⟩ := haccepted
      have hsound := (h.manager p).tower t (TowerManager.mem_allocatedTowers_of_mem ht)
      have := hsound.level_pos
      have := hsound.level_le
      have hlt : t.towerLevel.toNat < r.towerBuildCosts.length := by omega
      have hcost : upgradePrice r.toConstants t = r.towerBuildCosts[t.towerLevel.toNat] := by
        simp [upgradePrice, hlt]
      change upgradePrice r.toConstants t ≠ 0
      rw [hcost]
      exact (r.towerBuildCosts_pos _ (List.getElem_mem hlt)).ne'
    | build offset cost =>
      obtain ⟨rfl, -⟩ := haccepted
      exact (r.towerBuildCosts_pos _ (mem_of_vectorAt (TowerEnv.exists_vectorAt_zero rfl))).ne'
    | suicide towerId | move i position | attack i target =>
      simp [Verdict.buildOffset, Verdict.upgradeId] at hbuys

/-- **The requests of a player can be carried out.** -/
theorem queued_carryOutAll (h : st.Rested r) (ps : PlayerId → PlayerState r.toConstants)
    (skip : PlayerId → Bool) (p₀ p : PlayerId) :
    let st' := st.carryOutAll (allVerdicts st ps skip p₀)
    (st'.towerManagers p).Queued r.toConstants (st'.moneyManager.playerMoney p) ∧
      (st'.towers p).length + (st'.towerManagers p).towersToBuildOffsets.length ≤
        r.maxNumTowers := by
  intro st'
  have hsame := State.sameButOrders_carryOutAll st (allVerdicts st ps skip p₀)
  have hrequests := State.towerManagers_carryOutAll st p (allVerdicts st ps skip p₀)
  rw [verdictsOf_allVerdicts, h.buildsDone, h.upgradesDone, h.suicidesDone, List.nil_append,
    List.nil_append, List.nil_append] at hrequests
  have haccepted : ∀ v ∈ playerVerdicts st ps skip p, ∀ a, v.action = some a →
      Accepted r.toConstants st p a := fun v hv a ha =>
    accepted_playerVerdicts h.sound ps skip p hv ha
  have hprice := sum_price h.sound p haccepted
  have hnew := sum_newTowers (playerVerdicts st ps skip p)
  have hids := (perm_towerIds (playerVerdicts st ps skip p)).nodup_iff.mpr
    (nodup_towerIds h.sound ps skip p)
  obtain ⟨hupgrades, hsuicides, hdisjoint⟩ := List.nodup_append.mp hids
  have htowers : st'.towers p = st.towers p := hsame.towers p
  -- either nothing is bought, or the balance covers everything
  have hbuys : (∃ price ∈ (playerVerdicts st ps skip p).map Verdict.price, price ≠ 0) ∨
      (playerVerdicts st ps skip p).filterMap Verdict.buildOffset = [] ∧
        (playerVerdicts st ps skip p).filterMap Verdict.upgradeId = [] := by
    by_cases hfree : ∃ price ∈ (playerVerdicts st ps skip p).map Verdict.price, price ≠ 0
    · exact .inl hfree
    · right
      constructor <;> refine List.filterMap_eq_nil_iff.mpr fun v hv => ?_ <;> by_contra hne <;>
        refine hfree ⟨v.price, List.mem_map_of_mem hv, ?_⟩
      · exact price_ne_zero h.sound (haccepted v hv) (.inl hne)
      · exact price_ne_zero h.sound (haccepted v hv) (.inr hne)
  constructor
  · rw [hrequests, hsame.moneyManager]
    refine ⟨?_, hupgrades, ?_, hsuicides, ?_, fun id hid hid' => hdisjoint id hid id hid' rfl⟩
    · rcases hbuys with hbuys | hnone
      · exact .inr (hprice ▸ (affords_price h.sound ps skip p).sum_le hbuys)
      · exact .inl hnone
    · intro id hid
      obtain ⟨v, hv, hvid⟩ := List.mem_filterMap.mp hid
      unfold Verdict.upgradeId at hvid
      split at hvid
      · rename_i towerId cost ha
        obtain ⟨t, ht, htid, hlevel, -⟩ := haccepted v hv _ ha
        exact ⟨t, ht, htid.trans (Option.some.inj hvid), hlevel⟩
      · simp at hvid
    · intro id hid
      obtain ⟨v, hv, hvid⟩ := List.mem_filterMap.mp hid
      unfold Verdict.suicideId at hvid
      split at hvid
      · rename_i towerId ha
        obtain ⟨t, ht, htid, -⟩ := haccepted v hv _ ha
        exact ⟨t, ht, htid.trans (Option.some.inj hvid)⟩
      · simp at hvid
  · rw [htowers, hrequests]
    by_cases hnone : ∃ x ∈ (playerVerdicts st ps skip p).map Verdict.newTowers, x ≠ 0
    · have hsum := (affords_newTowers h.sound ps skip p).sum_le hnone
      dsimp only
      omega
    · have hzero : ((playerVerdicts st ps skip p).map Verdict.newTowers).sum = 0 :=
        List.sum_eq_zero fun x hx => by
          by_contra hx0
          exact hnone ⟨x, hx, hx0⟩
      have := h.room p
      dsimp only
      omega

end Queued

end StateSyncer

end Simulator
