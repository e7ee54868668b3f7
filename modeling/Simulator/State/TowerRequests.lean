import Simulator.State.TowerPhase

/-!
# The requests of a tower manager

The three queues of a tower manager are one list of requests, which an update handles
from the front: the builds, then the upgrades, then the suicides (`update_eq_requests`).

The header of the class says which requests are to be refused, `MustBeRefused`.  All but
one of these the handlers do refuse, and before they have touched anything.  The one they
do not look at is the offset of a build: off the map there is nothing to build on, but
the bounds of the range are clamped, so the tower is paid for and listed like any other.
`refusesRightly_iff` says for which requests an update does what the header says.

## When a request is refused

A request may be fine when it is queued and not when its turn comes, as the requests before it
have spent the money or changed the tower.  So whether it is to be refused is asked of the
environment that the requests before it have left, and `RefusesRightly` is about every request
that the update comes to.  To be refused rightly is to be thrown at before anything is touched:
the update ends there, and what it leaves is what the requests before have made (`ThrowsAt`).

The exact condition is about the builds alone.  They are handled first and cost the same wherever
they are, so that a build off the map is refused if and only if the ones queued before it have
used up the money, and which one that is can be computed from the balance and the price.
-/

namespace Simulator

open Foundation

variable {K : Type}

/-- One entry of a queue. -/
inductive TowerRequest (K : Type) where
  | build (offset : Vector K)
  | upgrade (towerId : ℤ)
  | suicide (towerId : ℤ)

/-- The requests in the order of their handling. -/
def TowerManager.requests (m : TowerManager K) : List (TowerRequest K) :=
  m.towersToBuildOffsets.map .build ++
    (m.towersToUpgrade.map .upgrade ++ m.towersToSuicide.map .suicide)

/-- The offsets there is an element at. -/
def GameMap.HasOffset [Field K] [LinearOrder K] (m : GameMap) (offset : Vector K) : Prop :=
  (Double.ofInt 0 ≤ offset.x ∧ offset.x < Double.ofInt m.size) ∧
    Double.ofInt 0 ≤ offset.y ∧ offset.y < Double.ofInt m.size

instance [Field K] [LinearOrder K] (m : GameMap) (offset : Vector K) :
    Decidable (m.HasOffset offset) :=
  inferInstanceAs (Decidable (_ ∧ _))

namespace TowerEnv

open TowerManager

variable [Field K] [LinearOrder K] [FloorRing K]

/-- Handle a request. -/
def handle (c : Constants K) (e : TowerEnv K) : TowerRequest K → TowerM K (TowerEnv K)
  | .build offset => buildNext c e offset
  | .upgrade towerId => upgradeNext c e towerId
  | .suicide towerId => suicideNext e towerId

/-! ## An update handles the requests -/

section Update

variable [IsStrictOrderedRing K] {c : Constants K} {e e' : TowerEnv K}

theorem queues_of_buildNext {offset : Vector K} (h : buildNext c e offset = .ok e') :
    e'.manager.towersToUpgrade = e.manager.towersToUpgrade ∧
      e'.manager.towersToSuicide = e.manager.towersToSuicide := by
  obtain ⟨cost, t, bounds, -, -, -, -, -, rfl⟩ := buildNext_eq_ok.mp h
  exact ⟨rfl, rfl⟩

theorem queue_of_upgradeNext {towerId : ℤ} (h : upgradeNext c e towerId = .ok e') :
    e'.manager.towersToSuicide = e.manager.towersToSuicide := by
  obtain ⟨i, t, cost, oldBounds, t', newBounds, -, -, -, -, -, -, -, -, -, rfl⟩ :=
    upgradeNext_eq_ok.mp h
  rfl

/-- **An update** handles the requests one after the other, and then the deaths. -/
theorem update_eq_requests (c : Constants K) (e : TowerEnv K) :
    update c e = e.manager.requests.foldlM (handle c) e >>= handleTowerDeathUpdates c := by
  have hupgrades : ∀ e₁, handleTowerBuildUpdates c e = .ok e₁ →
      e₁.manager.towersToUpgrade = e.manager.towersToUpgrade ∧
        e₁.manager.towersToSuicide = e.manager.towersToSuicide := fun e₁ h₁ =>
    foldlM_invariant (I := fun s => s.manager.towersToUpgrade = e.manager.towersToUpgrade ∧
        s.manager.towersToSuicide = e.manager.towersToSuicide)
      (fun s s' offset hs _ hround => by
        obtain ⟨h, h'⟩ := queues_of_buildNext hround
        exact ⟨h.trans hs.1, h'.trans hs.2⟩) ⟨rfl, rfl⟩ h₁
  have hsuicides : ∀ e₁ e₂, handleTowerUpgradeUpdates c e₁ = .ok e₂ →
      e₂.manager.towersToSuicide = e₁.manager.towersToSuicide := fun e₁ e₂ h₂ =>
    foldlM_invariant (I := fun s => s.manager.towersToSuicide = e₁.manager.towersToSuicide)
      (fun s s' towerId hs _ hround => (queue_of_upgradeNext hround).trans hs) rfl h₂
  have hbuilds : handleTowerBuildUpdates c e =
      (e.manager.towersToBuildOffsets.map TowerRequest.build).foldlM (handle c) e := by
    rw [List.foldlM_map]
    rfl
  rw [update, requests, List.foldlM_append, bind_assoc, ← hbuilds]
  refine bind_congr_of_ok ?_
  intro e₁ h₁
  have hups : handleTowerUpgradeUpdates c e₁ =
      (e.manager.towersToUpgrade.map TowerRequest.upgrade).foldlM (handle c) e₁ := by
    rw [List.foldlM_map, ← (hupgrades e₁ h₁).1]
    rfl
  rw [List.foldlM_append, bind_assoc, ← hups]
  refine bind_congr_of_ok ?_
  intro e₂ h₂
  have hsuis : handleTowerSuicideUpdates e₂ =
      (e.manager.towersToSuicide.map TowerRequest.suicide).foldlM (handle c) e₂ := by
    rw [List.foldlM_map, ← (hupgrades e₁ h₁).2, ← hsuicides e₁ e₂ h₂]
    rfl
  rw [hsuis]

end Update

/-! ## Refusals -/

/-- The balance of the player. -/
def balance (e : TowerEnv K) : ℤ := e.moneyManager.playerMoney e.manager.playerId

/-- The requests that are to be refused. -/
inductive MustBeRefused (c : Constants K) (e : TowerEnv K) : TowerRequest K → Prop
  /-- A build outside the map. -/
  | offMap {offset : Vector K} (h : ¬ e.map.HasOffset offset) : MustBeRefused c e (.build offset)
  /-- A build that the balance does not cover. -/
  | buildCost {offset : Vector K} {cost : ℤ} (hcost : c.towerBuildCosts[0]? = some cost)
      (h : e.balance < cost) : MustBeRefused c e (.build offset)
  /-- An upgrade of no tower. -/
  | upgradeUnknown {towerId : ℤ} (h : ∀ t ∈ e.manager.towers, t.id ≠ towerId) :
      MustBeRefused c e (.upgrade towerId)
  /-- An upgrade beyond the last level. -/
  | maxLevel {towerId : ℤ} {t : Tower K} (hget : e.manager.getTowerById towerId = .ok t)
      (h : t.towerLevel = c.towerBuildCosts.length) : MustBeRefused c e (.upgrade towerId)
  /-- An upgrade that the balance does not cover. -/
  | upgradeCost {towerId cost : ℤ} {t : Tower K} (hget : e.manager.getTowerById towerId = .ok t)
      (hcost : vectorAt c.towerBuildCosts t.towerLevel = .ok cost) (h : e.balance < cost) :
      MustBeRefused c e (.upgrade towerId)
  /-- A suicide of no tower. -/
  | suicideUnknown {towerId : ℤ} (h : ∀ t ∈ e.manager.towers, t.id ≠ towerId) :
      MustBeRefused c e (.suicide towerId)

/-- The second environment has the towers, the territory and the balances of the first. -/
structure SameHoldings (e e' : TowerEnv K) : Prop where
  towers : e'.manager.towers = e.manager.towers
  territoryRefs : e'.manager.territoryRefs = e.manager.territoryRefs
  map : e'.map = e.map
  playerMoney : e'.moneyManager.playerMoney = e.moneyManager.playerMoney

/-- The update of `e` throws at the request `r`, which it comes to in `e₁`, and leaves
what it has found there. -/
def ThrowsAt (c : Constants K) (e e₁ : TowerEnv K) (r : TowerRequest K) : Prop :=
  ∃ what e', handle c e₁ r = .error (.outOfRange what, e') ∧
    update c e = .error (.outOfRange what, e') ∧ e₁.SameHoldings e'

/-- Whichever request is to be refused when an update comes to it, the update throws at
that request and leaves what the requests before it have made. -/
def RefusesRightly (c : Constants K) (e : TowerEnv K) : Prop :=
  ∀ before r rest e₁, e.manager.requests = before ++ r :: rest →
    before.foldlM (handle c) e = .ok e₁ → MustBeRefused c e₁ r → ThrowsAt c e e₁ r

section Refusals

variable [IsStrictOrderedRing K] {c : Constants K} {e e₁ : TowerEnv K}

/-- A request that is thrown at ends the update. -/
theorem throwsAt_of_handle {before rest : List (TowerRequest K)} {r : TowerRequest K}
    (hrequests : e.manager.requests = before ++ r :: rest)
    (hbefore : before.foldlM (handle c) e = .ok e₁) {what : String} {e' : TowerEnv K}
    (hthrow : handle c e₁ r = .error (.outOfRange what, e')) (hsame : e₁.SameHoldings e') :
    ThrowsAt c e e₁ r := by
  refine ⟨what, e', hthrow, ?_, hsame⟩
  rw [update_eq_requests, hrequests, List.foldlM_append, hbefore, ok_bind, List.foldlM_cons, hthrow]
  rfl

omit [LinearOrder K] [FloorRing K] [IsStrictOrderedRing K] in
theorem decrease_eq_error {m : MoneyManager} {p : PlayerId} {cost : ℤ}
    (h : m.playerMoney p < cost) : ∃ what, m.decrease p cost = .error (.outOfRange what) := by
  unfold MoneyManager.decrease
  by_cases hpos : cost ≤ 0
  · exact ⟨_, if_pos hpos⟩
  · exact ⟨_, by rw [if_neg hpos, if_pos h]⟩

omit [IsStrictOrderedRing K] in
/-- **A build that cannot be paid for** is refused before anything is touched. -/
theorem buildNext_refused {offset : Vector K} {cost : ℤ}
    (hcost : c.towerBuildCosts[0]? = some cost) (h : e.balance < cost) :
    ∃ what e', handle c e (.build offset) = .error (.outOfRange what, e') ∧ e.SameHoldings e' := by
  have hat : vectorAt c.towerBuildCosts 0 = .ok cost := vectorAt_eq_ok.mpr ⟨le_rfl, hcost⟩
  obtain ⟨what, hwhat⟩ := decrease_eq_error (m := e.moneyManager) (p := e.manager.playerId) h
  refine ⟨what, { e with
    manager.towersToBuildOffsets := e.manager.towersToBuildOffsets.tail }, ?_, ⟨rfl, rfl, rfl, rfl⟩⟩
  simp only [handle, buildNext, hat, orThrow_ok, ok_bind, hwhat, orThrow_error]
  rfl

omit [IsStrictOrderedRing K] in
/-- **An upgrade that is to be refused** is refused before anything is touched. -/
theorem upgradeNext_refused {towerId : ℤ} (h : MustBeRefused c e (.upgrade towerId)) :
    ∃ what e', handle c e (.upgrade towerId) = .error (.outOfRange what, e') ∧
      e.SameHoldings e' := by
  have hpopped : e.SameHoldings
      { e with manager.towersToUpgrade := e.manager.towersToUpgrade.tail } := ⟨rfl, rfl, rfl, rfl⟩
  -- the tower that the search finds
  have hfound : ∀ t, e.manager.getTowerById towerId = .ok t →
      ∃ i, towerIndex towerId e.manager.towers = some i ∧ vectorAt e.manager.towers i = .ok t := by
    intro t ht
    unfold getTowerById at ht
    split at ht
    · rename_i i hi
      exact ⟨i, hi, ht⟩
    · exact absurd ht (by simp)
  cases h with
  | upgradeUnknown h =>
    refine ⟨"Cannot upgrade non-existent tower", _, ?_, hpopped⟩
    simp only [handle, upgradeNext, towerIndex_eq_none.mpr h]
  | maxLevel hget h =>
    obtain ⟨i, hi, hat⟩ := hfound _ hget
    refine ⟨"Max level reached, upgrade not allowed", _, ?_, hpopped⟩
    simp only [handle, upgradeNext, hi, hat, orThrow_ok, ok_bind, if_pos h]
  | upgradeCost hget hcost h =>
    obtain ⟨i, hi, hat⟩ := hfound _ hget
    obtain ⟨what, hwhat⟩ := decrease_eq_error (m := e.moneyManager) (p := e.manager.playerId) h
    rename_i cost t
    by_cases hmax : t.towerLevel = c.towerBuildCosts.length
    · refine ⟨"Max level reached, upgrade not allowed", _, ?_, hpopped⟩
      simp only [handle, upgradeNext, hi, hat, orThrow_ok, ok_bind, if_pos hmax]
    · refine ⟨what, _, ?_, hpopped⟩
      simp only [handle, upgradeNext, hi, hat, orThrow_ok, ok_bind, if_neg hmax, hcost, hwhat,
        orThrow_error]
      rfl

omit [IsStrictOrderedRing K] in
/-- **A suicide of no tower** is refused before anything is touched. -/
theorem suicideNext_refused {towerId : ℤ} (h : ∀ t ∈ e.manager.towers, t.id ≠ towerId) :
    ∃ what e', handle c e (.suicide towerId) = .error (.outOfRange what, e') ∧
      e.SameHoldings e' := by
  refine ⟨"Cannot suicide non-existent tower",
    { e with manager.towersToSuicide := e.manager.towersToSuicide.tail }, ?_,
    ⟨rfl, rfl, rfl, rfl⟩⟩
  simp only [handle, suicideNext, towerIndex_eq_none.mpr h]

end Refusals

/-! ## The builds of a queue -/

section Builds

variable [IsStrictOrderedRing K] {r : Ruleset K} {e e₁ : TowerEnv K}

omit [Field K] [LinearOrder K] [FloorRing K] [IsStrictOrderedRing K] in
theorem buildCosts_zero (r : Ruleset K) :
    r.towerBuildCosts[0]? = some (buildCost r.toConstants) := by
  have hat := exists_vectorAt_zero (r := r) (l := r.towerBuildCosts) rfl
  exact (vectorAt_eq_ok.mp hat).2

/-- A build that can be paid for is carried out, wherever it is. -/
theorem exists_handle_build (offset : Vector K) (h : buildCost r.toConstants ≤ e.balance) :
    ∃ e₁, handle r.toConstants e (.build offset) = .ok e₁ := by
  have hat := exists_vectorAt_zero (r := r) (l := r.towerBuildCosts) rfl
  have hpos : 0 < buildCost r.toConstants := r.towerBuildCosts_pos _ (mem_of_vectorAt hat)
  have ht := newTower_eq (r := r) e offset
  obtain ⟨bounds, hb⟩ := exists_calculateBounds (sound_of_newTower rfl ht) e.map
  exact ⟨_, buildNext_eq_ok.mpr ⟨_, _, bounds, hat, hpos, h, ht, hb, rfl⟩⟩

theorem of_handle_build {offset : Vector K}
    (h : handle r.toConstants e (.build offset) = .ok e₁) :
    e.SameContext e₁ ∧ e₁.balance = e.balance - buildCost r.toConstants := by
  obtain ⟨cost, t, bounds, hat, -, -, -, -, rfl⟩ := buildNext_eq_ok.mp h
  obtain rfl : buildCost r.toConstants = cost :=
    Except.ok.inj ((exists_vectorAt_zero (r := r) rfl).symm.trans hat)
  exact ⟨sameContext_built .., Function.update_self ..⟩

theorem of_foldlM_build {l : List (Vector K)}
    (h : (l.map TowerRequest.build).foldlM (handle r.toConstants) e = .ok e₁) :
    e.SameContext e₁ ∧ e₁.balance = e.balance - l.length * buildCost r.toConstants := by
  induction l generalizing e with
  | nil =>
    obtain rfl : e = e₁ := Except.ok.inj h
    exact ⟨.refl e, by simp⟩
  | cons offset l ih =>
    rw [List.map_cons, List.foldlM_cons, bind_eq_ok] at h
    obtain ⟨e₂, hfirst, hrest⟩ := h
    obtain ⟨hcontext, hbalance⟩ := of_handle_build hfirst
    obtain ⟨hcontext', hbalance'⟩ := ih hrest
    refine ⟨hcontext.trans hcontext', ?_⟩
    rw [hbalance', hbalance, List.length_cons]
    push_cast
    ring

theorem exists_foldlM_build {l : List (Vector K)}
    (h : l.length * buildCost r.toConstants ≤ e.balance) :
    ∃ e₁, (l.map TowerRequest.build).foldlM (handle r.toConstants) e = .ok e₁ := by
  have hpos : 0 < buildCost r.toConstants :=
    r.towerBuildCosts_pos _ (List.mem_of_getElem? (buildCosts_zero r))
  induction l generalizing e with
  | nil => exact ⟨e, rfl⟩
  | cons offset l ih =>
    have hsum : ((l.length + 1 : ℕ) : ℤ) * buildCost r.toConstants =
        l.length * buildCost r.toConstants + buildCost r.toConstants := by
      push_cast
      ring
    have hrest : 0 ≤ (l.length : ℤ) * buildCost r.toConstants := by positivity
    rw [List.length_cons, hsum] at h
    obtain ⟨e₂, hfirst⟩ := exists_handle_build (r := r) (e := e) offset (by omega)
    rw [List.map_cons, List.foldlM_cons, hfirst, ok_bind]
    exact ih (by rw [(of_handle_build hfirst).2]; omega)

omit [Field K] [LinearOrder K] [FloorRing K] [IsStrictOrderedRing K] in
theorem requests_eq_append_build {m : TowerManager K} {before rest : List (TowerRequest K)}
    {offset : Vector K} (h : m.requests = before ++ .build offset :: rest) :
    m.towersToBuildOffsets[before.length]? = some offset ∧
      before = (m.towersToBuildOffsets.take before.length).map .build := by
  have hget : m.requests[before.length]? = some (.build offset) := by simp [h]
  have htake : before = m.requests.take before.length := by simp [h]
  unfold requests at hget htake
  by_cases hlt : before.length < m.towersToBuildOffsets.length
  · rw [List.getElem?_append_left (by simpa using hlt), List.getElem?_map] at hget
    obtain ⟨offset', hoffset, heq⟩ := Option.map_eq_some_iff.mp hget
    obtain rfl := TowerRequest.build.inj heq
    refine ⟨hoffset, ?_⟩
    rwa [List.take_append_of_le_length (by simpa using hlt.le), ← List.map_take] at htake
  · rw [List.getElem?_append_right (by simpa using hlt)] at hget
    have hmem := List.mem_of_getElem? hget
    simp at hmem

omit [Field K] [LinearOrder K] [FloorRing K] [IsStrictOrderedRing K] in
theorem requests_split_build {m : TowerManager K} {k : ℕ}
    (hlt : k < m.towersToBuildOffsets.length) :
    m.requests = (m.towersToBuildOffsets.take k).map .build ++
      .build m.towersToBuildOffsets[k] :: ((m.towersToBuildOffsets.drop (k + 1)).map .build ++
        (m.towersToUpgrade.map .upgrade ++ m.towersToSuicide.map .suicide)) := by
  have hsplit : m.towersToBuildOffsets = m.towersToBuildOffsets.take k ++
      m.towersToBuildOffsets[k] :: m.towersToBuildOffsets.drop (k + 1) := by
    rw [List.getElem_cons_drop, List.take_append_drop]
  have hmap := congrArg (List.map TowerRequest.build) hsplit
  rw [List.map_append, List.map_cons] at hmap
  rw [requests, hmap, List.append_assoc, List.cons_append]

end Builds

/-- **Which requests are refused rightly.**  An update does what the header says if and
only if every queued build that is off the map comes after the money has run out. -/
theorem refusesRightly_iff [IsStrictOrderedRing K] {r : Ruleset K} {e : TowerEnv K} :
    RefusesRightly r.toConstants e ↔
      ∀ (k : ℕ) offset, e.manager.towersToBuildOffsets[k]? = some offset →
        ¬ e.map.HasOffset offset → e.balance < (k + 1) * buildCost r.toConstants := by
  have hcost := buildCosts_zero r
  constructor
  · intro h k offset hk hoff
    by_contra hafford
    have hpos : 0 < buildCost r.toConstants :=
      r.towerBuildCosts_pos _ (List.mem_of_getElem? hcost)
    obtain ⟨hlt, rfl⟩ := List.getElem?_eq_some_iff.mp hk
    have hlength : (e.manager.towersToBuildOffsets.take k).length = k :=
      List.length_take_of_le hlt.le
    have hsum : ((k : ℤ) + 1) * buildCost r.toConstants =
        k * buildCost r.toConstants + buildCost r.toConstants := by ring
    -- the builds before it are carried out, and it is itself
    obtain ⟨e₁, hbefore⟩ := exists_foldlM_build (r := r) (e := e)
      (l := e.manager.towersToBuildOffsets.take k) (by rw [hlength]; omega)
    obtain ⟨hcontext, hbalance⟩ := of_foldlM_build hbefore
    rw [hlength] at hbalance
    obtain ⟨e₂, hbuilt⟩ := exists_handle_build (r := r) (e := e₁)
      e.manager.towersToBuildOffsets[k] (by omega)
    have hoff₁ : ¬ e₁.map.HasOffset e.manager.towersToBuildOffsets[k] := by
      rw [GameMap.HasOffset, hcontext.size]
      exact hoff
    obtain ⟨what, e', hthrow, -⟩ := h _ _ _ e₁ (requests_split_build hlt) hbefore (.offMap hoff₁)
    rw [hbuilt] at hthrow
    exact absurd hthrow (by simp)
  · intro h before request rest e₁ hrequests hbefore hrefuse
    suffices hthrow : ∃ what e', handle r.toConstants e₁ request =
        .error (.outOfRange what, e') ∧ e₁.SameHoldings e' by
      obtain ⟨what, e', hthrow, hsame⟩ := hthrow
      exact throwsAt_of_handle hrequests hbefore hthrow hsame
    cases request with
    | build offset =>
      obtain ⟨hk, hbuilds⟩ := requests_eq_append_build hrequests
      rw [hbuilds] at hbefore
      obtain ⟨hcontext, hbalance⟩ := of_foldlM_build hbefore
      obtain ⟨hlt, -⟩ := List.getElem?_eq_some_iff.mp hk
      rw [List.length_take_of_le hlt.le] at hbalance
      refine buildNext_refused hcost ?_
      cases hrefuse with
      | offMap hoff =>
        rw [GameMap.HasOffset, hcontext.size] at hoff
        have hlate := h _ offset hk hoff
        rw [add_mul, one_mul] at hlate
        omega
      | buildCost hcost' hlate =>
        obtain rfl := Option.some.inj (hcost.symm.trans hcost')
        exact hlate
    | upgrade towerId => exact upgradeNext_refused hrefuse
    | suicide towerId =>
      cases hrefuse with
      | suicideUnknown h => exact suicideNext_refused h

/-- A tower manager of the small game that has no towers yet, and its surroundings. -/
def sampleTowerEnv : TowerEnv ℚ where
  manager := ⟨[], .player1, [], [], [], [], [], fun _ => 0⟩
  moneyManager := ⟨fun _ => 1, 100, [3, 5], 2, [1, 2], fun _ => []⟩
  map := ⟨4, 2, fun _ => ⟨.land, fun _ => false⟩⟩
  actorIdIncrement := 0

/-- The money is spent on the first build, so the one off the map is refused. -/
theorem refusesRightly_iff_sample :
    RefusesRightly sampleRules.toConstants
      { sampleTowerEnv with
        manager.towersToBuildOffsets := [Vector.ofInt 2 2, Vector.ofInt (-5) (-5)]
        manager.towersToUpgrade := [77] } := by
  refine refusesRightly_iff.mpr ?_
  rintro (_ | _ | k) offset hoffset hoff
  · cases hoffset
    exact absurd hoff (by decide +kernel)
  · decide
  · simp at hoffset

/-- There is money for the build off the map, and it is carried out. -/
theorem not_refusesRightly_sample :
    let e := { sampleTowerEnv with
      manager := sampleTowerEnv.manager.buildTower (Vector.ofInt (-5) (-5)) }
    Run sampleRules.toConstants sampleTowerEnv.map e ∧
      ((update sampleRules.toConstants e).toOption.map fun e' =>
        (e'.manager.towers.length, e'.balance)) = some (1, 0) ∧
      ¬ RefusesRightly sampleRules.toConstants e := by
  intro e
  have hconstruct : construct sampleRules.toConstants [] .player1 sampleTowerEnv.moneyManager
      sampleTowerEnv.map 0 = .ok sampleTowerEnv := rfl
  refine ⟨.buildTower (.construct (fun _ => rfl) hconstruct) _, by decide +kernel, ?_⟩
  intro h
  have hoff : ¬ e.map.HasOffset (Vector.ofInt (-5) (-5) : Vector ℚ) := by decide +kernel
  obtain ⟨what, e', hthrow, -⟩ := h [] (.build (Vector.ofInt (-5) (-5))) [] e rfl rfl (.offMap hoff)
  obtain ⟨e₁, hbuilt⟩ := exists_handle_build (r := sampleRules) (e := e)
    (Vector.ofInt (-5) (-5)) (by decide)
  rw [hbuilt] at hthrow
  exact absurd hthrow (by simp)

end TowerEnv

end Simulator
