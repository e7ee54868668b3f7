import Simulator.State.Territory

/-!
# What a round of the tower manager does

`TowerManager::Update` is four loops.  For the round of each there is a function
that says what the round leaves behind (`built`, `upgraded`, `demolished`,
`deleted`), and a theorem `..._eq_ok` that says exactly when the round returns and
that this is what it then leaves.  Everything about the tower manager is proved
from these four and from the two rules at the end, which carry an invariant
through the deaths and through the whole update.

A round is a dozen of calls, any of which may throw: a table is read at a level, an amount is
checked, a tower is looked up, its range is computed on the map, and each cell of the range is
marked.  The four functions are free of all this.  They change the list of towers, the money and
the territory, and what has to hold for a round to return is on the other side of the equivalence,
as conditions on the tables, on the balance and on the tower.

The deaths are different from the other three.  They are not driven by a queue but by the indices
of the dead towers, which are collected first and then erased from the back, so that the indices
of the others stay good.  `foldlM_deleteTower` is the rule for that loop: exactly the dead towers
are gone, and an invariant that each deletion of a dead tower keeps is kept by all of them.
-/

namespace Simulator

open Foundation

namespace TowerEnv

open TowerManager

variable {K : Type}

/-! ## What the rounds leave -/

/-- After a build: the tower is listed and paid for, and has claimed its range. -/
def built (e : TowerEnv K) (t : Tower K) (cost : ℤ) (cells : List Cell) : TowerEnv K :=
  { e with
    manager := { e.manager with
      towersToBuildOffsets := e.manager.towersToBuildOffsets.tail
      towers := e.manager.towers ++ [t] }
    moneyManager := e.moneyManager.setBalance e.manager.playerId
      (e.moneyManager.playerMoney e.manager.playerId - cost)
    actorIdIncrement := e.actorIdIncrement + 1 : TowerEnv K }.setTerritory (e.territory.claim cells)

/-- After an upgrade: the tower is replaced and paid for, and has claimed what it
gained. -/
def upgraded (e : TowerEnv K) (i : ℕ) (t : Tower K) (cost : ℤ) (cells : List Cell) : TowerEnv K :=
  { e with
    manager := { e.manager with
      towersToUpgrade := e.manager.towersToUpgrade.tail
      towers := e.manager.towers.set i t }
    moneyManager := e.moneyManager.setBalance e.manager.playerId
      (e.moneyManager.playerMoney e.manager.playerId - cost) : TowerEnv K }.setTerritory
    (e.territory.claim cells)

/-- After a demolition: the tower has hp 0 and has been paid for. -/
def demolished (e : TowerEnv K) (i : ℕ) (t : Tower K) (amount : ℤ) : TowerEnv K :=
  { e with
    manager := { e.manager with
      towersToSuicide := e.manager.towersToSuicide.tail
      towers := e.manager.towers.set i { t with hp := 0 } }
    moneyManager := e.moneyManager.pay t.playerId amount (.towerSuicide t.id) }

/-- At the beginning of the deaths: the removed towers are a turn older. -/
def aged (e : TowerEnv K) : TowerEnv K :=
  { e with manager := { e.manager with
    towersToDelete0 := e.manager.towersToDelete1
    towersToDelete1 := [] } }

/-- After a death: the tower is off the list and has released its range. -/
def deleted (e : TowerEnv K) (i : ℕ) (t : Tower K) (cells : List Cell) : TowerEnv K :=
  { e with manager := { e.manager with
    towersToDelete1 := e.manager.towersToDelete1 ++ [t]
    towers := e.manager.towers.eraseIdx i } : TowerEnv K }.setTerritory (e.territory.release cells)

/-! ## When the rounds return -/

variable [Field K] [LinearOrder K] [FloorRing K]

omit [LinearOrder K] [FloorRing K] in
theorem newTower_eq_ok {c : Constants K} {e : TowerEnv K} {offset : Vector K} {t : Tower K} :
    newTower c e offset = .ok t ↔ ∃ hp, vectorAt c.towerHps 0 = .ok hp ∧
      { id := e.actorIdIncrement, playerId := e.manager.playerId, hp := hp, maxHp := hp
        position :=
          ⟨.ofInt e.map.elementSize * offset.x + .ofInt (e.map.elementSize / 2),
            .ofInt e.map.elementSize * offset.y + .ofInt (e.map.elementSize / 2)⟩
        isBase := false, towerLevel := 1 } = t := by
  simp only [newTower, bind_eq_ok, pure_eq_ok, Except.ok.injEq]

omit [Field K] [LinearOrder K] [FloorRing K] in
theorem upgrade_eq_ok {c : Constants K} {t t' : Tower K} :
    t.upgrade c = .ok t' ↔ ∃ hp, vectorAt c.towerHps t.towerLevel = .ok hp ∧
      { t with towerLevel := t.towerLevel + 1, hp := hp, maxHp := hp } = t' := by
  simp only [Tower.upgrade, bind_eq_ok, pure_eq_ok, Except.ok.injEq, add_sub_cancel_right]

omit [Field K] [LinearOrder K] [FloorRing K] in
theorem setHp_zero_eq_ok {t t' : Tower K} :
    t.setHp 0 = .ok t' ↔ 0 ≤ t.maxHp ∧ { t with hp := 0 } = t' := by
  unfold Tower.setHp checkHp
  by_cases h : t.maxHp < 0
  · simp [bind, Except.bind, h, not_le.mpr h]
  · simp [bind, Except.bind, pure, Except.pure, h, not_lt.mp h]

variable [IsStrictOrderedRing K]

/-- **A build round** returns exactly when there is money for it and the tables
have entries for level 1. -/
theorem buildNext_eq_ok {c : Constants K} {e e' : TowerEnv K} {offset : Vector K} :
    buildNext c e offset = .ok e' ↔
      ∃ cost t bounds, vectorAt c.towerBuildCosts 0 = .ok cost ∧ 0 < cost ∧
        cost ≤ e.moneyManager.playerMoney e.manager.playerId ∧ newTower c e offset = .ok t ∧
        calculateBounds c e.map t = .ok bounds ∧ e.built t cost bounds.cells = e' := by
  have hloop : ∀ (cost : ℤ) (t : Tower K) (bounds : Bounds),
      calculateBounds c e.map t = .ok bounds →
      bounds.cells.foldlM markTerritory
        { e with
          manager := { e.manager with
            towersToBuildOffsets := e.manager.towersToBuildOffsets.tail
            towers := e.manager.towers ++ [t] }
          moneyManager := e.moneyManager.setBalance e.manager.playerId
            (e.moneyManager.playerMoney e.manager.playerId - cost)
          actorIdIncrement := e.actorIdIncrement + 1 : TowerEnv K } =
        .ok (e.built t cost bounds.cells) := fun cost t bounds hb =>
    foldlM_markTerritory _ fun cell hcell =>
      contains_of_calculateBounds hb (Bounds.mem_cells.mp hcell)
  simp only [buildNext, bind_eq_ok, orThrow_eq_ok, MoneyManager.decrease_eq_ok]
  constructor
  · rintro ⟨cost, hcost, _, ⟨hpos, hle, rfl⟩, t, ht, bounds, hb, hmark⟩
    rw [hloop cost t bounds hb] at hmark
    exact ⟨cost, t, bounds, hcost, hpos, hle, ht, hb, Except.ok.inj hmark⟩
  · rintro ⟨cost, t, bounds, hcost, hpos, hle, ht, hb, rfl⟩
    exact ⟨cost, hcost, _, ⟨hpos, hle, rfl⟩, t, ht, bounds, hb, hloop cost t bounds hb⟩

/-- **An upgrade round** returns exactly when the tower is listed, can be upgraded
and there is money for it. -/
theorem upgradeNext_eq_ok {c : Constants K} {e e' : TowerEnv K} {towerId : ℤ} :
    upgradeNext c e towerId = .ok e' ↔
      ∃ i t cost oldBounds t' newBounds, towerIndex towerId e.manager.towers = some i ∧
        e.manager.towers[i]? = some t ∧ t.towerLevel ≠ c.towerBuildCosts.length ∧
        vectorAt c.towerBuildCosts t.towerLevel = .ok cost ∧ 0 < cost ∧
        cost ≤ e.moneyManager.playerMoney e.manager.playerId ∧
        calculateBounds c e.map t = .ok oldBounds ∧ t.upgrade c = .ok t' ∧
        calculateBounds c e.map t' = .ok newBounds ∧
        e.upgraded i t' cost
          (newBounds.cells.filter fun cell => ¬ oldBounds.Contains cell) = e' := by
  have hloop : ∀ (i : ℕ) (t' : Tower K) (cost : ℤ) (oldBounds newBounds : Bounds),
      calculateBounds c e.map t' = .ok newBounds →
      (newBounds.cells.filter fun cell => ¬ oldBounds.Contains cell).foldlM markTerritory
        { e with
          manager := { e.manager with
            towersToUpgrade := e.manager.towersToUpgrade.tail
            towers := e.manager.towers.set i t' }
          moneyManager := e.moneyManager.setBalance e.manager.playerId
            (e.moneyManager.playerMoney e.manager.playerId - cost) : TowerEnv K } =
        .ok (e.upgraded i t' cost
          (newBounds.cells.filter fun cell => ¬ oldBounds.Contains cell)) :=
    fun i t' cost oldBounds newBounds hb => foldlM_markTerritory _ fun cell hcell =>
      contains_of_calculateBounds hb (Bounds.mem_cells.mp (List.mem_of_mem_filter hcell))
  unfold upgradeNext
  cases hi : towerIndex towerId e.manager.towers with
  | none => simp [hi]
  | some i =>
    obtain ⟨t, ht, -⟩ := getElem?_of_towerIndex hi
    have hat : vectorAt e.manager.towers (i : ℤ) = .ok t := vectorAt_of_getElem? ht
    by_cases hmax : t.towerLevel = c.towerBuildCosts.length
    · simp [hi, hat, ht, hmax]
    · simp only [hi, hat, orThrow_ok, ok_bind, if_neg hmax, bind_eq_ok, orThrow_eq_ok,
        MoneyManager.decrease_eq_ok]
      constructor
      · rintro ⟨cost, hcost, _, ⟨hpos, hle, rfl⟩, oldBounds, hold, t', hup, newBounds, hnew, hmark⟩
        rw [hloop i t' cost oldBounds newBounds hnew] at hmark
        exact ⟨i, t, cost, oldBounds, t', newBounds, rfl, ht, hmax, hcost, hpos, hle, hold, hup,
          hnew, Except.ok.inj hmark⟩
      · rintro ⟨_, _, cost, oldBounds, t', newBounds, ⟨⟩, ht', -, hcost, hpos, hle, hold, hup, hnew,
          rfl⟩
        cases ht.symm.trans ht'
        exact ⟨cost, hcost, _, ⟨hpos, hle, rfl⟩, oldBounds, hold, t', hup, newBounds, hnew,
          hloop i t' cost oldBounds newBounds hnew⟩

omit [Field K] [LinearOrder K] [FloorRing K] [IsStrictOrderedRing K] in
/-- **A demolition round** returns exactly when the tower is listed and the tables
have an entry for its level. -/
theorem suicideNext_eq_ok {e e' : TowerEnv K} {towerId : ℤ} :
    suicideNext e towerId = .ok e' ↔
      ∃ i t amount, towerIndex towerId e.manager.towers = some i ∧
        e.manager.towers[i]? = some t ∧ 0 ≤ t.maxHp ∧
        vectorAt e.moneyManager.towerSuicideRewardAmounts (t.towerLevel - 1) = .ok amount ∧
        0 < amount ∧ e.demolished i t amount = e' := by
  unfold suicideNext
  cases hi : towerIndex towerId e.manager.towers with
  | none => simp [hi]
  | some i =>
    obtain ⟨t, ht, -⟩ := getElem?_of_towerIndex hi
    have hat : vectorAt e.manager.towers (i : ℤ) = .ok t := vectorAt_of_getElem? ht
    simp only [hi, hat, orThrow_ok, ok_bind, bind_eq_ok, orThrow_eq_ok, setHp_zero_eq_ok,
      MoneyManager.rewardSuicide_eq_ok, pure_eq_ok, Except.ok.injEq]
    constructor
    · rintro ⟨_, ⟨hhp, rfl⟩, _, ⟨amount, ha, hpos, rfl⟩, rfl⟩
      exact ⟨i, t, amount, rfl, ht, hhp, ha, hpos, rfl⟩
    · rintro ⟨_, _, amount, ⟨⟩, ht', hhp, ha, hpos, rfl⟩
      cases ht.symm.trans ht'
      exact ⟨_, ⟨hhp, rfl⟩, _, ⟨amount, ha, hpos, rfl⟩, rfl⟩

/-- **A deletion** returns when there is a tower at the index and its range can be
computed. -/
theorem deleteTower_eq_ok {c : Constants K} {e : TowerEnv K} {i : ℕ} {t : Tower K} {bounds : Bounds}
    (ht : e.manager.towers[i]? = some t) (hb : calculateBounds c e.map t = .ok bounds) :
    deleteTower c e i = .ok (e.deleted i t bounds.cells) := by
  have hat : vectorAt e.manager.towers (i : ℤ) = .ok t := vectorAt_of_getElem? ht
  have hmark := foldlM_unmarkTerritory e fun cell hcell =>
    contains_of_calculateBounds hb (Bounds.mem_cells.mp hcell)
  simp only [deleteTower, hat, hb, orThrow_ok, ok_bind, hmark, pure_eq_ok]
  rfl

theorem exists_of_deleteTower {c : Constants K} {e e' : TowerEnv K} {i : ℕ}
    (h : deleteTower c e i = .ok e') : ∃ t bounds, e.manager.towers[i]? = some t ∧
      calculateBounds c e.map t = .ok bounds ∧ e.deleted i t bounds.cells = e' := by
  obtain ⟨t, ht, hrest⟩ := bind_eq_ok.mp h
  obtain ⟨bounds, hb, -⟩ := bind_eq_ok.mp hrest
  have hget : e.manager.towers[i]? = some t := by
    simpa using (vectorAt_eq_ok.mp (orThrow_eq_ok.mp ht)).2
  have hbounds := orThrow_eq_ok.mp hb
  exact ⟨t, bounds, hget, hbounds,
    Except.ok.inj ((deleteTower_eq_ok hget hbounds).symm.trans h)⟩

/-! ## The loops -/

omit [Field K] [LinearOrder K] [FloorRing K] [IsStrictOrderedRing K] in
theorem deadIndices_append_singleton (ts : List (Tower K)) (t : Tower K) :
    deadIndices (ts ++ [t]) = deadIndices ts ++ if t.hp = 0 then [ts.length] else [] := by
  have hlt : ∀ i ∈ List.range ts.length,
      decide (((ts ++ [t])[i]?.map Tower.hp) = some 0) =
        decide ((ts[i]?.map Tower.hp) = some 0) := by
    intro i hi
    rw [List.getElem?_append_left (List.mem_range.mp hi)]
  simp only [deadIndices, List.length_append, List.length_singleton, List.range_succ,
    List.filter_append, List.filter_congr hlt, List.filter_singleton, List.getElem?_concat_length,
    Option.map_some, Option.some.injEq]
  by_cases h : t.hp = 0 <;> simp [h]

/-- The towers whose range can be computed. -/
def Charted (c : Constants K) (e : TowerEnv K) : Prop :=
  ∀ t ∈ e.manager.towers, ∃ bounds, calculateBounds c e.map t = .ok bounds

omit [Field K] [LinearOrder K] [FloorRing K] [IsStrictOrderedRing K] in
theorem towers_deleted {e : TowerEnv K} {xs ys : List (Tower K)} {t : Tower K}
    (hsplit : e.manager.towers = xs ++ t :: ys) (cells : List Cell) :
    (e.deleted xs.length t cells).manager.towers = xs ++ ys := by
  simp [deleted, setTerritory, hsplit, List.eraseIdx_append_of_length_le]

/-- **What the deaths leave**: exactly the dead towers are gone. -/
theorem manager_of_deaths {c : Constants K} (xs : List (Tower K)) {ys : List (Tower K)}
    {e e' : TowerEnv K} (htowers : e.manager.towers = xs ++ ys)
    (h : (deadIndices xs).reverse.foldlM (deleteTower c) e = .ok e') :
    e'.manager = { e.manager with
        towers := (xs.filter fun t => t.hp ≠ 0) ++ ys
        towersToDelete1 := e.manager.towersToDelete1 ++ (xs.filter fun t => t.hp = 0).reverse
        territoryRefs := e'.manager.territoryRefs } ∧
      e'.moneyManager = e.moneyManager ∧ e'.actorIdIncrement = e.actorIdIncrement := by
  -- the indices are visited from the back, so the prefix not yet visited is untouched
  induction xs using List.reverseRecOn generalizing ys e with
  | nil =>
    obtain rfl : e = e' := Except.ok.inj h
    have htowers' : ys = e.manager.towers := by simpa using htowers.symm
    exact ⟨by simp [htowers'], rfl, rfl⟩
  | append_singleton xs t ih =>
    have hsplit : e.manager.towers = xs ++ t :: ys := by simpa using htowers
    rw [deadIndices_append_singleton] at h
    by_cases hdead : t.hp = 0
    · simp only [hdead, if_true, List.reverse_append, List.reverse_singleton,
        List.singleton_append, List.foldlM_cons, bind_eq_ok] at h
      obtain ⟨e₁, hround, hloop⟩ := h
      obtain ⟨u, bounds, hu, -, rfl⟩ := exists_of_deleteTower hround
      obtain rfl : t = u := by simpa [hsplit] using hu
      obtain ⟨hmanager, hmoney, hid⟩ := ih (towers_deleted hsplit bounds.cells) hloop
      refine ⟨?_, hmoney, hid⟩
      rw [hmanager]
      simp [deleted, setTerritory, hdead]
    · obtain ⟨hmanager, hmoney, hid⟩ := ih hsplit (by simpa [hdead] using h)
      refine ⟨?_, hmoney, hid⟩
      rw [hmanager]
      simp [hdead]

/-- **The rule for the deaths.**  An invariant that each deletion of a dead tower
keeps is kept by all of them, and exactly the dead towers are gone. -/
theorem foldlM_deleteTower {c : Constants K} {I : TowerEnv K → Prop}
    (hchart : ∀ e, I e → e.Charted c)
    (hdel : ∀ e xs t ys bounds, I e → e.manager.towers = xs ++ t :: ys → t.hp = 0 →
      calculateBounds c e.map t = .ok bounds → I (e.deleted xs.length t bounds.cells))
    (xs : List (Tower K)) {ys : List (Tower K)} {e : TowerEnv K} (he : I e)
    (htowers : e.manager.towers = xs ++ ys) :
    ∃ e', (deadIndices xs).reverse.foldlM (deleteTower c) e = .ok e' ∧ I e' ∧
      e'.manager = { e.manager with
        towers := (xs.filter fun t => t.hp ≠ 0) ++ ys
        towersToDelete1 := e.manager.towersToDelete1 ++ (xs.filter fun t => t.hp = 0).reverse
        territoryRefs := e'.manager.territoryRefs } ∧
      e'.moneyManager = e.moneyManager ∧ e'.actorIdIncrement = e.actorIdIncrement := by
  obtain ⟨e', hloop, hI⟩ :
      ∃ e', (deadIndices xs).reverse.foldlM (deleteTower c) e = .ok e' ∧ I e' := by
    induction xs using List.reverseRecOn generalizing ys e with
    | nil => exact ⟨e, rfl, he⟩
    | append_singleton xs t ih =>
      have hsplit : e.manager.towers = xs ++ t :: ys := by simpa using htowers
      rw [deadIndices_append_singleton]
      by_cases hdead : t.hp = 0
      · obtain ⟨bounds, hb⟩ := hchart e he t (by simp [hsplit])
        have hround := deleteTower_eq_ok (c := c) (e := e) (i := xs.length) (by simp [hsplit]) hb
        obtain ⟨e', hloop, hI⟩ :=
          ih (hdel e xs t ys bounds he hsplit hdead hb) (towers_deleted hsplit bounds.cells)
        refine ⟨e', ?_, hI⟩
        simp only [hdead, if_true, List.reverse_append, List.reverse_singleton,
          List.singleton_append, List.foldlM_cons, hround, ok_bind]
        exact hloop
      · obtain ⟨e', hloop, hI⟩ := ih he hsplit
        exact ⟨e', by simpa [hdead] using hloop, hI⟩
  exact ⟨e', hloop, hI, manager_of_deaths xs htowers hloop⟩

theorem handleTowerDeathUpdates_total {c : Constants K} {I : TowerEnv K → Prop}
    (hchart : ∀ e, I e → e.Charted c)
    (hdel : ∀ e xs t ys bounds, I e → e.manager.towers = xs ++ t :: ys → t.hp = 0 →
      calculateBounds c e.map t = .ok bounds → I (e.deleted xs.length t bounds.cells))
    {e : TowerEnv K} (he : I e.aged) :
    ∃ e', handleTowerDeathUpdates c e = .ok e' ∧ I e' ∧
      e'.manager = { e.manager with
        towers := e.manager.towers.filter fun t => t.hp ≠ 0
        towersToDelete0 := e.manager.towersToDelete1
        towersToDelete1 := (e.manager.towers.filter fun t => t.hp = 0).reverse
        territoryRefs := e'.manager.territoryRefs } ∧
      e'.moneyManager = e.moneyManager ∧ e'.actorIdIncrement = e.actorIdIncrement := by
  obtain ⟨e', hloop, hI, hm, hmoney, hid⟩ :=
    foldlM_deleteTower hchart hdel e.manager.towers he (List.append_nil _).symm
  exact ⟨e', hloop, hI, by simpa [aged] using hm, hmoney, hid⟩

/-- **The rule for a whole update** that returns. -/
theorem update_invariant {c : Constants K} {I : TowerEnv K → Prop}
    (hchart : ∀ e, I e → e.Charted c)
    (hbuild : ∀ e offset e', I e → buildNext c e offset = .ok e' → I e')
    (hupgrade : ∀ e towerId e', I e → upgradeNext c e towerId = .ok e' → I e')
    (hsuicide : ∀ e towerId e', I e → suicideNext e towerId = .ok e' → I e')
    (haged : ∀ e, I e → I e.aged)
    (hdel : ∀ e xs t ys bounds, I e → e.manager.towers = xs ++ t :: ys → t.hp = 0 →
      calculateBounds c e.map t = .ok bounds → I (e.deleted xs.length t bounds.cells))
    {e e' : TowerEnv K} (he : I e) (h : update c e = .ok e') : I e' := by
  simp only [update, bind_eq_ok] at h
  obtain ⟨e₁, h₁, e₂, h₂, e₃, h₃, h₄⟩ := h
  have hI₁ : I e₁ := foldlM_invariant (fun s s' a hs _ => hbuild s a s' hs) he h₁
  have hI₂ : I e₂ := foldlM_invariant (fun s s' a hs _ => hupgrade s a s' hs) hI₁ h₂
  have hI₃ : I e₃ := foldlM_invariant (fun s s' a hs _ => hsuicide s a s' hs) hI₂ h₃
  obtain ⟨e₄, h₄', hI₄, -⟩ := handleTowerDeathUpdates_total hchart hdel (haged e₃ hI₃)
  cases h₄.symm.trans h₄'
  exact hI₄

end TowerEnv

end Simulator
