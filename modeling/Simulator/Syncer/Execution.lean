import Simulator.Syncer.Verdicts

/-!
# Executing commands is carrying out verdicts

From a sound state every command handler of `StateSyncer` returns, and what it
returns is the verdict on its command, carried out (`towerCommand_eq`,
`soldierCommand_eq`, `buildCommand_eq`).  The two loops over a player's commands
are therefore two lists of verdicts, `towerVerdicts` and `otherVerdicts`.

## What the handlers read

A handler looks at the state in the middle of the commands, when others have been carried out
already.  But no action changes more than orders and requests (`SameButOrders`), and the checks
look at neither: they ask for levels, balances, hp and ownership, and whether there is an actor with
a certain id.  So a verdict can be made from the state before the commands, and this is what makes
it independent of the commands that come before it, up to what the ledger says.

## What the handlers call

An accepted command is passed on to a method of `State`, which looks the soldier and the target up
again, by their ids.  That the lookups find what the command is about is due to the layout of the
ids: those of soldiers come first, team by team, and those of towers after them.  Then the call is
an order to one soldier, or an entry in a queue, and this is what `carryOut` does.
-/

namespace Simulator

open Foundation

variable {K : Type}

/-! ## What the commands leave alone -/

/-- The soldier without its orders. -/
def Soldier.withoutOrders (s : Soldier K) : Soldier K :=
  { s with attackTarget := none, destination := ⟨.nan, .nan⟩, isDestinationSet := false }

namespace State

/-- The second state is the first with other orders and requests. -/
structure SameButOrders (st st' : State K) : Prop where
  map : st'.map = st.map
  moneyManager : st'.moneyManager = st.moneyManager
  actorIdIncrement : st'.actorIdIncrement = st.actorIdIncrement
  manager : ∀ p, st'.towerManagers p = { st.towerManagers p with
    towersToBuildOffsets := (st'.towerManagers p).towersToBuildOffsets
    towersToUpgrade := (st'.towerManagers p).towersToUpgrade
    towersToSuicide := (st'.towerManagers p).towersToSuicide }
  soldiers : ∀ p, (st'.soldiers p).map Soldier.withoutOrders =
    (st.soldiers p).map Soldier.withoutOrders

theorem SameButOrders.refl (st : State K) : st.SameButOrders st :=
  ⟨rfl, rfl, rfl, fun _ => rfl, fun _ => rfl⟩

theorem SameButOrders.trans {st₁ st₂ st₃ : State K} (h : st₁.SameButOrders st₂)
    (h' : st₂.SameButOrders st₃) : st₁.SameButOrders st₃ where
  map := h'.map.trans h.map
  moneyManager := h'.moneyManager.trans h.moneyManager
  actorIdIncrement := h'.actorIdIncrement.trans h.actorIdIncrement
  manager := fun p => by
    rw [h'.manager p, h.manager p]
  soldiers := fun p => (h'.soldiers p).trans (h.soldiers p)

theorem SameButOrders.towers {st st' : State K} (h : st.SameButOrders st') (p : PlayerId) :
    st'.towers p = st.towers p := by
  rw [State.towers, h.manager p]
  rfl

theorem SameButOrders.length {st st' : State K} (h : st.SameButOrders st') (p : PlayerId) :
    (st'.soldiers p).length = (st.soldiers p).length := by
  simpa using congrArg List.length (h.soldiers p)

/-- The soldier of the first state with its new orders. -/
theorem SameButOrders.getElem? {st st' : State K} (h : st.SameButOrders st') {p : PlayerId} {i : ℕ}
    {s : Soldier K} (hs : (st.soldiers p)[i]? = some s) :
    ∃ s', (st'.soldiers p)[i]? = some s' ∧ s'.withoutOrders = s.withoutOrders := by
  have hi := congrArg (fun l => l[i]?) (h.soldiers p)
  simp only [List.getElem?_map, hs, Option.map_some, Option.map_eq_some_iff] at hi
  exact hi

/-- The soldier of the second state with its old orders. -/
theorem SameButOrders.exists_getElem? {st st' : State K} (h : st.SameButOrders st') {p : PlayerId}
    {i : ℕ} {s' : Soldier K} (hs' : (st'.soldiers p)[i]? = some s') :
    ∃ s, (st.soldiers p)[i]? = some s ∧ s'.withoutOrders = s.withoutOrders := by
  have hi := congrArg (fun l => l[i]?) (h.soldiers p)
  simp only [List.getElem?_map, hs', Option.map_some] at hi
  obtain ⟨s, hs, hsame⟩ := Option.map_eq_some_iff.mp hi.symm
  exact ⟨s, hs, hsame.symm⟩

/-- A question about soldiers that does not concern their orders has the same
answer. -/
theorem SameButOrders.any {st st' : State K} (h : st.SameButOrders st') (p : PlayerId)
    {f : Soldier K → Bool} (hf : ∀ s, f s.withoutOrders = f s) :
    (st'.soldiers p).any f = (st.soldiers p).any f := by
  have hcomp : f ∘ Soldier.withoutOrders = f := funext hf
  have hany := congrArg (fun l => l.any f) (h.soldiers p)
  simpa only [List.any_map, hcomp] using hany

theorem sameButOrders_modifySoldier (st : State K) (p : PlayerId) (i : ℕ)
    {g : Soldier K → Soldier K}
    (hg : ∀ s, (g s).withoutOrders = s.withoutOrders) :
    st.SameButOrders (st.modifySoldier p i g) := by
  refine ⟨rfl, rfl, rfl, fun _ => rfl, ?_⟩
  intro q
  by_cases hq : q = p
  · subst hq
    simp only [modifySoldier, Function.update_self]
    refine List.ext_getElem? ?_
    intro k
    simp only [List.getElem?_map, List.getElem?_modify]
    cases (st.soldiers q)[k]? with
    | none => rfl
    | some s =>
      by_cases hk : i = k <;> simp [hk, hg]
  · simp [modifySoldier, hq]

theorem sameButOrders_setTowerManager (st : State K) (p : PlayerId) {m : TowerManager K}
    (hm : m = { st.towerManagers p with
      towersToBuildOffsets := m.towersToBuildOffsets
      towersToUpgrade := m.towersToUpgrade
      towersToSuicide := m.towersToSuicide }) : st.SameButOrders (st.setTowerManager p m) := by
  refine ⟨rfl, rfl, rfl, ?_, fun _ => rfl⟩
  intro q
  by_cases hq : q = p
  · subst hq
    simpa [setTowerManager] using hm
  · simp [setTowerManager, hq]

/-- **No action changes more than orders and requests.** -/
theorem sameButOrders_carryOut (st : State K) (p : PlayerId) (action : Option (Action K)) :
    st.SameButOrders (st.carryOut p action) := by
  rcases action with - | action
  · exact .refl st
  · cases action with
    | upgrade towerId cost => exact sameButOrders_setTowerManager st p rfl
    | suicide towerId => exact sameButOrders_setTowerManager st p rfl
    | move i position => exact sameButOrders_modifySoldier st p i fun _ => rfl
    | attack i target => exact sameButOrders_modifySoldier st p i fun _ => rfl
    | build offset cost => exact sameButOrders_setTowerManager st p rfl

end State

/-! ## The handlers -/

namespace StateSyncer

theorem vectorAt_towers {st : State K} {ph : CommandPhase K} (hf : st.SameButOrders ph.state)
    {p : PlayerId} {i : ℕ} {t : Tower K} (ht : (st.towers p)[i]? = some t) :
    vectorAt (ph.state.towers p) (i : ℤ) = .ok t := by
  rw [hf.towers, vectorAt_eq_ok]
  exact ⟨Int.natCast_nonneg _, by simpa using ht⟩

section Towers

variable [Field K] [LinearOrder K] [FloorRing K]

theorem upgradeTower_eq {c : Constants K} {st : State K} (h : st.Sound c) {ph : CommandPhase K}
    (hf : st.SameButOrders ph.state) {p : PlayerId} {i : ℕ} {t : Tower K}
    (ht : (st.towers p)[i]? = some t) (towerId : ℤ) :
    upgradeTower c p towerId i ph =
      .ok (ph.carryOut p (upgradeVerdict c (ph.ledger p) towerId t)) := by
  have hsound := (h.manager p).tower t
    (TowerManager.mem_allocatedTowers_of_mem (List.mem_of_getElem? ht))
  simp only [upgradeTower, vectorAt_towers hf ht, ok_bind, upgradeVerdict]
  by_cases hid : towerId = t.id
  · by_cases hmax : t.towerLevel = c.towerBuildCosts.length
    · simp [hid, hmax, CommandPhase.carryOut_refuse]
    · have hcost : vectorAt c.towerBuildCosts t.towerLevel =
          .ok (c.towerBuildCosts[t.towerLevel.toNat]?.getD 0) := by
        have := hsound.level_pos
        have := hsound.level_le
        rw [vectorAt_eq_ok, List.getElem?_eq_getElem (by omega)]
        exact ⟨by omega, rfl⟩
      by_cases hmoney : ph.stateMoney p < c.towerBuildCosts[t.towerLevel.toNat]?.getD 0
      · simp [hid, hmax, hcost, CommandPhase.ledger, hmoney, CommandPhase.carryOut_refuse]
      · simp [hid, hmax, hcost, CommandPhase.ledger, hmoney, CommandPhase.carryOut, Verdict.accept,
          State.carryOut, Ledger.after]
  · simp [hid, CommandPhase.carryOut_refuse]

omit [Field K] [LinearOrder K] [FloorRing K] in
theorem suicideTower_eq {st : State K} {ph : CommandPhase K} (hf : st.SameButOrders ph.state)
    {p : PlayerId} {i : ℕ} {t : Tower K} (ht : (st.towers p)[i]? = some t) (towerId : ℤ) :
    suicideTower p towerId i ph = .ok (ph.carryOut p (suicideVerdict towerId t)) := by
  simp only [suicideTower, vectorAt_towers hf ht, ok_bind, suicideVerdict]
  by_cases hid : towerId = t.id
  · by_cases hbase : t.isBase = true
    · simp [hid, hbase, CommandPhase.carryOut_refuse]
    · simp [hid, hbase, CommandPhase.carryOut, Verdict.accept, State.carryOut, Ledger.after,
        CommandPhase.ledger]
  · simp [hid, CommandPhase.carryOut_refuse]

/-- **A tower command** is its verdict, carried out. -/
theorem towerCommand_eq {c : Constants K} {st : State K} (h : st.Sound c) {ph : CommandPhase K}
    (hf : st.SameButOrders ph.state) {p : PlayerId} {i : ℕ} {t : Tower K}
    (ht : (st.towers p)[i]? = some t) (tower : PlayerState.Tower K) :
    towerCommand c p tower i ph =
      .ok (ph.carryOut p (towerVerdict c (ph.ledger p) tower t)) := by
  unfold towerCommand towerVerdict
  by_cases hboth : tower.upgradeTower = true ∧ tower.suicide = true
  · rw [if_pos hboth, if_pos hboth, CommandPhase.carryOut_refuse]
  · rw [if_neg hboth, if_neg hboth]
    by_cases hup : tower.upgradeTower = true
    · rw [if_pos hup, if_pos hup, upgradeTower_eq h hf ht]
    · rw [if_neg hup, if_neg hup]
      by_cases hsu : tower.suicide = true
      · rw [if_pos hsu, if_pos hsu, suicideTower_eq hf ht]
      · rw [if_neg hsu, if_neg hsu, CommandPhase.carryOut_nothing]

end Towers

section Soldiers

variable [Field K] [LinearOrder K] [FloorRing K]

omit [Field K] [LinearOrder K] [FloorRing K] in
/-- The checks every command to a soldier starts with. -/
theorem checkSoldier_eq (p : PlayerId) (soldierId : ℤ) {s s' : Soldier K}
    (hs : s'.withoutOrders = s.withoutOrders) (ph : CommandPhase K) :
    checkSoldier p soldierId s' ph =
      (soldierError soldierId s).map fun e => ph.carryOut p (.refuse e.1 e.2) := by
  have hid : s'.id = s.id := (congrArg Soldier.id hs :)
  have hhp : s'.hp = s.hp := (congrArg Soldier.hp hs :)
  simp only [checkSoldier, soldierError, hid, hhp, CommandPhase.carryOut_refuse]
  by_cases h₁ : soldierId = s.id
  · by_cases h₂ : s.hp = 0 <;> simp [h₁, h₂]
  · simp [h₁]

omit [Field K] [LinearOrder K] [FloorRing K] in
theorem getSoldierById_eq {n : ℕ} {st : State K} (hn : ∀ q, (st.soldiers q).length = n)
    {p : PlayerId} {i : ℕ} (hi : i < n) : st.getSoldierById (n * p.index + i) p = .ok i := by
  have hindex : p.index = 0 ∨ p.index = 1 := by cases p <;> simp [PlayerId.index]
  have hlow : ¬ (n * p.index + i : ℤ) < 0 := by rcases hindex with h | h <;> rw [h] <;> omega
  have hhigh : ¬ (n * p.index + i : ℤ) > 2 * n - 1 := by
    rcases hindex with h | h <;> rw [h] <;> omega
  obtain ⟨s, -, hat⟩ := vectorAt_of_lt (l := st.soldiers p) (i := (i : ℤ)) (by omega)
    (by rw [hn]; omega)
  simp [State.getSoldierById, hn, hlow, hhigh, hat]

omit [Field K] [LinearOrder K] [FloorRing K] in
/-- Writing a soldier back after changing it is changing it in place. -/
theorem setSoldier_eq_modifySoldier {st : State K} {p : PlayerId} {i : ℕ} {s : Soldier K}
    (hs : (st.soldiers p)[i]? = some s) (g : Soldier K → Soldier K) :
    st.setSoldier p i (g s) = st.modifySoldier p i g := by
  have hlist : (st.soldiers p).set i (g s) = (st.soldiers p).modify i g := by
    obtain ⟨hi, rfl⟩ := List.getElem?_eq_some_iff.mp hs
    refine List.ext_getElem (by simp) ?_
    intro k _ _
    by_cases hk : i = k
    · subst hk
      simp
    · simp [hk]
  rw [State.setSoldier, State.modifySoldier, hlist]

omit [Field K] [LinearOrder K] [FloorRing K] in
theorem vectorAt_soldiers {st : State K} {ph : CommandPhase K} (hf : st.SameButOrders ph.state)
    {p : PlayerId} {i : ℕ} {s : Soldier K} (hs : (st.soldiers p)[i]? = some s) :
    ∃ s', (ph.state.soldiers p)[i]? = some s' ∧ s'.withoutOrders = s.withoutOrders ∧
      vectorAt (ph.state.soldiers p) (i : ℤ) = .ok s' := by
  obtain ⟨s', hs', hsame⟩ := hf.getElem? hs
  exact ⟨s', hs', hsame, vectorAt_of_getElem? hs'⟩

theorem getSoldierById_of_getElem? {c : Constants K} {st st' : State K} (h : st.Sound c)
    (hf : st.SameButOrders st') {p : PlayerId} {i : ℕ} {s : Soldier K}
    (hs : (st.soldiers p)[i]? = some s) : st'.getSoldierById s.id p = .ok i := by
  rw [(h.soldier p i s hs).id_eq]
  exact getSoldierById_eq (fun q => (hf.length q).trans (h.length_soldiers q)) (h.slot_lt hs)

theorem getTowerById_of_mem {c : Constants K} {st st' : State K} (h : st.Sound c)
    (hf : st.SameButOrders st') {p : PlayerId} {t : Tower K} (ht : t ∈ st.towers p) :
    (st'.towerManagers p).getTowerById t.id = .ok t := by
  obtain ⟨k, hk, htk⟩ := (h.manager p).towerIndex_eq_some ht
  have htowers : (st'.towerManagers p).towers = (st.towerManagers p).towers := hf.towers p
  simp only [TowerManager.getTowerById, htowers, hk]
  exact vectorAt_of_getElem? htk

/-- An attack on a tower reaches the tower: its id is not that of a soldier. -/
theorem attackActor_tower {c : Constants K} {st st' : State K} (h : st.Sound c)
    (hf : st.SameButOrders st') {p : PlayerId} {i : ℕ} {s' : Soldier K}
    (hs' : (st'.soldiers p)[i]? = some s') {soldierId : ℤ}
    (hget : st'.getSoldierById soldierId p = .ok i) {t : Tower K} (ht : t ∈ st.towers p.opponent) :
    st'.attackActor p soldierId t.id =
      .ok (st'.setSoldier p i (s'.attack (.tower p.opponent t.id))) := by
  have hge : ¬ (0 ≤ t.id ∧ t.id < 2 * ((st'.soldiers .player1).length : ℤ)) := by
    rw [hf.length, h.length_soldiers]
    exact not_and.mpr fun _ => not_lt.mpr ((h.manager p.opponent).id_ge t
      (TowerManager.mem_allocatedTowers_of_mem ht))
  have hat : vectorAt (st'.soldiers p) (i : ℤ) = .ok s' := vectorAt_of_getElem? hs'
  simp only [State.attackActor, hget, hat, ok_bind, if_neg hge, getTowerById_of_mem h hf ht,
    pure_eq_ok]

/-- An attack on a soldier reaches the soldier: its id is not that of a tower. -/
theorem attackActor_soldier {c : Constants K} {st st' : State K} (h : st.Sound c)
    (hf : st.SameButOrders st') {p : PlayerId} {i : ℕ} {s' : Soldier K}
    (hs' : (st'.soldiers p)[i]? = some s') {soldierId : ℤ}
    (hget : st'.getSoldierById soldierId p = .ok i) {j : ℕ} {u : Soldier K}
    (hu : (st.soldiers p.opponent)[j]? = some u) :
    st'.attackActor p soldierId u.id =
      .ok (st'.setSoldier p i (s'.attack (.soldier p.opponent j))) := by
  have hlt : 0 ≤ u.id ∧ u.id < 2 * ((st'.soldiers .player1).length : ℤ) := by
    have hj := (List.getElem?_eq_some_iff.mp hu).1
    have hindex : p.opponent.index = 0 ∨ p.opponent.index = 1 := by
      cases p <;> simp [PlayerId.index, PlayerId.opponent]
    rw [h.length_soldiers] at hj
    rw [hf.length, h.length_soldiers, (h.soldier p.opponent j u hu).id_eq]
    rcases hindex with h0 | h0 <;> rw [h0] <;> omega
  have hat : vectorAt (st'.soldiers p) (i : ℤ) = .ok s' := vectorAt_of_getElem? hs'
  simp only [State.attackActor, hget, hat, ok_bind, if_pos hlt, getSoldierById_of_getElem? h hf hu,
    pure_eq_ok]

/-- A command that passes the checks reaches the soldier it is for. -/
theorem getSoldierById_of_checked {c : Constants K} {st : State K} (h : st.Sound c)
    {ph : CommandPhase K} (hf : st.SameButOrders ph.state) {p : PlayerId} {i : ℕ} {s : Soldier K}
    (hs : (st.soldiers p)[i]? = some s) {soldierId : ℤ}
    (hid : soldierError soldierId s = none) : ph.state.getSoldierById soldierId p = .ok i := by
  have hsid : soldierId = s.id := by
    by_contra hne
    simp [soldierError, hne] at hid
  rw [hsid]
  exact getSoldierById_of_getElem? h hf hs

omit [Field K] [LinearOrder K] [FloorRing K] in
/-- A command to a soldier that passes the checks, or is refused by them. -/
theorem checked_eq {ph : CommandPhase K} (p : PlayerId) (soldierId : ℤ) {s s' : Soldier K}
    (hs : s'.withoutOrders = s.withoutOrders) (v : Verdict K)
    {rest : Except Fault (CommandPhase K)}
    (hrest : soldierError soldierId s = none → rest = .ok (ph.carryOut p v)) :
    (match checkSoldier p soldierId s' ph with
      | some ph => return ph
      | none => rest) = .ok (ph.carryOut p (checked soldierId s v)) := by
  rw [checkSoldier_eq p soldierId hs, checked]
  cases he : soldierError soldierId s with
  | none => simpa using hrest he
  | some e => rfl

/-- **A move command** is its verdict, carried out. -/
theorem moveSoldier_eq {c : Constants K} {st : State K} (h : st.Sound c) {ph : CommandPhase K}
    (hf : st.SameButOrders ph.state) {p : PlayerId} {i : ℕ} {s : Soldier K}
    (hs : (st.soldiers p)[i]? = some s) (soldierId : ℤ) (position : Vector K) :
    moveSoldier p soldierId position i ph =
      .ok (ph.carryOut p (checked soldierId s (moveVerdict st.map p position i))) := by
  obtain ⟨s', hs', hsame, hat⟩ := vectorAt_soldiers hf hs
  simp only [moveSoldier, hat, ok_bind]
  refine checked_eq p soldierId hsame _ ?_
  intro hid
  simp only [moveVerdict, hf.map]
  generalize (if p = .player2 then flipPosition st.map position else position) = target
  split
  · rw [CommandPhase.carryOut_refuse, pure_eq_ok]
  · simp only [State.moveSoldier, getSoldierById_of_checked h hf hs hid, hat, ok_bind, pure_eq_ok,
      setSoldier_eq_modifySoldier hs' (Soldier.move · target)]
    simp [CommandPhase.carryOut, Verdict.accept, State.carryOut, Ledger.after, CommandPhase.ledger]

omit [Field K] [LinearOrder K] [FloorRing K] in
theorem any_filter {α : Type} (l : List α) (q f : α → Bool) :
    (l.filter q).any f = l.any fun a => q a && f a := by
  induction l with
  | nil => rfl
  | cons a l ih => cases hq : q a <;> simp [List.filter, hq, ih]

omit [Field K] [LinearOrder K] [FloorRing K] in
theorem isEmpty_filter {α : Type} (l : List α) (q : α → Bool) :
    (l.filter q).isEmpty = !l.any q := by
  induction l with
  | nil => rfl
  | cons a l ih => cases hq : q a <;> simp [List.filter, hq, ih]

/-- **An attack on a tower** is its verdict, carried out. -/
theorem attackTower_eq {c : Constants K} {st : State K} (h : st.Sound c) {ph : CommandPhase K}
    (hf : st.SameButOrders ph.state) {p : PlayerId} {i : ℕ} {s : Soldier K}
    (hs : (st.soldiers p)[i]? = some s) (soldierId towerId : ℤ) :
    attackTower p soldierId towerId i ph =
      .ok (ph.carryOut p
        (checked soldierId s (attackTowerVerdict st p (ph.ledger p) towerId i))) := by
  obtain ⟨s', hs', hsame, hat⟩ := vectorAt_soldiers hf hs
  simp only [attackTower, hat, ok_bind]
  refine checked_eq p soldierId hsame _ ?_
  intro hid
  simp only [attackTowerVerdict, hf.towers, any_filter, isEmpty_filter]
  have hrazed : (ph.ledger p).razedTowers = ph.razedTowers := rfl
  rw [hrazed]
  split
  · rw [CommandPhase.carryOut_refuse, pure_eq_ok]
  · split
    · rw [CommandPhase.carryOut_refuse, pure_eq_ok]
    · rename_i hlisted
      split
      · rw [CommandPhase.carryOut_refuse, pure_eq_ok]
      · obtain ⟨t, ht, htid⟩ : ∃ t ∈ st.towers p.opponent, t.id = towerId := by
          simpa using hlisted
        subst htid
        simp only [attackActor_tower h hf hs' (getSoldierById_of_checked h hf hs hid) ht, ok_bind,
          pure_eq_ok, setSoldier_eq_modifySoldier hs' (Soldier.attack · (.tower p.opponent t.id))]
        simp [CommandPhase.carryOut, Verdict.accept, State.carryOut, Ledger.after,
          CommandPhase.ledger]

/-- **An attack on a soldier** is its verdict, carried out. -/
theorem attackSoldier_eq {c : Constants K} {st : State K} (h : st.Sound c) {ph : CommandPhase K}
    (hf : st.SameButOrders ph.state) {p : PlayerId} {i : ℕ} {s : Soldier K}
    (hs : (st.soldiers p)[i]? = some s) (soldierId enemySoldierId : ℤ) :
    attackSoldier p soldierId enemySoldierId i ph =
      .ok (ph.carryOut p
        (checked soldierId s (attackSoldierVerdict st p s enemySoldierId i))) := by
  obtain ⟨s', hs', hsame, hat⟩ := vectorAt_soldiers hf hs
  have hsid : s'.id = s.id := (congrArg Soldier.id hsame :)
  simp only [attackSoldier, hat, ok_bind]
  refine checked_eq p soldierId hsame _ ?_
  intro hid
  simp only [attackSoldierVerdict, any_filter, isEmpty_filter, hsid]
  rw [hf.any p.opponent (f := fun t => t.id = enemySoldierId) fun _ => rfl,
    hf.any p.opponent (f := fun t => t.id = enemySoldierId && t.hp ≠ 0) fun _ => rfl,
    hf.any p.opponent (f := fun t => t.id = enemySoldierId && t.isInvulnerable) fun _ => rfl]
  split
  · rw [CommandPhase.carryOut_refuse, pure_eq_ok]
  · rename_i hnamed
    split
    · rw [CommandPhase.carryOut_refuse, pure_eq_ok]
    · obtain ⟨u, hu, huid⟩ : ∃ u ∈ st.soldiers p.opponent, u.id = enemySoldierId := by
        simpa using hnamed
      obtain ⟨k, hk⟩ := List.mem_iff_getElem?.mp hu
      have hsub : (enemySoldierId - ((st.soldiers p.opponent).length : ℤ) *
          p.opponent.index).toNat = k := by
        rw [← huid, (h.soldier p.opponent k u hk).id_eq, h.length_soldiers]
        omega
      have hattack := attackActor_soldier h hf hs' (getSoldierById_of_checked h hf hs hid) hk
      rw [huid, setSoldier_eq_modifySoldier hs' (Soldier.attack · (.soldier p.opponent k))]
        at hattack
      simp only [hsub]
      by_cases himmune : ((st.soldiers p.opponent).any
          fun t => t.id = enemySoldierId && t.isInvulnerable) = true
      · simp only [if_pos himmune, CommandPhase.logErrors, hattack, ok_bind, pure_eq_ok]
        simp [CommandPhase.carryOut, State.carryOut, Ledger.after, CommandPhase.ledger]
      · simp only [if_neg himmune, hattack, ok_bind, pure_eq_ok]
        simp [CommandPhase.carryOut, State.carryOut, Ledger.after, CommandPhase.ledger]

/-- **A soldier command** is its verdict, carried out. -/
theorem soldierCommand_eq {c : Constants K} {st : State K} (h : st.Sound c) {ph : CommandPhase K}
    (hf : st.SameButOrders ph.state) {p : PlayerId} {i : ℕ} {s : Soldier K}
    (hs : (st.soldiers p)[i]? = some s) (soldier : PlayerState.Soldier K) :
    soldierCommand p soldier i ph =
      .ok (ph.carryOut p (soldierVerdict st p (ph.ledger p) soldier i s)) := by
  unfold soldierCommand soldierVerdict
  dsimp only
  split
  · rw [CommandPhase.carryOut_refuse]
  · split
    · exact attackTower_eq h hf hs soldier.id soldier.towerTarget
    · split
      · exact attackSoldier_eq h hf hs soldier.id soldier.soldierTarget
      · split
        · exact moveSoldier_eq h hf hs soldier.id soldier.destination
        · rw [CommandPhase.carryOut_nothing]

end Soldiers

/-! ## Build commands -/

section Builds

variable [Field K] [LinearOrder K] [FloorRing K]

omit [Field K] [LinearOrder K] [FloorRing K] in
theorem contains_flipOffset {m : GameMap} {cell : Cell} (p : PlayerId) (h : m.Contains cell) :
    m.Contains (flipOffset m p cell) := by
  unfold flipOffset
  split
  · simp only [GameMap.Contains] at h ⊢
    omega
  · exact h

variable [IsStrictOrderedRing K]

/-- **A build command** on a cell of the map is its verdict, carried out. -/
theorem buildCommand_eq {r : Ruleset K} {st : State K} {ph : CommandPhase K}
    (hf : st.SameButOrders ph.state) {p : PlayerId} {offset : Cell} (ho : st.map.Contains offset)
    (element : PlayerState.MapElement) :
    buildCommand r.toConstants p element offset ph =
      .ok (ph.carryOut p (buildVerdict r.toConstants st p (ph.ledger p) element offset)) := by
  unfold buildCommand buildVerdict
  split
  · unfold buildTower
    have hnum : (ph.ledger p).numTowers = ph.currentNumTowers := rfl
    rw [hnum]
    split
    · rw [CommandPhase.carryOut_refuse, pure_eq_ok]
    · have hcell : st.map.Contains
          ((flipOffset st.map p offset).1, (flipOffset st.map p offset).2) :=
        contains_flipOffset p ho
      have hterritory : (!st.map.owns p (flipOffset st.map p offset) ∨
          (PlayerId.all.any fun q =>
            st.map.owns q (flipOffset st.map p offset) ∧ q ≠ p) ∨
          isOccupied st.map (st.towers p) (flipOffset st.map p offset)) ↔
          ¬ IsValidTerritory st p (flipOffset st.map p offset) := by
        unfold IsValidTerritory
        generalize flipOffset st.map p offset = cell
        cases h₁ : st.map.owns .player1 cell <;> cases h₂ : st.map.owns .player2 cell <;>
          cases p <;> simp [PlayerId.all, PlayerId.opponent, h₁, h₂]
      have hcost : vectorAt r.towerBuildCosts 0 = .ok (r.towerBuildCosts[0]?.getD 0) :=
        TowerEnv.exists_vectorAt_zero rfl
      simp only [hf.map, hf.towers, GameMap.getElementByOffset_ofInt, if_pos hcell, ok_bind]
      rw [if_congr hterritory rfl rfl]
      split
      · rw [CommandPhase.carryOut_refuse, pure_eq_ok]
      · simp only [hcost, ok_bind]
        have hmoney : (ph.ledger p).money = ph.stateMoney p := rfl
        rw [hmoney]
        split
        · rw [CommandPhase.carryOut_refuse, pure_eq_ok]
        · simp [CommandPhase.carryOut, Verdict.accept, State.carryOut, Ledger.after,
            CommandPhase.ledger]
  · rw [CommandPhase.carryOut_nothing]

end Builds

/-! ## The loops -/

/-- The verdicts on a list of commands, each with the ledger its predecessors
leave. -/
def judge {α : Type} (f : Ledger → α → Verdict K) (l : Ledger) : List α → List (Verdict K)
  | [] => []
  | a :: as => f l a :: judge f (l.after (f l a)) as

/-- A loop over commands that are their verdicts. -/
theorem foldlM_judge {α : Type} {st : State K} {p : PlayerId}
    {g : CommandPhase K → α → Except Fault (CommandPhase K)} {f : Ledger → α → Verdict K}
    {l : List α}
    (h : ∀ ph : CommandPhase K, st.SameButOrders ph.state →
      ∀ a ∈ l, g ph a = .ok (ph.carryOut p (f (ph.ledger p) a)))
    {ph : CommandPhase K} (hph : st.SameButOrders ph.state) :
    l.foldlM g ph = .ok ((judge f (ph.ledger p) l).foldl (CommandPhase.carryOut p) ph) := by
  induction l generalizing ph with
  | nil => rfl
  | cons a l ih =>
    rw [List.foldlM_cons, h ph hph a (List.mem_cons_self ..), ok_bind,
      ih (fun ph hph b hb => h ph hph b (List.mem_cons_of_mem _ hb))
        (hph.trans (State.sameButOrders_carryOut ..)), CommandPhase.ledger_carryOut]
    rfl

theorem sameButOrders_foldl (vs : List (Verdict K)) (p : PlayerId) (ph : CommandPhase K) :
    ph.state.SameButOrders (vs.foldl (CommandPhase.carryOut p) ph).state :=
  foldl_invariant (I := fun ph' : CommandPhase K => ph.state.SameButOrders ph'.state)
    (fun _ h _ _ => h.trans (State.sameButOrders_carryOut ..)) (.refl _)

section Loops

variable [Field K] [LinearOrder K] [FloorRing K]

/-- The verdict on the command in a tower slot of a player. -/
def towerSlotVerdict {c : Constants K} (st : State K) (p : PlayerId) (ps : PlayerState c)
    (l : Ledger) (i : ℕ) : Verdict K :=
  match (st.towers p)[i]?, arrayAt ps.towers i with
  | some t, .ok tower => towerVerdict c l tower t
  | _, _ => .nothing

/-- The verdict on the command in a soldier slot of a player. -/
def soldierSlotVerdict {c : Constants K} (st : State K) (p : PlayerId) (ps : PlayerState c)
    (l : Ledger) (i : ℕ) : Verdict K :=
  match (st.soldiers p)[i]?, arrayAt ps.soldiers i with
  | some s, .ok soldier => soldierVerdict st p l soldier i s
  | _, _ => .nothing

/-- The verdict on the command in a map element of a player. -/
def elementVerdict {c : Constants K} (st : State K) (p : PlayerId) (ps : PlayerState c)
    (l : Ledger) (offset : Fin c.mapSize × Fin c.mapSize) : Verdict K :=
  buildVerdict c st p l (ps.map offset.1 offset.2) (offset.1, offset.2)

/-- The verdicts of the first loop on the commands of a player. -/
def towerVerdicts {c : Constants K} (st : State K) (p : PlayerId) (ps : PlayerState c)
    (l : Ledger) : List (Verdict K) :=
  judge (towerSlotVerdict st p ps) l (List.range (st.towers p).length)

/-- The verdicts of the second loop on the commands of a player. -/
def otherVerdicts {c : Constants K} (st : State K) (p : PlayerId) (ps : PlayerState c)
    (l : Ledger) : List (Verdict K) :=
  let soldierVerdicts := judge (soldierSlotVerdict st p ps) l (List.range (st.soldiers p).length)
  soldierVerdicts ++ judge (elementVerdict st p ps) (soldierVerdicts.foldl Ledger.after l)
    (List.finRange c.mapSize ×ˢ List.finRange c.mapSize)

/-- The tower commands of one player, as a list of verdicts. -/
theorem towerCommands_eq {r : Ruleset K} {st : State K} (h : st.Sound r.toConstants)
    {p : PlayerId} (hroom : (st.towers p).length ≤ r.maxNumTowers)
    (ps : PlayerId → PlayerState r.toConstants) (skip : PlayerId → Bool) {ph : CommandPhase K}
    (hph : st.SameButOrders ph.state) :
    towerCommands ps skip ph p =
      .ok ((if skip p then [] else towerVerdicts st p (ps p) (ph.ledger p)).foldl
        (CommandPhase.carryOut p) ph) := by
  unfold towerCommands
  split
  · rfl
  · rw [hph.towers]
    refine foldlM_judge ?_ hph
    intro ph hph i hi
    have hlt : i < (st.towers p).length := List.mem_range.mp hi
    have hslot := arrayAt_of_lt (ps p).towers (hlt.trans_le hroom)
    rw [hslot, ok_bind, towerCommand_eq h hph (List.getElem?_eq_getElem hlt)]
    simp only [towerSlotVerdict, List.getElem?_eq_getElem hlt, hslot]

omit [Field K] [LinearOrder K] [FloorRing K] in
theorem foldl_ledger (vs : List (Verdict K)) (p : PlayerId) (ph : CommandPhase K) :
    (vs.foldl (CommandPhase.carryOut p) ph).ledger p = vs.foldl Ledger.after (ph.ledger p) := by
  induction vs generalizing ph with
  | nil => rfl
  | cons v vs ih => rw [List.foldl_cons, ih, CommandPhase.ledger_carryOut, List.foldl_cons]

variable [IsStrictOrderedRing K]

/-- The other commands of one player, as a list of verdicts. -/
theorem soldierAndBuildCommands_eq {r : Ruleset K} {st : State K} (h : st.Sound r.toConstants)
    {p : PlayerId} (ps : PlayerId → PlayerState r.toConstants) (skip : PlayerId → Bool)
    {ph : CommandPhase K} (hph : st.SameButOrders ph.state) :
    soldierAndBuildCommands ps skip ph p =
      .ok (if skip p then ph else
        let ph := { ph with currentNumTowers := (st.towers p).length }
        (otherVerdicts st p (ps p) (ph.ledger p)).foldl (CommandPhase.carryOut p) ph) := by
  unfold soldierAndBuildCommands
  split
  · rfl
  · dsimp only
    rw [hph.towers, hph.length]
    set ph₀ : CommandPhase K := { ph with currentNumTowers := (st.towers p).length } with hph₀
    have hph₀s : st.SameButOrders ph₀.state := hph
    have hsoldiers := foldlM_judge (p := p) (f := soldierSlotVerdict st p (ps p))
      (l := List.range (st.soldiers p).length)
      (g := fun ph i => do
        let soldier ← arrayAt (ps p).soldiers i
        soldierCommand p soldier i ph)
      (fun ph hph i hi => by
        have hlt : i < (st.soldiers p).length := List.mem_range.mp hi
        have hslot := arrayAt_of_lt (ps p).soldiers (h.length_soldiers p ▸ hlt)
        rw [hslot, ok_bind, soldierCommand_eq h hph (List.getElem?_eq_getElem hlt)]
        simp only [soldierSlotVerdict, List.getElem?_eq_getElem hlt, hslot]) hph₀s
    set ph₁ := (judge (soldierSlotVerdict st p (ps p)) (ph₀.ledger p)
      (List.range (st.soldiers p).length)).foldl (CommandPhase.carryOut p) ph₀ with hph₁
    have hph₁s : st.SameButOrders ph₁.state := hph₀s.trans (sameButOrders_foldl _ p ph₀)
    have hbuilds := foldlM_judge (p := p) (f := elementVerdict st p (ps p))
      (l := List.finRange r.mapSize ×ˢ List.finRange r.mapSize)
      (g := fun ph offset =>
        buildCommand r.toConstants p ((ps p).map offset.1 offset.2) (offset.1, offset.2) ph)
      (fun ph hph offset _ => buildCommand_eq hph (by
        have h₁ := offset.1.isLt
        have h₂ := offset.2.isLt
        simp only [GameMap.Contains, h.size]
        omega) _) hph₁s
    simp only [hsoldiers, ok_bind, hbuilds, otherVerdicts, List.foldl_append]
    rw [hph₁, foldl_ledger]

end Loops

end StateSyncer

end Simulator
