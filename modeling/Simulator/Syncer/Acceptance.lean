import Simulator.Syncer.Execution

/-!
# What is accepted

The checks of `StateSyncer`, read backwards: what is known of a command that was
accepted.  A tower command is about the tower in its slot; a soldier command is
given to a living soldier, and an attack is on a listed tower or a living soldier
of the opponent; a build command is for a valid cell, and there is room and money
for it.

## Why backwards

A handler goes through its checks one after the other and refuses the command at the first that
fails.  Read forwards it says for every command what becomes of it, in a dozen of branches.  What
is needed of it afterwards is little: of all those branches only the ones which accept matter, and
of these only what the checks have established, not the order of the checks or the texts of the
errors.

`Accepted` collects it, as one relation between a player, a state and an action.  What the update
relies on, that queued requests can be carried out and that no order is for the dead, is proved
from `Accepted` alone, and no proof about the update looks at a verdict.  There are three lemmas
that lead to it, one for each kind of slot, and for each the way a command of that kind is judged
has been followed once.
-/

namespace Simulator

open Foundation

variable {K : Type}

namespace StateSyncer

theorem exists_of_mem_judge {α : Type} {f : Ledger → α → Verdict K} {l : Ledger} {as : List α}
    {v : Verdict K} (h : v ∈ judge f l as) : ∃ l', ∃ a ∈ as, f l' a = v := by
  induction as generalizing l with
  | nil => simp [judge] at h
  | cons a as ih =>
    rcases List.mem_cons.mp h with rfl | h
    · exact ⟨l, a, List.mem_cons_self .., rfl⟩
    · obtain ⟨l', b, hb, hv⟩ := ih h
      exact ⟨l', b, List.mem_cons_of_mem _ hb, hv⟩

/-! ## Tower commands -/

/-- The price of an upgrade of the tower `t`. -/
def upgradePrice (c : Constants K) (t : Tower K) : ℤ :=
  c.towerBuildCosts[t.towerLevel.toNat]?.getD 0

theorem upgradeVerdict_action {c : Constants K} {l : Ledger} {towerId : ℤ} {t : Tower K}
    {a : Action K} (h : (upgradeVerdict c l towerId t).action = some a) :
    t.towerLevel ≠ c.towerBuildCosts.length ∧ upgradePrice c t ≤ l.money ∧
      a = .upgrade t.id (upgradePrice c t) := by
  unfold upgradeVerdict at h
  split at h
  · simp [Verdict.refuse] at h
  · rename_i hid
    split at h
    · simp [Verdict.refuse] at h
    · rename_i hlevel
      dsimp only at h
      split at h
      · simp [Verdict.refuse] at h
      · rename_i hmoney
        obtain rfl : towerId = t.id := not_not.mp hid
        exact ⟨hlevel, not_lt.mp hmoney, (Option.some.inj h).symm⟩

theorem suicideVerdict_action {towerId : ℤ} {t : Tower K} {a : Action K}
    (h : (suicideVerdict towerId t).action = some a) : t.isBase = false ∧ a = .suicide t.id := by
  unfold suicideVerdict at h
  split at h
  · simp [Verdict.refuse] at h
  · rename_i hid
    split at h
    · simp [Verdict.refuse] at h
    · rename_i hbase
      obtain rfl : towerId = t.id := not_not.mp hid
      exact ⟨by simpa using hbase, (Option.some.inj h).symm⟩

/-- **An accepted tower command** upgrades or demolishes the tower in its slot. -/
theorem towerSlotVerdict_action {c : Constants K} {st : State K} {p : PlayerId}
    {ps : PlayerState c} {l : Ledger} {i : ℕ} {a : Action K}
    (h : (towerSlotVerdict st p ps l i).action = some a) :
    ∃ t, (st.towers p)[i]? = some t ∧
      ((t.towerLevel ≠ c.towerBuildCosts.length ∧ upgradePrice c t ≤ l.money ∧
          a = .upgrade t.id (upgradePrice c t)) ∨
        (t.isBase = false ∧ a = .suicide t.id)) := by
  unfold towerSlotVerdict at h
  split at h
  · rename_i t tower ht _
    refine ⟨t, ht, ?_⟩
    unfold towerVerdict at h
    split at h
    · simp [Verdict.refuse] at h
    · split at h
      · exact .inl (upgradeVerdict_action h)
      · split at h
        · exact .inr (suicideVerdict_action h)
        · simp [Verdict.nothing] at h
  · simp [Verdict.nothing] at h

/-! ## Soldier commands -/

theorem checked_action {soldierId : ℤ} {s : Soldier K} {v : Verdict K} {a : Action K}
    (h : (checked soldierId s v).action = some a) : s.hp ≠ 0 ∧ v.action = some a := by
  unfold checked soldierError at h
  by_cases hid : soldierId = s.id <;> by_cases hhp : s.hp = 0 <;> simp_all [Verdict.refuse]

theorem attackTowerVerdict_action {st : State K} {p : PlayerId} {l : Ledger} {towerId : ℤ} {i : ℕ}
    {a : Action K} (h : (attackTowerVerdict st p l towerId i).action = some a) :
    ∃ t ∈ st.towers p.opponent, t.id ∉ l.razedTowers ∧ a = .attack i (.tower p.opponent t.id) := by
  unfold attackTowerVerdict at h
  split at h
  · simp [Verdict.refuse] at h
  · split at h
    · simp [Verdict.refuse] at h
    · rename_i hlisted
      split at h
      · simp [Verdict.refuse] at h
      · rename_i hrazed
        obtain ⟨t, ht, rfl⟩ : ∃ t ∈ st.towers p.opponent, t.id = towerId := by
          simpa using hlisted
        exact ⟨t, ht, hrazed, (Option.some.inj h).symm⟩

theorem attackSoldierVerdict_action {st : State K} {p : PlayerId} {s : Soldier K}
    {enemySoldierId : ℤ} {i : ℕ} {a : Action K}
    (h : (attackSoldierVerdict st p s enemySoldierId i).action = some a) :
    ∃ u ∈ st.soldiers p.opponent, u.hp ≠ 0 ∧ a = .attack i (.soldier p.opponent
      (u.id - (st.soldiers p.opponent).length * p.opponent.index).toNat) := by
  unfold attackSoldierVerdict at h
  dsimp only at h
  split at h
  · simp [Verdict.refuse] at h
  · split at h
    · simp [Verdict.refuse] at h
    · rename_i halive
      obtain ⟨u, hu, rfl, hhp⟩ :
          ∃ u ∈ st.soldiers p.opponent, u.id = enemySoldierId ∧ u.hp ≠ 0 := by
        simpa using halive
      exact ⟨u, hu, hhp, (Option.some.inj h).symm⟩

section Positions

variable [Field K] [LinearOrder K] [FloorRing K]

theorem moveVerdict_action {m : GameMap} {p : PlayerId} {position : Vector K} {i : ℕ} {a : Action K}
    (h : (moveVerdict m p position i).action = some a) :
    let position := if p = .player2 then flipPosition m position else position
    let side := Double.ofInt (m.size * m.elementSize)
    ¬ (position.x < .ofInt 0 ∨ side ≤ position.x ∨ position.y < .ofInt 0 ∨ side ≤ position.y) ∧
      a = .move i position := by
  unfold moveVerdict at h
  extract_lets position' side at h
  split at h
  · simp [Verdict.refuse] at h
  · rename_i hinside
    exact ⟨hinside, (Option.some.inj h).symm⟩

/-- **An accepted soldier command**, by what it asks of the living soldier in its
slot. -/
theorem soldierSlotVerdict_cases {c : Constants K} {st : State K} {p : PlayerId}
    {ps : PlayerState c} {l : Ledger} {i : ℕ} {a : Action K}
    (h : (soldierSlotVerdict st p ps l i).action = some a) :
    ∃ s soldier, (st.soldiers p)[i]? = some s ∧ s.hp ≠ 0 ∧ arrayAt ps.soldiers i = .ok soldier ∧
      ((attackTowerVerdict st p l soldier.towerTarget i).action = some a ∨
        (attackSoldierVerdict st p s soldier.soldierTarget i).action = some a ∨
        (moveVerdict st.map p soldier.destination i).action = some a) := by
  unfold soldierSlotVerdict at h
  split at h
  · rename_i s soldier hs hsoldier
    refine ⟨s, soldier, hs, ?_⟩
    unfold soldierVerdict at h
    dsimp only at h
    split at h
    · simp [Verdict.refuse] at h
    · split at h
      · obtain ⟨hhp, h⟩ := checked_action h
        exact ⟨hhp, hsoldier, .inl h⟩
      · split at h
        · obtain ⟨hhp, h⟩ := checked_action h
          exact ⟨hhp, hsoldier, .inr (.inl h)⟩
        · split at h
          · obtain ⟨hhp, h⟩ := checked_action h
            exact ⟨hhp, hsoldier, .inr (.inr h)⟩
          · simp [Verdict.nothing] at h
  · simp [Verdict.nothing] at h

/-- It sends the soldier somewhere, or to a listed tower that is not being demolished,
or to a living soldier. -/
theorem soldierSlotVerdict_action {c : Constants K} {st : State K} (hst : st.Sound c) {p : PlayerId}
    {ps : PlayerState c} {l : Ledger} {i : ℕ} {a : Action K}
    (h : (soldierSlotVerdict st p ps l i).action = some a) :
    ∃ s, (st.soldiers p)[i]? = some s ∧ s.hp ≠ 0 ∧
      ((∃ position, a = .move i position) ∨
        (∃ t ∈ st.towers p.opponent, t.id ∉ l.razedTowers ∧
          a = .attack i (.tower p.opponent t.id)) ∨
        ∃ (j : ℕ) (u : Soldier K), (st.soldiers p.opponent)[j]? = some u ∧ u.hp ≠ 0 ∧
          a = .attack i (.soldier p.opponent j)) := by
  obtain ⟨s, soldier, hs, hhp, -, h | h | h⟩ := soldierSlotVerdict_cases h
  · exact ⟨s, hs, hhp, .inr (.inl (attackTowerVerdict_action h))⟩
  · obtain ⟨u, hu, huhp, rfl⟩ := attackSoldierVerdict_action h
    obtain ⟨j, hj⟩ := List.mem_iff_getElem?.mp hu
    have hid := (hst.soldier p.opponent j u hj).id_eq
    have hindex : (u.id - (st.soldiers p.opponent).length * p.opponent.index).toNat = j := by
      rw [hst.length_soldiers, hid]
      omega
    exact ⟨s, hs, hhp, .inr (.inr ⟨j, u, hj, huhp, by rw [hindex]⟩)⟩
  · exact ⟨s, hs, hhp, .inl ⟨_, (moveVerdict_action h).2⟩⟩

/-- What is accepted from a soldier slot only gives the soldier a new order. -/
theorem soldierSlotVerdict_orders {c : Constants K} {st : State K} (hst : st.Sound c) (p : PlayerId)
    (ps : PlayerState c) (l : Ledger) (i : ℕ) :
    (soldierSlotVerdict st p ps l i).action = none ∨
      (∃ position, (soldierSlotVerdict st p ps l i).action = some (.move i position)) ∨
        ∃ ptr, (soldierSlotVerdict st p ps l i).action = some (.attack i ptr) := by
  cases ha : (soldierSlotVerdict st p ps l i).action with
  | none => exact .inl rfl
  | some a =>
    obtain ⟨s, -, -, ⟨position, rfl⟩ | ⟨t, -, -, rfl⟩ | ⟨j, u, -, -, rfl⟩⟩ :=
      soldierSlotVerdict_action hst ha
    · exact .inr (.inl ⟨position, rfl⟩)
    · exact .inr (.inr ⟨_, rfl⟩)
    · exact .inr (.inr ⟨_, rfl⟩)

/-! ## Build commands -/

/-- **An accepted build command** is for a valid cell, with room and money for the
tower. -/
theorem elementVerdict_action {c : Constants K} {st : State K} {p : PlayerId} {ps : PlayerState c}
    {l : Ledger} {o : Fin c.mapSize × Fin c.mapSize} {a : Action K}
    (h : (elementVerdict st p ps l o).action = some a) :
    l.numTowers + 1 ≤ c.maxNumTowers ∧ TowerEnv.buildCost c ≤ l.money ∧
      IsValidTerritory st p (flipOffset st.map p (o.1, o.2)) ∧
      a = .build (Vector.ofInt (flipOffset st.map p (o.1, o.2)).1
        (flipOffset st.map p (o.1, o.2)).2) (TowerEnv.buildCost c) := by
  unfold elementVerdict buildVerdict at h
  split at h
  · split at h
    · simp [Verdict.refuse] at h
    · rename_i hroom
      dsimp only at h
      split at h
      · simp [Verdict.refuse] at h
      · rename_i hvalid
        split at h
        · simp [Verdict.refuse] at h
        · rename_i hmoney
          exact ⟨not_lt.mp hroom, not_lt.mp hmoney, not_not.mp hvalid, (Option.some.inj h).symm⟩
  · simp [Verdict.nothing] at h

/-! ## All commands -/

/-- What is known of an accepted command of player `p`. -/
def Accepted (c : Constants K) (st : State K) (p : PlayerId) : Action K → Prop
  | .upgrade towerId cost => ∃ t ∈ st.towers p, t.id = towerId ∧
      t.towerLevel ≠ c.towerBuildCosts.length ∧ cost = upgradePrice c t
  | .suicide towerId => ∃ t ∈ st.towers p, t.id = towerId ∧ t.isBase = false
  | .move i _ => st.Lists (.soldier p i)
  | .attack i target => st.Lists (.soldier p i) ∧ st.Lists target ∧ st.Designates p target
  | .build offset cost => cost = TowerEnv.buildCost c ∧
      ∃ cell, offset = Vector.ofInt cell.1 cell.2 ∧ st.map.Contains cell ∧
        IsValidTerritory st p cell

variable {c : Constants K} {st : State K} {p : PlayerId} {ps : PlayerState c} {v : Verdict K}
  {a : Action K}

theorem accepted_towerSlotVerdict {l : Ledger} {i : ℕ}
    (h : (towerSlotVerdict st p ps l i).action = some a) : Accepted c st p a := by
  obtain ⟨t, ht, ⟨hlevel, -, rfl⟩ | ⟨hbase, rfl⟩⟩ := towerSlotVerdict_action h
  · exact ⟨t, List.mem_of_getElem? ht, rfl, hlevel, rfl⟩
  · exact ⟨t, List.mem_of_getElem? ht, rfl, hbase⟩

theorem accepted_soldierSlotVerdict (hst : st.Sound c) {l : Ledger} {i : ℕ}
    (h : (soldierSlotVerdict st p ps l i).action = some a) : Accepted c st p a := by
  obtain ⟨s, hs, hhp, ⟨_, rfl⟩ | ⟨t, ht, -, rfl⟩ | ⟨j, u, hu, huhp, rfl⟩⟩ :=
    soldierSlotVerdict_action hst h
  · exact ⟨s, hs, hhp⟩
  · exact ⟨⟨s, hs, hhp⟩, ⟨t, ht, rfl⟩, rfl, t, TowerManager.mem_allocatedTowers_of_mem ht, rfl⟩
  · exact ⟨⟨s, hs, hhp⟩, ⟨u, hu, huhp⟩, rfl, (List.getElem?_eq_some_iff.mp hu).1⟩

theorem accepted_elementVerdict (hst : st.Sound c) {l : Ledger} {o : Fin c.mapSize × Fin c.mapSize}
    (h : (elementVerdict st p ps l o).action = some a) : Accepted c st p a := by
  obtain ⟨-, -, hvalid, rfl⟩ := elementVerdict_action h
  refine ⟨rfl, _, rfl, contains_flipOffset p ?_, hvalid⟩
  have h₁ := o.1.isLt
  have h₂ := o.2.isLt
  simp only [GameMap.Contains, hst.size]
  omega

theorem exists_of_mem_otherVerdicts {l : Ledger} (hv : v ∈ otherVerdicts st p ps l) :
    ∃ l', (∃ i, soldierSlotVerdict st p ps l' i = v) ∨ ∃ o, elementVerdict st p ps l' o = v := by
  rcases List.mem_append.mp hv with hv | hv
  · obtain ⟨l', i, -, hi⟩ := exists_of_mem_judge hv
    exact ⟨l', .inl ⟨i, hi⟩⟩
  · obtain ⟨l', o, -, ho⟩ := exists_of_mem_judge hv
    exact ⟨l', .inr ⟨o, ho⟩⟩

end Positions

end StateSyncer

end Simulator
