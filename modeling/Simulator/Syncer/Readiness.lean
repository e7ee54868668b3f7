import Simulator.Syncer.Requests

/-!
# After the commands the state is ready

From a rested state `ExecutePlayerCommands` returns, and the state it leaves is
ready for the update: the requests can be carried out, and every new order is one
its soldier may have.

## Two kinds of changes

A command changes a soldier's orders or a queue.  Of the first kind it has to be seen that the
state stays sound and that targets stay what `Targeting` says: the new order is for a living
soldier, the target of an attack is a listed tower or a living soldier of the opponent, and a
soldier has at most one order afterwards.  That is what is known of an accepted command, and it is
kept command by command (`carryOut_keeps`).

Of the second kind nothing has to be seen command by command, since soundness does not ask what is
queued.  That the requests can be carried out is a statement about all commands of a turn
together, and it has been proved of the lists of verdicts.

`executeInOrder_ready` puts the two together, for either order of the players, which is what
fairness between them is stated with.
-/

namespace Simulator

open Foundation

variable {K : Type} [Field K] [LinearOrder K] [FloorRing K]

namespace State

omit [LinearOrder K] [FloorRing K] [Field K] in
theorem Designates.congr {st st' : State K} {p : PlayerId} {ptr : ActorPtr}
    (h : st.Designates p ptr) (hlength : ∀ q, (st'.soldiers q).length = (st.soldiers q).length)
    (htowers : ∀ q, (st'.towerManagers q).allocatedTowers = (st.towerManagers q).allocatedTowers) :
    st'.Designates p ptr := by
  cases ptr with
  | soldier q i => exact ⟨h.1, by rw [hlength]; exact h.2⟩
  | tower q id => exact ⟨h.1, by rw [htowers]; exact h.2⟩

theorem Sound.setRequests {c : Constants K} {st : State K} (h : st.Sound c) (p : PlayerId)
    (builds : List (Vector K)) (upgrades suicides : List ℤ) :
    (st.setTowerManager p { st.towerManagers p with
      towersToBuildOffsets := builds
      towersToUpgrade := upgrades
      towersToSuicide := suicides }).Sound c := by
  set st' := st.setTowerManager p { st.towerManagers p with
    towersToBuildOffsets := builds
    towersToUpgrade := upgrades
    towersToSuicide := suicides } with hst'
  have hmanager : ∀ q, (st'.towerManagers q).playerId = (st.towerManagers q).playerId ∧
      (st'.towerManagers q).towers = (st.towerManagers q).towers ∧
      (st'.towerManagers q).towersToDelete0 = (st.towerManagers q).towersToDelete0 ∧
      (st'.towerManagers q).towersToDelete1 = (st.towerManagers q).towersToDelete1 ∧
      (st'.towerManagers q).territoryRefs = (st.towerManagers q).territoryRefs := by
    intro q
    by_cases hq : q = p
    · subst hq
      simp [hst', setTowerManager]
    · simp [hst', setTowerManager, hq]
  have hallocated : ∀ q, (st'.towerManagers q).allocatedTowers =
      (st.towerManagers q).allocatedTowers := fun q => by
    obtain ⟨-, h₁, h₂, h₃, -⟩ := hmanager q
    simp only [TowerManager.allocatedTowers, h₁, h₂, h₃]
  constructor
  · exact h.length_soldiers
  · exact h.soldier
  · exact fun q i s ptr hs hptr => (h.target q i s ptr hs hptr).congr (fun _ => rfl) hallocated
  · intro q
    obtain ⟨h₀, h₁, h₂, h₃, -⟩ := hmanager q
    exact (h.manager q).congr h₀ h₁ h₂ h₃
  · intro q t ht u hu
    rw [hallocated] at ht hu
    exact h.disjoint q t ht u hu
  · exact h.tables
  · exact h.size
  · exact h.elementSize
  · intro q
    obtain ⟨h₀, h₁, -, -, h₄⟩ := hmanager q
    refine (h.painted q).congr h₁ rfl rfl ?_
    simp only [towerEnv, TowerEnv.territory, h₀, h₄]
    rfl

omit [Field K] [LinearOrder K] [FloorRing K] in
theorem getElem?_modifySoldier (st : State K) (p : PlayerId) (i : ℕ) (g : Soldier K → Soldier K)
    (q : PlayerId) (k : ℕ) : ((st.modifySoldier p i g).soldiers q)[k]? =
      (st.soldiers q)[k]?.map fun s => if q = p ∧ k = i then g s else s := by
  by_cases hq : q = p
  · subst hq
    by_cases hk : k = i
    · subst hk
      cases h : (st.soldiers q)[k]? <;> simp [State.modifySoldier, h]
    · have hk' : i ≠ k := Ne.symm hk
      cases h : (st.soldiers q)[k]? <;> simp [State.modifySoldier, h, hk, hk']
  · simp [State.modifySoldier, hq]

theorem Sound.modifySoldier {c : Constants K} {st : State K} (h : st.Sound c) {p : PlayerId} {i : ℕ}
    {g : Soldier K → Soldier K}
    (hg : ∀ s, (st.soldiers p)[i]? = some s → (g s).Sound c p i ∧
      ∀ ptr, (g s).attackTarget = some ptr → st.Designates p ptr) :
    (st.modifySoldier p i g).Sound c := by
  have hlength : ∀ q, ((st.modifySoldier p i g).soldiers q).length = (st.soldiers q).length := by
    intro q
    by_cases hq : q = p
    · subst hq
      simp [State.modifySoldier]
    · simp [State.modifySoldier, hq]
  have hsoldier : ∀ q (k : ℕ) s, ((st.modifySoldier p i g).soldiers q)[k]? = some s →
      s.Sound c q k ∧ ∀ ptr, s.attackTarget = some ptr → st.Designates q ptr := by
    intro q k s hs
    rw [getElem?_modifySoldier, Option.map_eq_some_iff] at hs
    obtain ⟨u, hu, rfl⟩ := hs
    split
    · rename_i hqk
      obtain ⟨rfl, rfl⟩ := hqk
      exact hg u hu
    · exact ⟨h.soldier q k u hu, fun ptr => h.target q k u ptr hu⟩
  constructor
  · exact fun q => (hlength q).trans (h.length_soldiers q)
  · exact fun q k s hs => (hsoldier q k s hs).1
  · exact fun q k s ptr hs hptr => ((hsoldier q k s hs).2 ptr hptr).congr hlength fun _ => rfl
  · exact h.manager
  · exact h.disjoint
  · exact h.tables
  · exact h.size
  · exact h.elementSize
  · exact h.painted

omit [LinearOrder K] [FloorRing K] [Field K] in
theorem Targeting.setRequests {c : Constants K} {st : State K} (h : st.Targeting c) (p : PlayerId)
    (builds : List (Vector K)) (upgrades suicides : List ℤ) :
    (st.setTowerManager p { st.towerManagers p with
      towersToBuildOffsets := builds
      towersToUpgrade := upgrades
      towersToSuicide := suicides }).Targeting c := by
  refine ⟨?_, h.soldier⟩
  intro q i s q' id hs hptr
  obtain ⟨t, ht, hid⟩ := h.tower q i s q' id hs hptr
  refine ⟨t, ?_, hid⟩
  by_cases hq : q' = p
  · subst hq
    simpa [State.towers, setTowerManager] using ht
  · simpa [State.towers, setTowerManager, hq] using ht

omit [LinearOrder K] [FloorRing K] [Field K] in
/-- A new order keeps targets listed and recent, if its own target is. -/
theorem Targeting.modifySoldier {c : Constants K} {st : State K} (h : st.Targeting c) {p : PlayerId}
    {i : ℕ} {g : Soldier K → Soldier K} (hstate : ∀ s, (g s).state = s.state)
    (hg : ∀ s ptr, (st.soldiers p)[i]? = some s → (g s).attackTarget = some ptr → st.Lists ptr)
    (halive : ∀ q (j : ℕ) u, (st.soldiers q)[j]? = some u → u.hp ≠ 0 → u.state.isDead = false) :
    (st.modifySoldier p i g).Targeting c := by
  constructor
  · intro q k s q' id hs hptr
    rw [getElem?_modifySoldier, Option.map_eq_some_iff] at hs
    obtain ⟨u, hu, rfl⟩ := hs
    split at hptr
    · rename_i hqk
      obtain ⟨rfl, rfl⟩ := hqk
      exact hg u _ hu hptr
    · exact h.tower q k u q' id hu hptr
  · intro q k s q' j v n hs hptr hv hn
    rw [getElem?_modifySoldier, Option.map_eq_some_iff] at hs hv
    obtain ⟨u, hu, rfl⟩ := hs
    obtain ⟨w, hw, rfl⟩ := hv
    have hwn : w.state = .dead n := by
      split at hn
      · rwa [hstate] at hn
      · exact hn
    split at hptr
    · rename_i hqk
      obtain ⟨rfl, rfl⟩ := hqk
      obtain ⟨w', hw', hhp⟩ := hg u _ hu hptr
      obtain rfl := Option.some.inj (hw.symm.trans hw')
      have hfalse := halive q' j w hw hhp
      simp [hwn, SoldierState.isDead] at hfalse
    · exact h.soldier q k u q' j w n hu hptr hw hwn

end State

namespace StateSyncer

/-- **An accepted command keeps what the update asks of the soldiers.** -/
theorem carryOut_keeps {c : Constants K} {st st' : State K} (hsame : st.SameButOrders st')
    (hs : st'.Sound c) (ht : st'.Targeting c) {p : PlayerId} {v : Verdict K}
    (hv : ∀ a, v.action = some a → Accepted c st p a) :
    (st'.carryOut p v.action).Sound c ∧ (st'.carryOut p v.action).Targeting c := by
  obtain ⟨errors, action⟩ := v
  have halive : ∀ q (j : ℕ) u, (st'.soldiers q)[j]? = some u → u.hp ≠ 0 → u.state.isDead = false :=
    fun q j u hu hhp => (hs.soldier q j u hu).state_ne_dead hhp
  have hlists : ∀ ptr : ActorPtr, st.Lists ptr → st'.Lists ptr := by
    intro ptr hptr
    cases ptr with
    | soldier q i =>
      obtain ⟨s, hsome, hhp⟩ := hptr
      obtain ⟨s', hs', heq⟩ := hsame.getElem? hsome
      have hhp' : s'.hp = s.hp := (congrArg Soldier.hp heq :)
      exact ⟨s', hs', hhp' ▸ hhp⟩
    | tower q id =>
      obtain ⟨t, htm, hid⟩ := hptr
      exact ⟨t, (hsame.towers q).symm ▸ htm, hid⟩
  rcases action with - | action
  · exact ⟨hs, ht⟩
  · have haccepted := hv action rfl
    cases action with
    | upgrade towerId cost => exact ⟨hs.setRequests p _ _ _, ht.setRequests p _ _ _⟩
    | suicide towerId => exact ⟨hs.setRequests p _ _ _, ht.setRequests p _ _ _⟩
    | build offset cost => exact ⟨hs.setRequests p _ _ _, ht.setRequests p _ _ _⟩
    | move i position =>
      obtain ⟨s, hsome, hhp⟩ := hlists (.soldier p i) haccepted
      refine ⟨hs.modifySoldier ?_, ht.modifySoldier (fun _ => rfl) ?_ halive⟩
      · intro u hu
        obtain rfl := Option.some.inj (hsome.symm.trans hu)
        exact ⟨(hs.soldier p i s hsome).moveOrder hhp position, fun ptr hptr => by
          simp [Soldier.move] at hptr⟩
      · exact fun u ptr _ hptr => by simp [Soldier.move] at hptr
    | attack i target =>
      obtain ⟨hself, hlisted, hdes⟩ := haccepted
      obtain ⟨s, hsome, hhp⟩ := hlists _ hself
      refine ⟨hs.modifySoldier ?_, ht.modifySoldier (fun _ => rfl) ?_ halive⟩
      · intro u hu
        obtain rfl := Option.some.inj (hsome.symm.trans hu)
        refine ⟨(hs.soldier p i s hsome).attackOrder hhp target, ?_⟩
        intro ptr hptr
        obtain rfl : target = ptr := Option.some.inj hptr
        refine hdes.congr hsame.length ?_
        intro q
        rw [TowerManager.allocatedTowers, hsame.manager q]
        rfl
      · intro u ptr _ hptr
        obtain rfl : target = ptr := Option.some.inj hptr
        exact hlists _ hlisted

/-- **The commands leave a rested state ready.** -/
theorem ready_carryOutAll {r : Ruleset K} {st : State K} (h : st.Rested r)
    (ps : PlayerId → PlayerState r.toConstants) (skip : PlayerId → Bool) (p : PlayerId) :
    (st.carryOutAll (allVerdicts st ps skip p)).Ready r := by
  have haccepted : ∀ x ∈ allVerdicts st ps skip p, ∀ a, x.2.action = some a →
      Accepted r.toConstants st x.1 a := fun x hx a ha =>
    accepted_playerVerdicts h.sound ps skip x.1 (mem_playerVerdicts hx) ha
  have hsame := State.sameButOrders_carryOutAll st (allVerdicts st ps skip p)
  obtain ⟨hsound, htargeting⟩ := st.carryOutAll_invariant
    (I := fun st' => st'.Sound r.toConstants ∧ st'.Targeting r.toConstants)
    ⟨h.sound, h.targeting⟩ fun st' hsame hst' x hx =>
      carryOut_keeps hsame hst'.1 hst'.2 (haccepted x hx)
  refine ⟨hsound, ?_, htargeting,
    fun q => (queued_carryOutAll h ps skip p q).1, fun q => (queued_carryOutAll h ps skip p q).2⟩
  intro q i s' hs'
  -- pending damage is none of the orders
  obtain ⟨s, hs, heq⟩ := hsame.exists_getElem? hs'
  have hdamage : s'.damageIncurred = s.damageIncurred := (congrArg Soldier.damageIncurred heq :)
  exact hdamage.trans (h.undamaged q i s hs)

variable [IsStrictOrderedRing K]

/-- **`ExecutePlayerCommands` returns from a rested state**, whoever comes first, and
leaves it ready. -/
theorem executeInOrder_ready {r : Ruleset K} {st : State K} (h : st.Rested r)
    (ps : PlayerId → PlayerState r.toConstants) (skip : PlayerId → Bool) (p : PlayerId) :
    ∃ ph, executeInOrder [p, p.opponent] ps skip st = .ok ph ∧ ph.state.Ready r ∧
      ph.state = st.carryOutAll (allVerdicts st ps skip p) := by
  obtain ⟨ph, hrun, hstate, -⟩ := executeInOrder_eq h.sound ps skip h.room p
  exact ⟨ph, hrun, hstate ▸ ready_carryOutAll h ps skip p, hstate⟩

end StateSyncer

end Simulator
