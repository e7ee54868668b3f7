import Simulator.Main.Initial
import Simulator.Syncer.Execution

/-!
# Every command has one outcome

The handlers of `StateSyncer` have some twenty exits.  `Outcome` is what they have in
common, whatever the state: a command is refused with one error, and nothing else changes,
or one command method of `State` is called and no error is logged.  An attack on a soldier
that is invulnerable does both.

`Step` is a round of one of the loops of `ExecutePlayerCommands`, and `steps` are the
rounds it makes.  Nothing is asked of the state but that the map has the size of the
players' map: ids, levels and positions may be anything, and a method of `State` may throw,
which ends the run.
-/

namespace Simulator

open Foundation

variable {K : Type}

/-! ## Calls of the state -/

/-- A call of a command method of `State`. -/
inductive StateCall (K : Type) where
  | moveSoldier (playerId : PlayerId) (soldierId : ℤ) (position : Vector K)
  | attackActor (playerId : PlayerId) (soldierId actorId : ℤ)
  | buildTower (playerId : PlayerId) (position : Vector K)
  | upgradeTower (playerId : PlayerId) (towerId : ℤ)
  | suicideTower (playerId : PlayerId) (towerId : ℤ)

namespace StateCall

/-- The player the call is for. -/
def playerId : StateCall K → PlayerId
  | moveSoldier p _ _ => p
  | attackActor p _ _ => p
  | buildTower p _ => p
  | upgradeTower p _ => p
  | suicideTower p _ => p

/-- Make the call. -/
def run (st : State K) : StateCall K → Except Fault (State K)
  | moveSoldier p soldierId position => st.moveSoldier p soldierId position
  | attackActor p soldierId actorId => st.attackActor p soldierId actorId
  | buildTower p position => .ok (st.buildTower p position)
  | upgradeTower p towerId => .ok (st.upgradeTower p towerId)
  | suicideTower p towerId => .ok (st.suicideTower p towerId)

/-- The bookkeeping of `ExecutePlayerCommands` for an accepted command of the given cost. -/
def book (cost : ℤ) (l : Ledger) : StateCall K → Ledger
  | moveSoldier _ _ _ => l
  | attackActor _ _ _ => l
  | buildTower _ _ => { l with money := l.money - cost, numTowers := l.numTowers + 1 }
  | upgradeTower _ _ => { l with money := l.money - cost }
  | suicideTower _ towerId => { l with razedTowers := l.razedTowers ++ [towerId] }

theorem sameButOrders_run {st st' : State K} (call : StateCall K) (h : call.run st = .ok st') :
    st.SameButOrders st' := by
  have hset : ∀ {p : PlayerId} {i : ℕ} {s : Soldier K} (g : Soldier K → Soldier K),
      vectorAt (st.soldiers p) i = .ok s → (∀ s, (g s).withoutOrders = s.withoutOrders) →
      st.SameButOrders (st.setSoldier p i (g s)) := by
    intro p i s g hs hg
    have hget : (st.soldiers p)[i]? = some s := by
      simpa using (vectorAt_eq_ok.mp hs).2
    rw [StateSyncer.setSoldier_eq_modifySoldier hget]
    exact State.sameButOrders_modifySoldier st p i hg
  cases call with
  | moveSoldier p soldierId position =>
    simp only [run, State.moveSoldier, bind_eq_ok, pure_eq_ok, Except.ok.injEq] at h
    obtain ⟨i, -, s, hs, rfl⟩ := h
    exact hset (Soldier.move · position) hs fun _ => rfl
  | attackActor p soldierId actorId =>
    simp only [run, State.attackActor, bind_eq_ok] at h
    obtain ⟨i, -, s, hs, h⟩ := h
    split at h
    · simp only [bind_eq_ok, pure_eq_ok, Except.ok.injEq] at h
      obtain ⟨target, -, rfl⟩ := h
      exact hset (Soldier.attack · (.soldier p.opponent target)) hs fun _ => rfl
    · simp only [bind_eq_ok, pure_eq_ok, Except.ok.injEq] at h
      obtain ⟨target, -, rfl⟩ := h
      exact hset (Soldier.attack · (.tower p.opponent target.id)) hs fun _ => rfl
  | buildTower p position =>
    obtain rfl := Except.ok.inj h
    exact State.sameButOrders_setTowerManager st p rfl
  | upgradeTower p towerId =>
    obtain rfl := Except.ok.inj h
    exact State.sameButOrders_setTowerManager st p rfl
  | suicideTower p towerId =>
    obtain rfl := Except.ok.inj h
    exact State.sameButOrders_setTowerManager st p rfl

end StateCall

namespace CommandPhase

/-- Make one call of the state for player `p`, and do the bookkeeping. -/
def perform (p : PlayerId) (ph : CommandPhase K) (call : StateCall K) (cost : ℤ) :
    Except Fault (CommandPhase K) := do
  let state ← call.run ph.state
  let l := call.book cost (ph.ledger p)
  return { ph with
    state
    stateMoney := Function.update ph.stateMoney p l.money
    razedTowers := l.razedTowers
    currentNumTowers := l.numTowers }

theorem perform_of_book_eq {p : PlayerId} {ph : CommandPhase K} {call : StateCall K} {cost : ℤ}
    (h : call.book cost (ph.ledger p) = ph.ledger p) :
    ph.perform p call cost = call.run ph.state >>= fun state => .ok { ph with state } := by
  have hmoney : Function.update ph.stateMoney p (ph.ledger p).money = ph.stateMoney :=
    Function.update_eq_self ..
  unfold perform
  simp only [h, hmoney]
  rfl

end CommandPhase

/-! ## Outcomes -/

/-- The outcome of a command of player `p`. -/
inductive Outcome (p : PlayerId) (ph : CommandPhase K) : Except Fault (CommandPhase K) → Prop
  /-- One error is logged, and nothing else changes. -/
  | refused (errorType : ErrorType) (message : String) :
      Outcome p ph (.ok (ph.logErrors p errorType message))
  /-- One method of the state is called, and no error is logged. -/
  | accepted (call : StateCall K) (cost : ℤ) : call.playerId = p →
      Outcome p ph (ph.perform p call cost)
  /-- The attack of a living soldier on one that is alive and invulnerable: one error is
  logged, and the attack is passed on. -/
  | immune (s t : Soldier K) (message : String) : s ∈ ph.state.soldiers p → s.hp ≠ 0 →
      t ∈ ph.state.soldiers p.opponent → t.isInvulnerable = true →
      (∃ u ∈ ph.state.soldiers p.opponent, u.id = t.id ∧ u.hp ≠ 0) →
      Outcome p ph ((ph.logErrors p .noAttackImmuneSoldier message).perform p
        (.attackActor p s.id t.id) 0)

theorem Outcome.sameButOrders {p : PlayerId} {ph ph' : CommandPhase K}
    {result : Except Fault (CommandPhase K)} (h : Outcome p ph result) (hok : result = .ok ph') :
    ph.state.SameButOrders ph'.state := by
  cases h with
  | refused errorType message =>
    obtain rfl := Except.ok.inj hok
    exact .refl _
  | accepted call cost hp =>
    simp only [CommandPhase.perform, bind_eq_ok, pure_eq_ok, Except.ok.injEq] at hok
    obtain ⟨state, hrun, rfl⟩ := hok
    exact StateCall.sameButOrders_run call hrun
  | immune s t message =>
    simp only [CommandPhase.perform, bind_eq_ok, pure_eq_ok, Except.ok.injEq] at hok
    obtain ⟨state, hrun, rfl⟩ := hok
    exact StateCall.sameButOrders_run (.attackActor p s.id t.id) hrun

namespace StateSyncer

/-! ## The handlers -/

section Handlers

variable {c : Constants K} {p : PlayerId} {ph : CommandPhase K} {i : ℕ}

/-- The level of the tower can be looked up in the table of the costs. -/
def Priced (c : Constants K) (t : Tower K) : Prop :=
  0 ≤ t.towerLevel ∧ t.towerLevel ≤ c.towerBuildCosts.length

theorem upgradeTower_outcome {t : Tower K} (ht : vectorAt (ph.state.towers p) i = .ok t)
    (towerId : ℤ) :
    Outcome p ph (upgradeTower c p towerId i ph) ∨
      ¬ Priced c t ∧ ∃ e, upgradeTower c p towerId i ph = .error e := by
  simp only [upgradeTower, ht, ok_bind]
  split
  · exact .inl (.refused ..)
  split
  · exact .inl (.refused ..)
  rename_i hmax
  cases hcost : vectorAt c.towerBuildCosts t.towerLevel with
  | ok cost =>
    rw [ok_bind]
    split
    · exact .inl (.refused ..)
    · exact .inl (.accepted (.upgradeTower p towerId) cost rfl)
  | error e =>
    refine .inr ⟨?_, e, rfl⟩
    intro hpriced
    obtain ⟨cost, -, hcost'⟩ := vectorAt_of_lt (l := c.towerBuildCosts) hpriced.1
      (lt_of_le_of_ne hpriced.2 hmax)
    rw [hcost'] at hcost
    cases hcost

theorem suicideTower_outcome {t : Tower K} (ht : vectorAt (ph.state.towers p) i = .ok t)
    (towerId : ℤ) : Outcome p ph (suicideTower p towerId i ph) := by
  simp only [suicideTower, ht, ok_bind]
  split
  · exact .refused ..
  split
  · exact .refused ..
  · have h := @Outcome.accepted _ p ph (.suicideTower p towerId) 0 rfl
    simpa [CommandPhase.perform, StateCall.run, StateCall.book, CommandPhase.ledger] using h

/-- **A tower command** has one outcome. -/
theorem towerCommand_outcome {t : Tower K} (ht : vectorAt (ph.state.towers p) i = .ok t)
    {tower : PlayerState.Tower K} (h : tower.upgradeTower = true ∨ tower.suicide = true) :
    Outcome p ph (towerCommand c p tower i ph) ∨
      ¬ Priced c t ∧ ∃ e, towerCommand c p tower i ph = .error e := by
  unfold towerCommand
  split
  · exact .inl (.refused ..)
  split
  · exact upgradeTower_outcome ht tower.id
  split
  · exact .inl (suicideTower_outcome ht tower.id)
  · tauto

theorem outcome_of_order (call : StateCall K) (hp : call.playerId = p)
    (hbook : call.book 0 (ph.ledger p) = ph.ledger p) :
    Outcome p ph (call.run ph.state >>= fun state => .ok { ph with state }) :=
  CommandPhase.perform_of_book_eq hbook ▸ .accepted call 0 hp

section Soldiers

variable {s : Soldier K}

/-- The checks every command to a soldier starts with: the command is refused, or the id is
that of the soldier, and the soldier is alive. -/
theorem checkSoldier_outcome {soldierId : ℤ} {rest : Except Fault (CommandPhase K)}
    (hrest : soldierId = s.id → s.hp ≠ 0 → Outcome p ph rest) :
    Outcome p ph (match checkSoldier p soldierId s ph with
      | some ph => return ph
      | none => rest) := by
  unfold checkSoldier
  by_cases hid : soldierId = s.id
  · by_cases hhp : s.hp = 0
    · rw [if_neg (not_not.mpr hid), if_pos hhp]
      exact .refused ..
    · rw [if_neg (not_not.mpr hid), if_neg hhp]
      exact hrest hid hhp
  · rw [if_pos hid]
    exact .refused ..

theorem attackTower_outcome (hs : vectorAt (ph.state.soldiers p) i = .ok s)
    (soldierId towerId : ℤ) : Outcome p ph (attackTower p soldierId towerId i ph) := by
  simp only [attackTower, hs, ok_bind]
  refine checkSoldier_outcome ?_
  intro _ _
  split
  · exact .refused ..
  split
  · exact .refused ..
  split
  · exact .refused ..
  · exact outcome_of_order (.attackActor p soldierId towerId) rfl rfl

theorem attackSoldier_outcome (hs : vectorAt (ph.state.soldiers p) i = .ok s)
    (soldierId enemySoldierId : ℤ) :
    Outcome p ph (attackSoldier p soldierId enemySoldierId i ph) := by
  simp only [attackSoldier, hs, ok_bind]
  refine checkSoldier_outcome ?_
  intro hid hhp
  split
  · exact .refused ..
  split
  · exact .refused ..
  rename_i halive
  split
  · rename_i himmune
    -- the error is logged, and the attack is passed on
    obtain ⟨t, ht, himmune⟩ := List.any_eq_true.mp himmune
    obtain ⟨ht, htid⟩ := List.mem_filter.mp ht
    obtain ⟨u, hu, huid, huhp⟩ : ∃ u ∈ ph.state.soldiers p.opponent,
        u.id = enemySoldierId ∧ u.hp ≠ 0 := by
      simpa using halive
    have htid : t.id = enemySoldierId := of_decide_eq_true htid
    subst hid
    have h := @Outcome.immune _ p ph s t
      ("Cannot damage invulnerable soldier with id " ++ s.id.repr) (mem_of_vectorAt hs) hhp ht
      himmune ⟨u, hu, huid.trans htid.symm, huhp⟩
    rw [CommandPhase.perform_of_book_eq rfl, htid] at h
    exact h
  · exact outcome_of_order (.attackActor p soldierId enemySoldierId) rfl rfl

variable [Field K] [LinearOrder K] [FloorRing K]

theorem moveSoldier_outcome (hs : vectorAt (ph.state.soldiers p) i = .ok s) (soldierId : ℤ)
    (position : Vector K) : Outcome p ph (moveSoldier p soldierId position i ph) := by
  simp only [moveSoldier, hs, ok_bind]
  refine checkSoldier_outcome ?_
  intro _ _
  generalize (if p = .player2 then flipPosition ph.state.map position else position) = target
  split
  · exact .refused ..
  · exact outcome_of_order (.moveSoldier p soldierId target) rfl rfl

/-- **A soldier command** has one outcome. -/
theorem soldierCommand_outcome (hs : vectorAt (ph.state.soldiers p) i = .ok s)
    {soldier : PlayerState.Soldier K}
    (h : soldier.towerTarget ≠ -1 ∨ soldier.soldierTarget ≠ -1 ∨
      ¬ soldier.destination.Equal (Vector.ofInt (-1) (-1))) :
    Outcome p ph (soldierCommand p soldier i ph) := by
  unfold soldierCommand
  dsimp only
  split
  · exact .refused ..
  split
  · exact attackTower_outcome hs ..
  split
  · exact attackSoldier_outcome hs ..
  split
  · exact moveSoldier_outcome hs ..
  · rename_i htower hsoldier hmove
    simp only [decide_eq_true_eq] at htower hsoldier hmove
    tauto

end Soldiers

/-- **A build command** on a cell of the map has one outcome. -/
theorem buildCommand_outcome [Field K] [LinearOrder K] [FloorRing K] [IsStrictOrderedRing K]
    {offset : Cell} (ho : ph.state.map.Contains offset) (hcosts : c.towerBuildCosts ≠ [])
    {element : PlayerState.MapElement} (h : element.buildTower = true) :
    Outcome p ph (buildCommand c p element offset ph) := by
  have hcell : ph.state.map.Contains
      ((flipOffset ph.state.map p offset).1, (flipOffset ph.state.map p offset).2) :=
    contains_flipOffset p ho
  obtain ⟨cost, -, hcost⟩ := vectorAt_of_lt (l := c.towerBuildCosts) le_rfl
    (Int.natCast_pos.mpr (List.length_pos_of_ne_nil hcosts))
  unfold buildCommand buildTower
  rw [if_pos h]
  split
  · exact .refused ..
  simp only [GameMap.getElementByOffset_ofInt, if_pos hcell, ok_bind]
  split
  · exact .refused ..
  rw [hcost, ok_bind]
  split
  · exact .refused ..
  · exact .accepted (.buildTower p _) cost rfl

end Handlers

/-! ## The rounds of the loops -/

/-- A round of one of the loops of `ExecutePlayerCommands`; the number of the towers of a
player is read between the two loops over its commands. -/
inductive Step (c : Constants K) where
  | tower (playerId : PlayerId) (towerIndex : ℕ)
  | countTowers (playerId : PlayerId)
  | soldier (playerId : PlayerId) (soldierIndex : ℕ)
  | element (playerId : PlayerId) (offset : Fin c.mapSize × Fin c.mapSize)

namespace Step

variable {c : Constants K}

/-- The player whose commands the round is about. -/
def playerId : Step c → PlayerId
  | tower p _ => p
  | countTowers p => p
  | soldier p _ => p
  | element p _ => p

/-- The round has a command: a flag is set, or a target or a destination. -/
def HasCommand (playerStates : PlayerId → PlayerState c) [Field K] : Step c → Prop
  | tower p i => ∃ t, arrayAt (playerStates p).towers i = .ok t ∧
      (t.upgradeTower = true ∨ t.suicide = true)
  | countTowers _ => False
  | soldier p i => ∃ s, arrayAt (playerStates p).soldiers i = .ok s ∧
      (s.towerTarget ≠ -1 ∨ s.soldierTarget ≠ -1 ∨
        ¬ s.destination.Equal (Vector.ofInt (-1) (-1)))
  | element p offset => ((playerStates p).map offset.1 offset.2).buildTower = true

/-- The slot of the round is in the array of the player. -/
def InArray : Step c → Prop
  | tower _ i => i < c.maxNumTowers
  | soldier _ i => i < c.numSoldiers
  | countTowers _ | element _ _ => True

/-- What the round reads is there: its slot, and the level of a tower in the table of the
costs. -/
def Readable (st : State K) (step : Step c) : Prop :=
  step.InArray ∧ match step with
    | tower p i => ∀ t, (st.towers p)[i]? = some t → Priced c t
    | _ => True

variable [Field K] [LinearOrder K] [FloorRing K]

/-- Make the round. -/
def execute (playerStates : PlayerId → PlayerState c) (ph : CommandPhase K) :
    Step c → Except Fault (CommandPhase K)
  | tower p i => do
    let tower ← arrayAt (playerStates p).towers i
    towerCommand c p tower i ph
  | countTowers p => .ok { ph with currentNumTowers := (ph.state.towers p).length }
  | soldier p i => do
    let soldier ← arrayAt (playerStates p).soldiers i
    soldierCommand p soldier i ph
  | element p offset =>
    buildCommand c p ((playerStates p).map offset.1 offset.2) (offset.1, offset.2) ph

end Step

/-- The rounds over the towers of a player. -/
def towerSteps {c : Constants K} (st : State K) (p : PlayerId) : List (Step c) :=
  (List.range (st.towers p).length).map (.tower p)

/-- The rounds over the soldiers and the map elements of a player. -/
def otherSteps {c : Constants K} (st : State K) (p : PlayerId) : List (Step c) :=
  .countTowers p :: ((List.range (st.soldiers p).length).map (.soldier p) ++
    (List.finRange c.mapSize ×ˢ List.finRange c.mapSize).map (.element p))

/-- The rounds of `ExecutePlayerCommands`: the towers of both players come first. -/
def steps {c : Constants K} (st : State K) (skipPlayerCommandsFlags : PlayerId → Bool) :
    List (Step c) :=
  (PlayerId.all.flatMap fun p => if skipPlayerCommandsFlags p then [] else towerSteps st p) ++
    PlayerId.all.flatMap fun p => if skipPlayerCommandsFlags p then [] else otherSteps st p

/-- The beginning of `ExecutePlayerCommands`. -/
def startPhase (st : State K) : CommandPhase K where
  state := st
  errors := []
  stateMoney := st.moneyManager.playerMoney
  razedTowers := []
  currentNumTowers := 0

section Run

variable [Field K] [LinearOrder K] [FloorRing K] [IsStrictOrderedRing K]

/-- The rounds that are made for the state. -/
def Step.IsSlot {c : Constants K} (st : State K) : Step c → Prop
  | .tower p i => i < (st.towers p).length
  | .soldier p i => i < (st.soldiers p).length
  | .countTowers _ | .element _ _ => True

/-- What a round does. -/
def Step.Spec {c : Constants K} (playerStates : PlayerId → PlayerState c) (step : Step c)
    (ph : CommandPhase K) (result : Except Fault (CommandPhase K)) : Prop :=
  (step.HasCommand playerStates → Outcome step.playerId ph result) ∧
    (¬ step.HasCommand playerStates →
      ∃ currentNumTowers, result = .ok { ph with currentNumTowers := currentNumTowers })

variable {r : Ruleset K} {st : State K} {ph : CommandPhase K}
  {playerStates : PlayerId → PlayerState r.toConstants} {skip : PlayerId → Bool}

omit [IsStrictOrderedRing K] in
/-- A round without a command does nothing, if its slot is in the array. -/
theorem Step.execute_of_not_hasCommand {step : Step r.toConstants} (hslot : step.InArray)
    (h : ¬ step.HasCommand playerStates) (ph : CommandPhase K) : ∃ currentNumTowers,
      step.execute playerStates ph = .ok { ph with currentNumTowers := currentNumTowers } := by
  cases step with
  | tower p i =>
    have harr := arrayAt_of_lt (playerStates p).towers hslot
    obtain ⟨hupgrade, hsuicide⟩ := not_or.mp fun hflags => h ⟨_, harr, hflags⟩
    refine ⟨ph.currentNumTowers, ?_⟩
    simp [execute, harr, towerCommand, hupgrade, hsuicide]
  | countTowers p => exact ⟨_, rfl⟩
  | soldier p i =>
    have harr := arrayAt_of_lt (playerStates p).soldiers hslot
    have horders : ¬ (_ ∨ _ ∨ _) := fun horders => h ⟨_, harr, horders⟩
    simp only [not_or, not_not] at horders
    obtain ⟨htower, hsoldier, hmove⟩ := horders
    refine ⟨ph.currentNumTowers, ?_⟩
    simp [execute, harr, soldierCommand, htower, hsoldier, hmove]
  | element p offset => exact ⟨ph.currentNumTowers, if_neg h⟩

/-- **A round** has one outcome for its command, or no command and none, unless it reads
what is not there. -/
theorem Step.execute_spec (step : Step r.toConstants)
    (playerStates : PlayerId → PlayerState r.toConstants) (hside : st.map.size = r.mapSize)
    (hslot : step.IsSlot st) (hph : st.SameButOrders ph.state) :
    step.Spec playerStates ph (step.execute playerStates ph) ∨
      ¬ step.Readable st ∧ ∃ e, step.execute playerStates ph = .error e := by
  by_cases hin : step.InArray
  · by_cases hhas : step.HasCommand playerStates
    · suffices h : Outcome step.playerId ph (step.execute playerStates ph) ∨
          ¬ step.Readable st ∧ ∃ e, step.execute playerStates ph = .error e from
        h.imp_left fun houtcome => ⟨fun _ => houtcome, fun h => absurd hhas h⟩
      cases step with
      | tower p i =>
        obtain ⟨t, ht⟩ : ∃ t, (st.towers p)[i]? = some t := ⟨_, List.getElem?_eq_getElem hslot⟩
        obtain ⟨tower, harr, hflags⟩ := hhas
        simp only [execute, harr, ok_bind]
        exact (towerCommand_outcome (vectorAt_towers hph ht) hflags).imp_right
          fun h => ⟨fun hreadable => h.1 (hreadable.2 t ht), h.2⟩
      | countTowers p => exact hhas.elim
      | soldier p i =>
        obtain ⟨s, hs⟩ : ∃ s, (st.soldiers p)[i]? = some s := ⟨_, List.getElem?_eq_getElem hslot⟩
        obtain ⟨s', -, -, hat⟩ := vectorAt_soldiers hph hs
        obtain ⟨soldier, harr, horders⟩ := hhas
        simp only [execute, harr, ok_bind]
        exact .inl (soldierCommand_outcome hat horders)
      | element p offset =>
        have hcell : ph.state.map.Contains (offset.1, offset.2) := by
          have h₁ := offset.1.isLt
          have h₂ := offset.2.isLt
          simp only [GameMap.Contains, hph.map, hside]
          omega
        exact .inl (buildCommand_outcome hcell r.towerBuildCosts_ne_nil hhas)
    · exact .inl ⟨fun h => absurd h hhas, fun _ => execute_of_not_hasCommand hin hhas ph⟩
  · refine .inr ⟨fun h => hin h.1, ?_⟩
    cases step with
    | tower p i =>
      have harr : arrayAt (playerStates p).towers i = .error .undefined := dif_neg hin
      exact ⟨.undefined, by rw [execute, harr]; rfl⟩
    | soldier p i =>
      have harr : arrayAt (playerStates p).soldiers i = .error .undefined := dif_neg hin
      exact ⟨.undefined, by rw [execute, harr]; rfl⟩
    | countTowers p | element p offset => exact absurd trivial hin

/-- A round that returns has changed no more than orders and requests. -/
theorem Step.sameButOrders_execute {step : Step r.toConstants} (hside : st.map.size = r.mapSize)
    (hslot : step.IsSlot st) (hph : st.SameButOrders ph.state) {ph' : CommandPhase K}
    (h : step.execute playerStates ph = .ok ph') : st.SameButOrders ph'.state := by
  rcases step.execute_spec playerStates hside hslot hph with
    ⟨hcommand, hquiet⟩ | ⟨-, e, he⟩
  · by_cases hhas : step.HasCommand playerStates
    · exact hph.trans ((hcommand hhas).sameButOrders h)
    · obtain ⟨n, hn⟩ := hquiet hhas
      obtain rfl := Except.ok.inj (hn.symm.trans h)
      exact hph
  · rw [he] at h
    cases h

omit [Field K] [LinearOrder K] [FloorRing K] [IsStrictOrderedRing K] in
theorem isSlot_of_mem_towerSteps {p : PlayerId} {step : Step r.toConstants}
    (h : step ∈ towerSteps st p) : step.IsSlot st := by
  obtain ⟨i, hi, rfl⟩ := List.mem_map.mp h
  exact List.mem_range.mp hi

omit [Field K] [LinearOrder K] [FloorRing K] [IsStrictOrderedRing K] in
theorem isSlot_of_mem_otherSteps {p : PlayerId} {step : Step r.toConstants}
    (h : step ∈ otherSteps st p) : step.IsSlot st := by
  rcases List.mem_cons.mp h with rfl | h
  · trivial
  rcases List.mem_append.mp h with h | h
  · obtain ⟨i, hi, rfl⟩ := List.mem_map.mp h
    exact List.mem_range.mp hi
  · obtain ⟨offset, -, rfl⟩ := List.mem_map.mp h
    trivial

/-- A loop over the players whose rounds are loops over steps. -/
theorem foldlM_flatMap_steps (hside : st.map.size = r.mapSize)
    {method : CommandPhase K → PlayerId → Except Fault (CommandPhase K)}
    (stepsOf : PlayerId → List (Step r.toConstants))
    (hslot : ∀ p, ∀ step ∈ stepsOf p, step.IsSlot st)
    (hmethod : ∀ ph p, st.SameButOrders ph.state →
      method ph p = (stepsOf p).foldlM (Step.execute playerStates) ph) (order : List PlayerId)
    (hph : st.SameButOrders ph.state) :
    order.foldlM method ph = (order.flatMap stepsOf).foldlM (Step.execute playerStates) ph := by
  induction order generalizing ph with
  | nil => rfl
  | cons p order ih =>
    rw [List.foldlM_cons, List.flatMap_cons, List.foldlM_append, hmethod ph p hph]
    exact bind_congr_of_ok fun ph' hph' => ih (foldlM_invariant
      (I := fun ph : CommandPhase K => st.SameButOrders ph.state)
      (fun ph ph' step hph hstep hexecute =>
        Step.sameButOrders_execute hside (hslot p step hstep) hph hexecute) hph hph')

omit [IsStrictOrderedRing K] in
theorem towerCommands_eq_steps (playerStates : PlayerId → PlayerState r.toConstants)
    (skip : PlayerId → Bool) (hph : st.SameButOrders ph.state) (p : PlayerId) :
    towerCommands playerStates skip ph p =
      (if skip p then [] else towerSteps st p).foldlM (Step.execute playerStates) ph := by
  unfold towerCommands towerSteps
  split
  · rfl
  · rw [hph.towers, List.foldlM_map]
    rfl

omit [IsStrictOrderedRing K] in
theorem soldierAndBuildCommands_eq_steps (playerStates : PlayerId → PlayerState r.toConstants)
    (skip : PlayerId → Bool) (hph : st.SameButOrders ph.state) (p : PlayerId) :
    soldierAndBuildCommands playerStates skip ph p =
      (if skip p then [] else otherSteps st p).foldlM (Step.execute playerStates) ph := by
  unfold soldierAndBuildCommands otherSteps
  split
  · rfl
  · rw [List.foldlM_cons, Step.execute, ok_bind, List.foldlM_append]
    simp only [List.foldlM_map, hph.length]
    rfl

/-- **`ExecutePlayerCommands` makes the rounds of `steps`.** -/
theorem executePlayerCommands_eq_steps (hside : st.map.size = r.mapSize) :
    executePlayerCommands playerStates skip st =
      (steps st skip).foldlM (Step.execute playerStates) (startPhase st) := by
  have hfirst := foldlM_flatMap_steps hside (fun p => if skip p then [] else towerSteps st p)
    (fun p step h => by
      split at h
      · cases h
      · exact isSlot_of_mem_towerSteps h)
    (fun ph p hph => towerCommands_eq_steps playerStates skip hph p) PlayerId.all
    (show st.SameButOrders (startPhase st).state from .refl st)
  rw [steps, List.foldlM_append, ← hfirst]
  refine bind_congr_of_ok fun ph hph => foldlM_flatMap_steps hside
    (fun p => if skip p then [] else otherSteps st p) (fun p step h => by
      split at h
      · cases h
      · exact isSlot_of_mem_otherSteps h)
    (fun ph p hph => soldierAndBuildCommands_eq_steps playerStates skip hph p) PlayerId.all ?_
  replace hph := hfirst.symm.trans hph
  refine foldlM_invariant (I := fun ph : CommandPhase K => st.SameButOrders ph.state)
    (fun ph ph' step hph hstep hexecute => Step.sameButOrders_execute hside ?_ hph hexecute)
    (.refl st) hph
  obtain ⟨p, -, hstep⟩ := List.mem_flatMap.mp hstep
  split at hstep
  · cases hstep
  · exact isSlot_of_mem_towerSteps hstep

omit [Field K] [LinearOrder K] [FloorRing K] [IsStrictOrderedRing K] in
/-- The slots and elements of the players that are not skipped, each once. -/
theorem mem_steps {step : Step r.toConstants} :
    step ∈ steps st skip ↔ skip step.playerId = false ∧ step.IsSlot st := by
  simp only [steps, towerSteps, otherSteps, List.mem_append, List.mem_flatMap, PlayerId.mem_all,
    true_and, List.mem_ite_nil_left, List.mem_cons, List.mem_map, List.mem_range]
  cases step with
  | tower p i => simp [Step.playerId, Step.IsSlot]
  | countTowers p => simp [Step.playerId, Step.IsSlot]
  | soldier p i => simp [Step.playerId, Step.IsSlot]
  | element p offset =>
    have hoffset : offset ∈ List.finRange r.mapSize ×ˢ List.finRange r.mapSize :=
      List.mem_product.mpr ⟨List.mem_finRange _, List.mem_finRange _⟩
    simp [Step.playerId, Step.IsSlot, hoffset]

omit [Field K] [LinearOrder K] [FloorRing K] [IsStrictOrderedRing K]

end Run

end StateSyncer

end Simulator
