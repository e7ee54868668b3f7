import Simulator.Drivers.Game
import Simulator.Foundation.TwoRuns
import Simulator.Main.Runs
import Simulator.Syncer.FreshCopies

/-!
# What a player has authority over

A player's code gets its whole copy of the state, and what it leaves behind is written back
as it is.  Two copies that give the same commands, in the slots that are read, lead to the
same turn, whatever else the player has written to them: to the same state, the same errors
and the same frame in the log, and to the same copy of the opponent.

The execution of the commands reads a copy in its rounds only, and nothing of it but the ids
and the writable members.  The refresh reads of a copy only how long its arrays are, and
writes to the copy of one player at a time.
-/

namespace Simulator

open Foundation

variable {K : Type} [Field K] [LinearOrder K] [FloorRing K]

namespace StateSyncer

/-! ## The commands -/

omit [Field K] [LinearOrder K] [FloorRing K] in
/-- Two contents of the copy of player `p` that agree on the ids and the writable members, of
the towers up to as many as the player has, of all soldiers, and of all map elements. -/
structure SameCommands {c : Constants K} (st : State K) (p : PlayerId) (ps ps' : PlayerState c) :
    Prop where
  towers : ∀ i : Fin c.maxNumTowers, (i : ℕ) < (st.towers p).length →
    (ps.towers i).id = (ps'.towers i).id ∧
      (ps.towers i).upgradeTower = (ps'.towers i).upgradeTower ∧
      (ps.towers i).suicide = (ps'.towers i).suicide
  soldiers : ∀ i : Fin c.numSoldiers, (ps.soldiers i).id = (ps'.soldiers i).id ∧
    (ps.soldiers i).towerTarget = (ps'.soldiers i).towerTarget ∧
    (ps.soldiers i).soldierTarget = (ps'.soldiers i).soldierTarget ∧
    (ps.soldiers i).destination = (ps'.soldiers i).destination
  map : ∀ i j, (ps.map i j).buildTower = (ps'.map i j).buildTower

omit [Field K] [LinearOrder K] [FloorRing K] in
theorem SameCommands.refl {c : Constants K} (st : State K) (p : PlayerId) (ps : PlayerState c) :
    SameCommands st p ps ps :=
  ⟨fun _ _ => ⟨rfl, rfl, rfl⟩, fun _ => ⟨rfl, rfl, rfl, rfl⟩, fun _ _ => rfl⟩

/-- A round of the loops reads nothing else. -/
theorem SameCommands.execute_eq {c : Constants K} {st : State K}
    {playerStates playerStates' : PlayerId → PlayerState c} {step : Step c}
    (h : SameCommands st step.playerId (playerStates step.playerId) (playerStates' step.playerId))
    (hslot : step.IsSlot st) (ph : CommandPhase K) :
    Step.execute playerStates ph step = Step.execute playerStates' ph step := by
  cases step with
  | tower p i =>
    by_cases hi : i < c.maxNumTowers
    · obtain ⟨hid, hupgrade, hsuicide⟩ := h.towers ⟨i, hi⟩ hslot
      simp only [Step.playerId] at hid hupgrade hsuicide
      simp only [Step.execute, arrayAt_of_lt _ hi, ok_bind, towerCommand, hid, hupgrade, hsuicide]
    · simp only [Step.execute, arrayAt, dif_neg hi]
  | countTowers p => rfl
  | soldier p i =>
    by_cases hi : i < c.numSoldiers
    · obtain ⟨hid, htower, hsoldier, hdest⟩ := h.soldiers ⟨i, hi⟩
      simp only [Step.playerId] at hid htower hsoldier hdest
      simp only [Step.execute, arrayAt_of_lt _ hi, ok_bind, soldierCommand, hid, htower, hsoldier,
        hdest]
    · simp only [Step.execute, arrayAt, dif_neg hi]
  | element p offset =>
    have hbuild := h.map offset.1 offset.2
    simp only [Step.playerId] at hbuild
    simp only [Step.execute, buildCommand, hbuild]

/-- **The commands of both copies have the same execution.** -/
theorem executePlayerCommands_congr [IsStrictOrderedRing K] {r : Ruleset K} {st : State K}
    (hside : st.map.size = r.mapSize)
    {playerStates playerStates' : PlayerId → PlayerState r.toConstants}
    (h : ∀ p, SameCommands st p (playerStates p) (playerStates' p)) (skip : PlayerId → Bool) :
    executePlayerCommands playerStates skip st = executePlayerCommands playerStates' skip st := by
  rw [executePlayerCommands_eq_steps hside, executePlayerCommands_eq_steps hside]
  refine EndAlike.eq (EndAlike.foldlM (R := Eq) ?_ rfl)
  intro ph ph' hph step hstep
  rw [hph, (h _).execute_eq (mem_steps.mp hstep).2]
  exact .refl (fun _ => rfl) _

/-! ## The refresh -/

omit [Field K] [LinearOrder K] [FloorRing K] in
/-- Filling an array from the front goes alike for all arrays of one length. -/
theorem endAlike_fill {α β : Type} {n : ℕ} (l : List ℕ) (read : ℕ → Except Fault β) (make : β → α)
    (xs ys : Fin n → α) : EndAlike (fun _ _ => True)
      (l.foldlM (fun xs i => do
        let x ← read i
        arraySet xs i (make x)) xs)
      (l.foldlM (fun xs i => do
        let x ← read i
        arraySet xs i (make x)) ys) := by
  refine EndAlike.foldlM ?_ trivial
  intro xs ys _ i _
  refine (EndAlike.refl (R := Eq) (fun _ => rfl) (read i)).bind ?_
  intro x y hxy
  unfold arraySet
  split
  · exact .ok trivial
  · exact .error _

omit [LinearOrder K] [FloorRing K] in
theorem endAlike_assignTowerAttributes {n : ℕ} (st : State K) (id : PlayerId) (isEnemy : Bool)
    {q : Prop} {xs ys : Fin n → PlayerState.Tower K} (h : q → xs = ys) :
    EndAlike (fun xs ys => q → xs = ys) (assignTowerAttributes st id isEnemy xs)
      (assignTowerAttributes st id isEnemy ys) := by
  by_cases hq : q
  · rw [h hq]
    exact .refl (fun _ _ => rfl) _
  · exact (endAlike_fill _ _ _ xs ys).imp fun _ _ _ hq' => absurd hq' hq

omit [LinearOrder K] [FloorRing K] in
theorem endAlike_assignSoldierAttributes {n : ℕ} (st : State K) (id : PlayerId) (isEnemy : Bool)
    {q : Prop} {xs ys : Fin n → PlayerState.Soldier K} (h : q → xs = ys) :
    EndAlike (fun xs ys => q → xs = ys) (assignSoldierAttributes st id isEnemy xs)
      (assignSoldierAttributes st id isEnemy ys) := by
  by_cases hq : q
  · rw [h hq]
    exact .refl (fun _ _ => rfl) _
  · exact (endAlike_fill _ _ _ xs ys).imp fun _ _ _ hq' => absurd hq' hq

/-- A round of the refresh keeps the copies of `o` alike. -/
theorem endAlike_updatePlayerState {c : Constants K} (st : State K) {o : PlayerId}
    {x x' : PlayerMap × (PlayerId → PlayerState c)} (h : x.1 = x'.1 ∧ x.2 o = x'.2 o)
    (q : PlayerId) :
    EndAlike (fun x x' => x.1 = x'.1 ∧ x.2 o = x'.2 o) (updatePlayerState st x q)
      (updatePlayerState st x' q) := by
  obtain ⟨playerMap, copies⟩ := x
  obtain ⟨playerMap', copies'⟩ := x'
  obtain ⟨rfl, hcopies⟩ := h
  have hcopy : q = o → copies q = copies' q := by
    rintro rfl
    exact hcopies
  unfold updatePlayerState
  refine (endAlike_assignTowerAttributes st q false
    (fun hq => congrArg PlayerState.towers (hcopy hq))).bind ?_
  intro towers towers' ht
  refine (endAlike_assignTowerAttributes st q.opponent true
    (fun hq => congrArg PlayerState.enemyTowers (hcopy hq))).bind ?_
  intro enemies enemies' he
  refine (endAlike_assignSoldierAttributes st q false
    (fun hq => congrArg PlayerState.soldiers (hcopy hq))).bind ?_
  intro soldiers soldiers' hs
  refine (endAlike_assignSoldierAttributes st q.opponent true
    (fun hq => congrArg PlayerState.enemySoldiers (hcopy hq))).bind ?_
  intro foes foes' hf
  refine (EndAlike.refl (R := Eq) (fun _ => rfl) _).bind ?_
  intro masked masked' hm
  subst hm
  have hmap : EndAlike (fun xs ys => q = o → xs = ys)
      (writeMap st.map.size masked (copies q).map)
      (writeMap st.map.size masked (copies' q).map) := by
    unfold writeMap
    split
    · exact .ok fun hq => by rw [hcopy hq]
    · exact .error _
  refine hmap.bind fun map map' hm => .ok ⟨rfl, ?_⟩
  by_cases hq : q = o
  · subst hq
    simp only [Function.update_self, ht rfl, he rfl, hs rfl, hf rfl, hm rfl]
  · simp only [Function.update_of_ne (Ne.symm hq)]
    exact hcopies

/-- **The refresh** shows the opponent the same, and logs the same. -/
theorem endAlike_updatePlayerStates {c : Constants K} (st : State K) (logger : Logger)
    {o : PlayerId} {playerStates playerStates' : PlayerId → PlayerState c}
    (h : playerStates o = playerStates' o) :
    EndAlike (fun x x' => x.1 = x'.1 ∧ x.2 o = x'.2 o) (updatePlayerStates st logger playerStates)
      (updatePlayerStates st logger playerStates') := by
  unfold updatePlayerStates
  refine (EndAlike.foldlM (s := (copyMap st.map, playerStates))
    (t := (copyMap st.map, playerStates'))
    (fun x x' hx q _ => endAlike_updatePlayerState st hx q) ⟨rfl, h⟩).bind ?_
  intro x x' hx
  refine (EndAlike.refl (R := Eq) (fun _ => rfl) _).bind ?_
  intro l l' hl
  exact .ok ⟨hl, hx.2⟩

end StateSyncer

/-! ## A turn -/

namespace Simulation

variable [SquareRoot K]

/-- The part of a turn that follows the players' code. -/
def turn (c : Constants K) (skip : PlayerId → Bool) (playerStates : PlayerId → PlayerState c)
    (g : Simulation K) : Except Fault (Simulation K × (PlayerId → PlayerState c)) := do
  let g ← executePlayerCommands c playerStates skip g
  let g ← updateMainState c g
  updatePlayerStates c g playerStates

variable [IsStrictOrderedRing K] {r : Ruleset K}

/-- **Players have no authority beyond their commands.**  With another copy of player `p` that
gives the same commands, the commands have the same execution, with the same errors, and
lead to the same state; the logs stay the same, and so does what the opponent is shown. -/
theorem turn_sameCommands {g : Simulation K} (hg : Reachable r g.state) {p : PlayerId}
    {playerStates playerStates' : PlayerId → PlayerState r.toConstants}
    (hopponent : playerStates p.opponent = playerStates' p.opponent)
    (h : StateSyncer.SameCommands g.state p (playerStates p) (playerStates' p))
    (skip : PlayerId → Bool) :
    (∃ ph st', StateSyncer.executePlayerCommands playerStates skip g.state = .ok ph ∧
      StateSyncer.executePlayerCommands playerStates' skip g.state = .ok ph ∧
      State.update r.toConstants ph.state = .ok st') ∧
    EndAlike (fun x x' => x.1 = x'.1 ∧ x.2 p.opponent = x'.2 p.opponent)
      (turn r.toConstants skip playerStates g) (turn r.toConstants skip playerStates' g) := by
  have hcommands : ∀ q, StateSyncer.SameCommands g.state q (playerStates q) (playerStates' q) := by
    intro q
    by_cases hq : q = p
    · rw [hq]
      exact h
    · rw [PlayerId.eq_opponent_of_ne hq, hopponent]
      exact .refl ..
  have hsame := StateSyncer.executePlayerCommands_congr hg.rested.sound.size hcommands skip
  constructor
  · obtain ⟨ph, st', hrun, hupdate⟩ := hg.turn_returns ⟨playerStates, skip⟩
    exact ⟨ph, st', hrun, hsame ▸ hrun, hupdate⟩
  · unfold turn
    have hexecute : executePlayerCommands r.toConstants playerStates skip g =
        executePlayerCommands r.toConstants playerStates' skip g := by
      rw [executePlayerCommands, executePlayerCommands, hsame]
    rw [hexecute]
    refine (EndAlike.refl (R := Eq) (fun _ => rfl) _).bind ?_
    intro g₁ g₁' h₁
    subst h₁
    refine (EndAlike.refl (R := Eq) (fun _ => rfl) _).bind ?_
    intro g₂ g₂' h₂
    subst h₂
    refine (StateSyncer.endAlike_updatePlayerStates g₂.state g₂.logger hopponent).bind ?_
    intro x x' hx
    exact .ok ⟨by rw [hx.1], hx.2⟩

/-- A copy with which player 1 builds, and one that claims all territory and much money too. -/
def forgedCopies (forged : Bool) : PlayerId → PlayerState sampleRules.toConstants
  | .player1 =>
    let ps := PlayerState.build sampleRules.toConstants (1, 1)
    if forged then
      { ps with
        map := fun i j => { ps.map i j with territory := true, validTerritory := true }
        enemySoldiers := fun _ => { PlayerState.quietSoldier ℚ with hp := 0, state := .dead }
        numTowers := 7
        money := 1000000 }
    else ps
  | .player2 => .attackSoldier _ 1 0

omit [Field K] [LinearOrder K] [FloorRing K] [SquareRoot K] [IsStrictOrderedRing K] in
theorem turn_sameCommands_sample : ∃ st, buildState sampleRules.toConstants = .ok st ∧
    let g : Simulation ℚ := ⟨st, Logger.start 10 100, []⟩
    (∃ ph st', StateSyncer.executePlayerCommands (forgedCopies false) (fun _ => false) st = .ok ph ∧
      StateSyncer.executePlayerCommands (forgedCopies true) (fun _ => false) st = .ok ph ∧
      State.update sampleRules.toConstants ph.state = .ok st') ∧
    EndAlike (fun x x' => x.1 = x'.1 ∧ x.2 .player2 = x'.2 .player2)
      (turn sampleRules.toConstants (fun _ => false) (forgedCopies false) g)
      (turn sampleRules.toConstants (fun _ => false) (forgedCopies true) g) := by
  obtain ⟨st, hst, -⟩ := exists_buildState sampleRules
  have hcommands : StateSyncer.SameCommands st .player1 (forgedCopies false .player1)
      (forgedCopies true .player1) :=
    ⟨fun _ _ => ⟨rfl, rfl, rfl⟩, fun _ => ⟨rfl, rfl, rfl, rfl⟩, fun _ _ => rfl⟩
  have hopponent : forgedCopies false PlayerId.player1.opponent =
      forgedCopies true PlayerId.player1.opponent := rfl
  exact ⟨st, hst, turn_sameCommands (g := ⟨st, Logger.start 10 100, []⟩) ⟨[], .start hst⟩
    hopponent hcommands fun _ => false⟩

end Simulation

end Simulator
