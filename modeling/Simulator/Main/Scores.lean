import Simulator.Main.TowerDeaths

/-!
# Scores

A score is a number of ownership flags, and the flags are released when the tower
manager of their player runs, which is before the soldiers attack.  So a score counts
the cells in range of the towers that were alive when the towers' phase was over.  A
tower that is killed after that is listed until the next update, and its territory
counts until then, also at the end of the game.

## Flags and towers

That the flags of a player are the cells in range of its towers is a matter of reference counts,
and they are exact when the ranges do not decrease with the level of a tower
(`Sound.getScores_eq_length`).  Without that assumption an upgrade leaves flags behind that no
tower accounts for.

`Commanded.getScores_eq` names two lists of towers.  One is what is listed after the update; the
other is what the towers' phase has left, in the state between the two phases, and all of these
are alive.  They are the same towers with the same ids, places and levels, in the same order, and
so they cover the same cells; what the fights have changed is their hp, down to zero for some.
`getScores_killed_sample` is a turn in which that happens.
-/

namespace Simulator

open Foundation

variable {K : Type} [Field K] [LinearOrder K] [FloorRing K]

/-- The cells of the map in range of one of the towers. -/
def coveredCells (c : Constants K) (m : GameMap) (towers : List (Tower K)) : List Cell :=
  (Bounds.mk 0 (m.size - 1) 0 (m.size - 1)).cells.filter fun cell =>
    towers.any fun t => TowerEnv.Covers c m t cell

theorem coveredCells_map {c : Constants K} {m : GameMap} {towers : List (Tower K)}
    {g : Tower K → Tower K} (hg : ∀ t ∈ towers, t.Worn (g t)) :
    coveredCells c m (towers.map g) = coveredCells c m towers := by
  unfold coveredCells
  congr 1
  ext cell
  rw [List.any_map, Bool.eq_iff_iff, List.any_eq_true, List.any_eq_true]
  refine exists_congr fun t => and_congr_right ?_
  intro ht
  have hcovers := TowerEnv.covers_tower_congr (c := c) (m := m) (hg t ht).position
    (hg t ht).towerLevel
  simp [hcovers]

namespace State

/-- A painted state scores the cells in range of the listed towers, when the ranges do
not decrease with the level. -/
theorem Sound.getScores_eq_length {c : Constants K} {st : State K} (h : st.Sound c)
    (hmono : c.towerRanges.Pairwise (· ≤ ·)) (p : PlayerId) :
    st.getScores p = (coveredCells c st.map (st.towers p)).length := by
  have howns : ∀ cell, st.map.owns p cell = true ↔
      ∃ t ∈ st.towers p, TowerEnv.Covers c st.map t cell := by
    intro cell
    have hiff := (h.painted p).owns_iff hmono cell
    rwa [show (st.towerEnv p).manager.playerId = p from (h.manager p).playerId_eq] at hiff
  unfold getScores coveredCells
  congr 2
  ext cell
  rw [Bool.eq_iff_iff, howns, List.any_eq_true]
  simp

variable [SquareRoot K] [IsStrictOrderedRing K]

/-- **The towers' phase leaves the living towers**, and the fights leave their cells. -/
theorem Ready.exists_living {r : Ruleset K} {st st' : State K} (h : st.Ready r)
    (hupdate : State.update r.toConstants st = .ok st') :
    ∃ mid, PlayerId.all.foldlM (State.updateTowers r.toConstants) st = .ok mid ∧ ∀ p,
      (∀ t ∈ mid.towers p, 0 < t.hp) ∧
      (∃ g : Tower K → Tower K, (∀ t ∈ mid.towers p, t.Worn (g t)) ∧
        st'.towers p = (mid.towers p).map g) := by
  obtain ⟨st₁, st₂, htowers, hu₁, hu₂, -, hs₂, hrun, -⟩ := h.updateInOrder .player1
  have hfought : st₂.Fought st' := by
    rw [← Except.ok.inj (hrun.symm.trans hupdate)]
    exact hs₂.fought_finishAll (nodup_roster _ (by simp))
  refine ⟨st₂, htowers, fun p => ⟨?_, ?_⟩⟩
  · intro t ht
    have hnonneg := ((hs₂.manager p).tower t (TowerManager.mem_allocatedTowers_of_mem ht)).hp_nonneg
    have := hu₁.towers_alive hu₂ p t ht
    omega
  · obtain ⟨g, hg, hm⟩ := hfought.manager p
    exact ⟨g, fun t ht => hg t (TowerManager.mem_allocatedTowers_of_mem ht), by
      rw [State.towers, hm, TowerManager.mapTowers, State.towers]⟩

end State

section Runs

variable [SquareRoot K] [IsStrictOrderedRing K] {r : Ruleset K} {st st' : State K}

/-- **What a score counts.**  When the tower ranges do not decrease with the level, the
score of a player after an update is the number of cells in range of the towers that are
listed then.  These are the towers that the towers' phase of the update has left, where and
as large as they were, and all of them were alive at that point. -/
theorem Commanded.getScores_eq (hmono : r.towerRanges.Pairwise (· ≤ ·)) (h : Commanded r st)
    (hupdate : State.update r.toConstants st = .ok st') :
    ∃ mid, PlayerId.all.foldlM (State.updateTowers r.toConstants) st = .ok mid ∧ ∀ p,
      (∀ t ∈ mid.towers p, 0 < t.hp) ∧
      (st'.towers p).map (fun t => (t.id, t.position, t.towerLevel)) =
        (mid.towers p).map (fun t => (t.id, t.position, t.towerLevel)) ∧
      st'.getScores p = (coveredCells r.toConstants st'.map (st'.towers p)).length ∧
      st'.getScores p = (coveredCells r.toConstants st'.map (mid.towers p)).length := by
  have hready := h.ready
  obtain ⟨mid, hmid, hliving⟩ := hready.exists_living hupdate
  obtain ⟨_, _, -, -, -, -, -, hrun, -, hrested⟩ := hready.updateInOrder .player1
  rw [Except.ok.inj (hrun.symm.trans hupdate)] at hrested
  refine ⟨mid, hmid, ?_⟩
  intro p
  obtain ⟨halive, g, hg, htowers⟩ := hliving p
  have hscore := hrested.sound.getScores_eq_length hmono p
  refine ⟨halive, ?_, hscore, ?_⟩
  · rw [htowers, List.map_map]
    refine List.map_congr_left ?_
    intro t ht
    have hworn := hg t ht
    show ((g t).id, (g t).position, (g t).towerLevel) = _
    rw [hworn.id, hworn.position, hworn.towerLevel]
  · rw [hscore, htowers, coveredCells_map hg]

omit [Field K] [LinearOrder K] [FloorRing K] [SquareRoot K] [IsStrictOrderedRing K] in
/-- In the first turn of the small game player 1 builds next to its base. -/
theorem getScores_eq_sample : ∃ (st₀ : State ℚ) (ph : CommandPhase ℚ) (st' : State ℚ),
    buildState sampleRules.toConstants = .ok st₀ ∧
    execute (bothPlay sampleRules (.build _ (1, 1)) (.quiet _)) st₀ = .ok ph ∧
    State.update sampleRules.toConstants ph.state = .ok st' ∧ st'.getScores .player1 = 9 ∧
    ∃ mid : State ℚ, (mid.towers .player1).length = 2 ∧ (∀ t ∈ mid.towers .player1, 0 < t.hp) ∧
      (st'.towers .player1).map (fun t => (t.id, t.position, t.towerLevel)) =
        (mid.towers .player1).map (fun t => (t.id, t.position, t.towerLevel)) ∧
      st'.getScores .player1 =
        (coveredCells sampleRules.toConstants st'.map (st'.towers .player1)).length ∧
      st'.getScores .player1 =
        (coveredCells sampleRules.toConstants st'.map (mid.towers .player1)).length := by
  have hrun : ((buildState sampleRules.toConstants).toOption.bind fun st₀ =>
      (execute (bothPlay sampleRules (.build _ (1, 1)) (.quiet _)) st₀).toOption.bind fun ph =>
      (State.update sampleRules.toConstants ph.state).toOption.bind fun st' =>
      some (st'.getScores .player1, (st'.towers .player1).length)) = some (9, 2) := by
    decide +kernel
  obtain ⟨st₀, h₀, hrun⟩ := exists_of_toOption_bind hrun
  obtain ⟨ph, hph, hrun⟩ := exists_of_toOption_bind hrun
  obtain ⟨st', hupdate, hrun⟩ := exists_of_toOption_bind hrun
  obtain ⟨hscore, hlength⟩ := Prod.mk.inj (Option.some.inj hrun)
  have hcommanded : Commanded sampleRules ph.state := ⟨st₀, _, ph, ⟨[], .start h₀⟩, hph, rfl⟩
  obtain ⟨mid, -, hmid⟩ := Commanded.getScores_eq (by decide) hcommanded hupdate
  obtain ⟨halive, hsame, hscores⟩ := hmid .player1
  have hmidlength : (mid.towers .player1).length = 2 := by
    have hlengths := congrArg List.length hsame
    rw [List.length_map, List.length_map] at hlengths
    exact hlengths.symm.trans hlength
  exact ⟨st₀, ph, st', h₀, hph, hupdate, hscore, mid, hmidlength, halive, hsame, hscores⟩

omit [Field K] [LinearOrder K] [FloorRing K] [SquareRoot K] [IsStrictOrderedRing K] in
/-- **A tower killed in the last turn scores.**  Player 2 builds a tower next to its
base, and player 1 kills it: the score is that of both towers. -/
theorem getScores_killed_sample : ∃ st,
    play sampleRules [bothPlay _ (.quiet _) (.build _ (1, 1)),
      bothPlay _ (.attackTower _ 0 4) (.quiet _)] = .ok st ∧
    st.getScores .player2 = 9 ∧
    ¬ st.getScores .player2 = (coveredCells sampleRules.toConstants st.map
      ((st.towers .player2).filter fun t => 0 < t.hp)).length := by
  have hrun : ((play sampleRules [bothPlay _ (.quiet _) (.build _ (1, 1)),
      bothPlay _ (.attackTower _ 0 4) (.quiet _)]).toOption.bind fun st =>
    some (st.getScores .player2, (coveredCells sampleRules.toConstants st.map
      ((st.towers .player2).filter fun t => 0 < t.hp)).length)) = some (9, 4) := by
    decide +kernel
  obtain ⟨st, hplay, hrun⟩ := exists_of_toOption_bind hrun
  obtain ⟨h₁, h₂⟩ := Prod.mk.inj (Option.some.inj hrun)
  exact ⟨st, hplay, h₁, by rw [h₁, h₂]; decide⟩

end Runs

end Simulator
