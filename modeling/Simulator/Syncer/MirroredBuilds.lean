import Simulator.State.TowerRounds
import Simulator.Syncer.Buildable

/-!
# Where a player is shown what it has built

Three formulas in two components decide where a player sees a tower that it has built:
`BuildTower` turns the offset of the command, `TowerManager` places the tower in the
middle of its cell, and `UpdatePlayerStates` turns the position back.  For player 2 the
result is off by one unless the elements have a middle, that is, an odd size.

## Counting

The middle of a cell is computed with an integer division: half the size of an element, rounded
down, from its lower edge.  Offsets are turned to `n - 1 - i`, where `n` is the number of elements
on a side, and positions to `n * size - 1 - x`.  So the distance from the lower edge of a cell
becomes the distance from its upper edge, less one: for a tower that stands `size / 2` from the
lower edge, that is `size - 1 - size / 2` (`shownMiddle`).  The two distances are the same if the
size is odd, and differ by one if it is even.

## The statement

`ShownAfterBuild` is about the whole way of a tower, through all the calls that are made of it:
the command is passed on and queued, the tower manager builds the tower at the next update, and
the tower is shown by the refresh after it.  What the two players are shown of towers that they
have built at the same offset, each in its own frame, is compared at the end
(`shownAfterBuild_eq_iff`).
-/

namespace Simulator

open Foundation

variable {K : Type}

namespace StateSyncer

variable [Field K] [LinearOrder K] [FloorRing K]

/-! ## The towers in the copies -/

theorem exists_round {c : Constants K} {st : State K} {logger logger' : Logger}
    {playerStates playerStates' : PlayerId → PlayerState c}
    (h : updatePlayerStates st logger playerStates = .ok (logger', playerStates')) (p : PlayerId) :
    ∃ x x', updatePlayerState st x p = .ok x' ∧ playerStates' p = x'.2 p := by
  obtain ⟨x₁, x₂, h₁, h₂, rfl, -⟩ := exists_rounds_of_updatePlayerStates h
  cases p with
  | player1 => exact ⟨_, x₁, h₁, (exists_of_updatePlayerState h₂).2.1 .player1 (by decide)⟩
  | player2 => exact ⟨x₁, _, h₂, rfl⟩

/-- **Where a player is shown its towers.** -/
theorem position_updatePlayerStates {c : Constants K} {st : State K} {logger logger' : Logger}
    {playerStates playerStates' : PlayerId → PlayerState c}
    (h : updatePlayerStates st logger playerStates = .ok (logger', playerStates')) {p : PlayerId}
    {i : Fin c.maxNumTowers} {t : Tower K} (ht : (st.towers p)[(i : ℕ)]? = some t) :
    ((playerStates' p).towers i).position = shownPosition st.map p t.position := by
  obtain ⟨⟨playerMap, copies⟩, x', hround, hx'⟩ := exists_round h p
  simp only [updatePlayerState, bind_eq_ok, pure_eq_ok, Except.ok.injEq] at hround
  obtain ⟨towers, htowers, _, -, _, -, _, -, _, -, _, -, rfl⟩ := hround
  obtain ⟨hfilled, -⟩ := foldlM_arraySet htowers
  obtain ⟨u, hu, hi⟩ := hfilled i (List.getElem?_eq_some_iff.mp ht).1
  obtain rfl : u = t := Option.some.inj (((vectorAt_eq_ok.mp hu).2.symm.trans (by simpa using ht)))
  rw [hx']
  dsimp only
  rw [Function.update_self]
  exact congrArg PlayerState.Tower.position hi

/-! ## From the command to the view -/

/-- Player `p` gives a build command at `offset`; it is passed on, the tower manager
carries it out, and the tower is shown to the player at `position`.  The map has the
sizes of `m` throughout. -/
inductive ShownAfterBuild (c : Constants K) (m : GameMap) (p : PlayerId) (offset : Cell) :
    Vector K → Prop
  | intro {ph ph' : CommandPhase K} {buildOffset : Vector K} {e e' : TowerEnv K} {t t' : Tower K}
      {st : State K} {logger logger' : Logger}
      {playerStates playerStates' : PlayerId → PlayerState c}
      {i : Fin c.maxNumTowers}
      (hcommand : ph.state.map.size = m.size)
      (hpassed : buildTower c p offset ph = .ok ph')
      (hqueued : (ph'.state.towerManagers p).towersToBuildOffsets =
        (ph.state.towerManagers p).towersToBuildOffsets ++ [buildOffset])
      (henv : e.map.elementSize = m.elementSize)
      (hbuilt : TowerEnv.buildNext c e buildOffset = .ok e')
      (hplaced : e'.manager.towers = e.manager.towers ++ [t])
      (hview : st.map.size = m.size ∧ st.map.elementSize = m.elementSize)
      (hlisted : (st.towers p)[(i : ℕ)]? = some t') (hstays : t'.position = t.position)
      (hrefreshed : updatePlayerStates st logger playerStates = .ok (logger', playerStates')) :
      ShownAfterBuild c m p offset ((playerStates' p).towers i).position

theorem buildOffset_of_buildTower {c : Constants K} {p : PlayerId} {offset : Cell}
    {ph ph' : CommandPhase K} (h : buildTower c p offset ph = .ok ph') {buildOffset : Vector K}
    (hqueued : (ph'.state.towerManagers p).towersToBuildOffsets =
      (ph.state.towerManagers p).towersToBuildOffsets ++ [buildOffset]) :
    buildOffset = Vector.ofInt (flipOffset ph.state.map p offset).1
      (flipOffset ph.state.map p offset).2 := by
  have hsame : ph'.state ≠ ph.state := fun heq => by
    rw [heq] at hqueued
    simpa using congrArg List.length hqueued
  unfold buildTower at h
  split at h
  · exact absurd (congrArg CommandPhase.state (Except.ok.inj h)).symm hsame
  · obtain ⟨element, -, h⟩ := bind_eq_ok.mp h
    split at h
    · exact absurd (congrArg CommandPhase.state (Except.ok.inj h)).symm hsame
    · obtain ⟨cost, -, h⟩ := bind_eq_ok.mp h
      split at h
      · exact absurd (congrArg CommandPhase.state (Except.ok.inj h)).symm hsame
      · obtain rfl := Except.ok.inj h
        simpa [State.buildTower, State.setTowerManager, TowerManager.buildTower] using hqueued.symm

variable [IsStrictOrderedRing K]

/-- How far from the lower edge of its cell player `p` is shown a tower it has built. -/
def shownMiddle (elementSize : ℤ) : PlayerId → ℤ
  | .player1 => elementSize / 2
  | .player2 => elementSize - 1 - elementSize / 2

/-- **The view of a tower that was built.** -/
theorem ShownAfterBuild.eq {c : Constants K} {m : GameMap} {p : PlayerId} {j k : ℤ}
    {position : Vector K} (h : ShownAfterBuild c m p (j, k) position) :
    position = Vector.ofInt (m.elementSize * j + shownMiddle m.elementSize p)
      (m.elementSize * k + shownMiddle m.elementSize p) := by
  obtain ⟨hcommand, hpassed, hqueued, henv, hbuilt, hplaced, ⟨hsize, helement⟩, hlisted, hstays,
    hrefreshed⟩ := h
  rename_i ph ph' buildOffset e e' t t' st _ _ _ _ i
  obtain rfl := buildOffset_of_buildTower hpassed hqueued
  obtain ⟨cost, u, bounds, -, -, -, hu, -, rfl⟩ := TowerEnv.buildNext_eq_ok.mp hbuilt
  have happend : e.manager.towers ++ [u] = e.manager.towers ++ [t] := hplaced
  obtain rfl : u = t := by simpa using happend
  obtain ⟨hp, -, rfl⟩ := TowerEnv.newTower_eq_ok.mp hu
  rw [position_updatePlayerStates hrefreshed hlisted, hstays]
  cases p with
  | player1 =>
    simp [shownPosition, flipOffset, shownMiddle, henv, Vector.ofInt]
  | player2 =>
    simp [shownPosition, flipPosition, flipOffset, shownMiddle, henv, hcommand, hsize, helement,
      Vector.ofInt]
    constructor <;> ring

/-- **Builds are shown alike exactly on elements of odd size.**  What player 2 is shown
of a tower that it has built at an offset is what player 1 is shown of one that it has
built at the same offset exactly when the element size is odd. -/
theorem shownAfterBuild_eq_iff {c : Constants K} {m : GameMap} {j k : ℤ}
    {position₁ position₂ : Vector K} (h₁ : ShownAfterBuild c m .player1 (j, k) position₁)
    (h₂ : ShownAfterBuild c m .player2 (j, k) position₂) :
    position₂ = position₁ ↔ Odd m.elementSize := by
  have hmiddle : shownMiddle m.elementSize .player2 = shownMiddle m.elementSize .player1 ↔
      Odd m.elementSize := by
    rw [Int.odd_iff]
    simp only [shownMiddle]
    omega
  rw [h₁.eq, h₂.eq, ← hmiddle]
  simp only [Vector.ofInt, Vector.mk.injEq, Double.ofInt_inj]
  omega

omit [Field K] [LinearOrder K] [FloorRing K] [IsStrictOrderedRing K] in
/-- A player of the small game builds at `(1, 1)` in the first turn. -/
theorem exists_shownAfterBuild_sample (p : PlayerId) :
    ∃ position, ShownAfterBuild sampleRules.toConstants (buildMap sampleRules.toConstants) p (1, 1)
      position := by
  let buildOffset : Vector ℚ := match p with
    | .player1 => Vector.ofInt 1 1
    | .player2 => Vector.ofInt 2 2
  have hrun : ((buildState sampleRules.toConstants).toOption.bind fun st₀ =>
      (buildTower sampleRules.toConstants p (1, 1) (samplePhase st₀)).toOption.bind fun ph' =>
      (TowerEnv.buildNext sampleRules.toConstants (st₀.towerEnv p)
        buildOffset).toOption.bind fun e' =>
      (State.updateTowers sampleRules.toConstants ph'.state p).toOption.bind fun st =>
      (updatePlayerStates st (Logger.start 10 100)
        (fun _ => .quiet sampleRules.toConstants)).toOption.bind fun x =>
      some (decide ((st₀.towers p).length = 1 ∧
        (st₀.towerManagers p).towersToBuildOffsets = [] ∧
        (ph'.state.towerManagers p).towersToBuildOffsets = [buildOffset] ∧
        (st₀.map.size, st₀.map.elementSize) = (4, 2) ∧ (st.map.size, st.map.elementSize) = (4, 2) ∧
        (st.towers p)[1]? = e'.manager.towers[1]?))) = some true := by
    cases p <;> decide +kernel
  obtain ⟨st₀, -, hrun⟩ := exists_of_toOption_bind hrun
  obtain ⟨ph', hpassed, hrun⟩ := exists_of_toOption_bind hrun
  obtain ⟨e', hbuilt, hrun⟩ := exists_of_toOption_bind hrun
  obtain ⟨st, -, hrun⟩ := exists_of_toOption_bind hrun
  obtain ⟨⟨logger', playerStates'⟩, hrefreshed, hrun⟩ := exists_of_toOption_bind hrun
  obtain ⟨hone, hempty, hqueued, hsizes₀, hsizes, hlisted⟩ :=
    of_decide_eq_true (Option.some.inj hrun)
  obtain ⟨hsize₀, helement₀⟩ := Prod.mk.inj hsizes₀
  obtain ⟨cost, t, bounds, -, -, -, -, -, he'⟩ := TowerEnv.buildNext_eq_ok.mp hbuilt
  have hplaced : e'.manager.towers = (st₀.towerEnv p).manager.towers ++ [t] := he' ▸ rfl
  have hlength : (st₀.towerEnv p).manager.towers.length = 1 := hone
  have hlast : ((st₀.towerEnv p).manager.towers ++ [t])[1]? = some t := by
    rw [List.getElem?_append_right hlength.le, hlength]
    rfl
  rw [hplaced, hlast] at hlisted
  have hqueue : (ph'.state.towerManagers p).towersToBuildOffsets =
      ((samplePhase st₀).state.towerManagers p).towersToBuildOffsets ++ [buildOffset] := by
    rw [hqueued]
    show _ = (st₀.towerManagers p).towersToBuildOffsets ++ [buildOffset]
    rw [hempty]
    rfl
  exact ⟨_, .intro (i := (1 : Fin 3)) hsize₀ hpassed hqueue helement₀ hbuilt hplaced
    (Prod.mk.inj hsizes) hlisted rfl hrefreshed⟩

omit [Field K] [LinearOrder K] [FloorRing K] [IsStrictOrderedRing K] in
/-- The elements of the small game have size 2: the two players are not shown the same. -/
theorem shownAfterBuild_eq_iff_sample : ∃ position₁ position₂ : Vector ℚ,
    ShownAfterBuild sampleRules.toConstants (buildMap sampleRules.toConstants) .player1 (1, 1)
      position₁ ∧
    ShownAfterBuild sampleRules.toConstants (buildMap sampleRules.toConstants) .player2 (1, 1)
      position₂ ∧ (position₂ = position₁ ↔ Odd (2 : ℤ)) := by
  obtain ⟨position₁, h₁⟩ := exists_shownAfterBuild_sample .player1
  obtain ⟨position₂, h₂⟩ := exists_shownAfterBuild_sample .player2
  exact ⟨position₁, position₂, h₁, h₂, shownAfterBuild_eq_iff h₁ h₂⟩

omit [Field K] [LinearOrder K] [FloorRing K] [IsStrictOrderedRing K] in
/-- **Equal builds are not shown alike.**  Both players of the small game build at
`(1, 1)` in the first turn; player 1 is shown its tower at `(3, 3)`, and player 2 at
`(2, 2)`. -/
theorem not_shownAlike_sample : ∃ (st₀ : State ℚ) (ph : CommandPhase ℚ) (st : State ℚ)
    (logger : Logger) (playerStates : PlayerId → PlayerState sampleRules.toConstants),
    buildState sampleRules.toConstants = .ok st₀ ∧
    executePlayerCommands (fun _ => .build sampleRules.toConstants (1, 1)) (fun _ => false) st₀ =
      .ok ph ∧
    State.update sampleRules.toConstants ph.state = .ok st ∧
    updatePlayerStates st (Logger.start 10 100) (fun _ => .quiet sampleRules.toConstants) =
      .ok (logger, playerStates) ∧
    (st.towers .player1).length = 2 ∧ (st.towers .player2).length = 2 ∧
    ((playerStates .player1).towers (1 : Fin 3)).position = Vector.ofInt 3 3 ∧
    ((playerStates .player2).towers (1 : Fin 3)).position = Vector.ofInt 2 2 ∧
    ¬ ((playerStates .player2).towers (1 : Fin 3)).position =
      ((playerStates .player1).towers (1 : Fin 3)).position := by
  have hrun : ((buildState sampleRules.toConstants).toOption.bind fun st₀ =>
      (executePlayerCommands (fun _ => .build sampleRules.toConstants (1, 1)) (fun _ => false)
        st₀).toOption.bind fun ph =>
      (State.update sampleRules.toConstants ph.state).toOption.bind fun st =>
      (updatePlayerStates st (Logger.start 10 100)
        (fun _ => .quiet sampleRules.toConstants)).toOption.bind fun x =>
      some ((st.towers .player1).length, (st.towers .player2).length,
        ((x.2 .player1).towers (1 : Fin 3)).position,
        ((x.2 .player2).towers (1 : Fin 3)).position)) =
      some (2, 2, Vector.ofInt 3 3, Vector.ofInt 2 2) := by
    decide +kernel
  obtain ⟨st₀, h₀, hrun⟩ := exists_of_toOption_bind hrun
  obtain ⟨ph, hph, hrun⟩ := exists_of_toOption_bind hrun
  obtain ⟨st, hst, hrun⟩ := exists_of_toOption_bind hrun
  obtain ⟨⟨logger, playerStates⟩, hrefreshed, hrun⟩ := exists_of_toOption_bind hrun
  obtain ⟨hlength₁, hrun⟩ := Prod.mk.inj (Option.some.inj hrun)
  obtain ⟨hlength₂, hrun⟩ := Prod.mk.inj hrun
  obtain ⟨h₁, h₂⟩ := Prod.mk.inj hrun
  exact ⟨st₀, ph, st, logger, playerStates, h₀, hph, hst, hrefreshed, hlength₁, hlength₂, h₁, h₂,
    by rw [h₁, h₂]; decide +kernel⟩

end StateSyncer

end Simulator
