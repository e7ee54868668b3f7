import Simulator.Syncer.Execution
import Simulator.Syncer.FlippedMap
import Simulator.Main.Initial

/-!
# What a player is shown as buildable

`UpdatePlayerStates` and `BuildTower` decide on their own where a player may build.
The first turns the map and the towers for player 2 and looks the towers' cells up on
the turned map; the second turns the offset of the command and compares it with the
cells of the towers as they stand.  On a map of even side they agree on every cell.

## From the copy to the cell

An element of a player's copy shows a cell of the map, `shownCell`: the cell itself to player 1,
and the one opposite to player 2.  On a map of even side turning the map in place is that
half-turn, with the territory flags exchanged, so that an element marked as valid territory shows
a cell that belongs to the player alone.

Towers are turned as positions, to `side - 1 - x`, and not as cells.  For a tower that stands at
an integer position inside a cell the two come to the same (`ediv_flip`), and towers do stand
there, since a building is placed in the middle of a cell, rounded down.  So the element that is
masked because of a tower is the one that shows the cell the tower stands on
(`StandsInside.towerElement_eq`), and the check of `BuildTower` finds the tower on that cell as
well.

A map of odd side has a centre, which the turning does not touch, and there the two may disagree.
-/

namespace Simulator

open Foundation

variable {K : Type}

namespace StateSyncer

/-! ## The turned map -/

/-- **`FlipMap` turns a map of even side** by half a turn, and exchanges the territory
flags. -/
theorem flipMap_of_even {m : GameMap} (heven : Even m.size) (playerMap : PlayerMap) {cell : Cell}
    (hcell : m.Contains cell) :
    flipMap m.size playerMap cell = swapTerritory (playerMap (oppositeCell m.size cell)) := by
  have hgrid : (grid m.size).Contains cell := by
    simp only [grid, Bounds.Contains, GameMap.Contains] at hcell ⊢
    omega
  rw [flipMap_apply playerMap hgrid, if_neg fun hodd => hodd.1 (Nat.even_iff.mp heven)]

/-- The cell that player `p` is shown at an offset. -/
def shownCell (m : GameMap) (p : PlayerId) (offset : Cell) : Cell :=
  if p = .player1 then offset else oppositeCell m.size offset

theorem flipOffset_eq_shownCell (m : GameMap) (p : PlayerId) (offset : Cell) :
    flipOffset m p offset = shownCell m p offset := by
  cases p <;> rfl

/-! ## The towers on the map -/

section Towers

variable [Field K] [LinearOrder K] [FloorRing K]

/-- The tower stands at an integer position inside a cell of the map. -/
def StandsInside (m : GameMap) (t : Tower K) : Prop :=
  ∃ x y : ℤ, t.position = Vector.ofInt x y ∧
    (0 ≤ x ∧ x < m.size * m.elementSize) ∧ 0 ≤ y ∧ y < m.size * m.elementSize

theorem maskTowers_eq {m : GameMap} {p : PlayerId} {towers : List (Tower K)}
    {element : Tower K → Cell} (h : ∀ t ∈ towers, towerElement m p t = .ok (element t))
    (playerMap : PlayerMap) :
    towers.foldlM (fun playerMap t => do
        let cell ← towerElement m p t
        return Function.update playerMap cell { playerMap cell with validTerritory := false })
      playerMap =
      .ok fun cell => { playerMap cell with
        validTerritory := (playerMap cell).validTerritory &&
          !towers.any fun t => element t = cell } := by
  induction towers generalizing playerMap with
  | nil => simp [pure_eq_ok]
  | cons t towers ih =>
    rw [List.foldlM_cons, h t (List.mem_cons_self ..), ok_bind]
    refine (ih (fun u hu => h u (List.mem_cons_of_mem _ hu)) _).trans ?_
    congr 1
    ext cell
    by_cases hcell : cell = element t
    · subst hcell
      simp
    · simp [hcell, Ne.symm hcell]

variable [IsStrictOrderedRing K]

theorem floor_divide_ofInt {elementSize : ℤ} (hpos : 0 < elementSize) (x y : ℤ) :
    ((Vector.ofInt x y : Vector K).divide (.ofInt elementSize)).floor =
      Vector.ofInt (x / elementSize) (y / elementSize) := by
  simp only [Vector.divide, Vector.floor, Vector.ofInt, Double.floor_ofInt_div _ hpos]

/-- Turning a coordinate and taking its cell is taking the cell and turning it. -/
theorem ediv_flip {size elementSize x : ℤ} (hpos : 0 < elementSize) :
    (size * elementSize - 1 - x) / elementSize = size - 1 - x / elementSize := by
  have hdiv := Int.mul_ediv_add_emod x elementSize
  have hlow := Int.emod_nonneg x hpos.ne'
  have hhigh := Int.emod_lt_of_pos x hpos
  refine Int.ediv_eq_iff_of_pos hpos |>.mpr ?_
  constructor <;> nlinarith

omit [FloorRing K] [LinearOrder K] [IsStrictOrderedRing K] in
theorem flipPosition_ofInt (m : GameMap) (x y : ℤ) :
    flipPosition m (Vector.ofInt x y : Vector K) =
      Vector.ofInt (m.size * m.elementSize - 1 - x) (m.size * m.elementSize - 1 - y) := by
  simp [flipPosition, Vector.ofInt]

/-- The cell a tower stands on. -/
def standingCell (m : GameMap) (t : Tower K) : Cell :=
  let offset := (t.position.divide (.ofInt m.elementSize)).floor
  (offset.x.toInt, offset.y.toInt)

theorem standingCell_of_ofInt {m : GameMap} {t : Tower K} (hpos : 0 < m.elementSize) {x y : ℤ}
    (h : t.position = Vector.ofInt x y) :
    standingCell m t = (x / m.elementSize, y / m.elementSize) := by
  unfold standingCell
  rw [h, floor_divide_ofInt hpos]
  simp [Vector.ofInt]

theorem towerElement_of_ofInt {m : GameMap} {p : PlayerId} {t : Tower K} (hpos : 0 < m.elementSize)
    {x y : ℤ} (h : shownPosition m p t.position = Vector.ofInt x y)
    (hcell : m.Contains (x / m.elementSize, y / m.elementSize)) :
    towerElement m p t = .ok (x / m.elementSize, y / m.elementSize) := by
  unfold towerElement
  rw [h, floor_divide_ofInt hpos]
  show (if m.Contains ((Double.ofInt _ : Double K).toInt, (Double.ofInt _ : Double K).toInt) then
    _ else _) = _
  rw [Double.toInt_ofInt, Double.toInt_ofInt, if_pos hcell]
  simp only [Vector.ofInt, Double.toInt_ofInt]

section Standing

variable {m : GameMap} {t : Tower K} (hpos : 0 < m.elementSize) (h : StandsInside m t)

include hpos h

theorem StandsInside.floor_eq :
    ((t.position.divide (.ofInt m.elementSize)).floor) =
      Vector.ofInt (standingCell m t).1 (standingCell m t).2 := by
  obtain ⟨x, y, hxy, -, -⟩ := h
  rw [standingCell_of_ofInt hpos hxy, hxy, floor_divide_ofInt hpos]

theorem StandsInside.contains : m.Contains (standingCell m t) := by
  obtain ⟨x, y, hxy, ⟨hx₀, hx₁⟩, hy₀, hy₁⟩ := h
  rw [standingCell_of_ofInt hpos hxy]
  exact ⟨⟨Int.ediv_nonneg hx₀ hpos.le, Int.ediv_lt_of_lt_mul hpos hx₁⟩,
    Int.ediv_nonneg hy₀ hpos.le, Int.ediv_lt_of_lt_mul hpos hy₁⟩

/-- Both players are shown the tower on the cell it stands on. -/
theorem StandsInside.towerElement_eq (p : PlayerId) :
    towerElement m p t = .ok (shownCell m p (standingCell m t)) := by
  have hcontains := h.contains hpos
  obtain ⟨x, y, hxy, -, -⟩ := h
  rw [standingCell_of_ofInt hpos hxy] at hcontains ⊢
  cases p with
  | player1 => exact towerElement_of_ofInt hpos hxy hcontains
  | player2 =>
    have hshown : shownPosition m .player2 t.position =
        Vector.ofInt (m.size * m.elementSize - 1 - x) (m.size * m.elementSize - 1 - y) := by
      rw [hxy]
      exact flipPosition_ofInt m x y
    have hturned : m.Contains (oppositeCell m.size (x / m.elementSize, y / m.elementSize)) :=
      contains_flipOffset .player2 hcontains
    have helement := towerElement_of_ofInt hpos hshown
    rw [ediv_flip hpos, ediv_flip hpos] at helement
    exact helement hturned

/-- The check of `BuildTower` finds the tower on the cell it stands on. -/
theorem StandsInside.floor_equal_iff (offset : Cell) :
    ((t.position.divide (.ofInt m.elementSize)).floor).Equal
      (Vector.ofInt offset.1 offset.2) ↔ standingCell m t = offset := by
  rw [h.floor_eq hpos]
  simp only [Vector.Equal, Vector.ofInt, Double.equal_ofInt]
  exact Prod.ext_iff.symm

end Standing

theorem isOccupied_iff {m : GameMap} {towers : List (Tower K)} (hpos : 0 < m.elementSize)
    (h : ∀ t ∈ towers, StandsInside m t) (offset : Cell) :
    isOccupied m towers offset = true ↔ ∃ t ∈ towers, standingCell m t = offset := by
  unfold isOccupied
  rw [List.any_eq_true]
  refine exists_congr fun t => and_congr_right ?_
  intro ht
  rw [decide_eq_true_iff, (h t ht).floor_equal_iff hpos]

/-! ## The refreshed copy -/

omit [IsStrictOrderedRing K] in
/-- A round of the loop over the players, as far as the map is concerned. -/
theorem exists_of_updatePlayerState {c : Constants K} {st : State K}
    {x x' : PlayerMap × (PlayerId → PlayerState c)} {p : PlayerId}
    (h : updatePlayerState st x p = .ok x') :
    maskTowers st p (markValidTerritory
        (if p = .player2 then flipMap st.map.size x.1 else x.1)) = .ok x'.1 ∧
      (∀ q, q ≠ p → x'.2 q = x.2 q) ∧
      ∀ i j : Fin c.mapSize, (i : ℕ) < st.map.size → (j : ℕ) < st.map.size →
        (x'.2 p).map i j = x'.1 (i, j) := by
  obtain ⟨playerMap, playerStates⟩ := x
  simp only [updatePlayerState, bind_eq_ok, pure_eq_ok, Except.ok.injEq] at h
  obtain ⟨towers, -, enemyTowers, -, soldiers, -, enemySoldiers, -, masked, hmask, map,
    hmap, rfl⟩ :=
    h
  refine ⟨hmask, fun q hq => by simp [hq], ?_⟩
  intro i j hi hj
  unfold writeMap at hmap
  split at hmap
  · obtain rfl := Except.ok.inj hmap
    simp [hi, hj]
  · cases hmap

/-- What an element of the copy of player `p` says of a cell. -/
structure Shows (st : State K) (p : PlayerId) (e : PlayerState.MapElement) (cell : Cell) :
    Prop where
  territory : e.territory = st.map.owns p cell
  enemyTerritory : e.enemyTerritory = st.map.owns p.opponent cell
  validTerritory : e.validTerritory = true ↔ IsValidTerritory st p cell

theorem shows_of_maskTowers {st : State K} {p : PlayerId} (hpos : 0 < st.map.elementSize)
    (htowers : ∀ t ∈ st.towers p, StandsInside st.map t) {playerMap playerMap' : PlayerMap}
    (hmask : maskTowers st p (markValidTerritory playerMap) = .ok playerMap') {offset : Cell}
    (hterritory : (playerMap offset).territory = st.map.owns p (shownCell st.map p offset))
    (henemy : (playerMap offset).enemyTerritory =
      st.map.owns p.opponent (shownCell st.map p offset)) :
    Shows st p (playerMap' offset) (shownCell st.map p offset) := by
  have hmasked := (maskTowers_eq (fun t ht => (htowers t ht).towerElement_eq hpos p)
    (markValidTerritory playerMap)).symm.trans hmask
  obtain rfl := Except.ok.inj hmasked
  refine ⟨hterritory, henemy, ?_⟩
  -- a tower stands on the shown cell exactly when its element is that of the offset
  have hinjective : ∀ cell cell' : Cell, shownCell st.map p cell = cell' ↔
      cell = shownCell st.map p cell' := by
    intro cell cell'
    cases p with
    | player1 => exact Iff.rfl
    | player2 => exact (involutive_oppositeCell _).eq_iff
  unfold IsValidTerritory
  rw [← Bool.not_eq_true (isOccupied _ _ _), isOccupied_iff hpos htowers]
  simp [markValidTerritory, hterritory, henemy, hinjective, and_assoc]

/-- **What the map of a refreshed copy shows**, when the side of the map is even. -/
theorem shows_updatePlayerStates {c : Constants K} {st : State K} (hsize : st.map.size = c.mapSize)
    (heven : Even st.map.size) (hpos : 0 < st.map.elementSize)
    (htowers : ∀ p, ∀ t ∈ st.towers p, StandsInside st.map t) {logger logger' : Logger}
    {playerStates playerStates' : PlayerId → PlayerState c}
    (h : updatePlayerStates st logger playerStates = .ok (logger', playerStates')) (p : PlayerId)
    (j k : Fin c.mapSize) :
    Shows st p ((playerStates' p).map j k) (shownCell st.map p (j, k)) := by
  have hcell : st.map.Contains (j, k) := by
    have := j.isLt
    have := k.isLt
    simp only [GameMap.Contains, hsize]
    omega
  have hj : (j : ℕ) < st.map.size := by rw [hsize]; exact j.isLt
  have hk : (k : ℕ) < st.map.size := by rw [hsize]; exact k.isLt
  obtain ⟨x₁, x₂, h₁, h₂, rfl, -⟩ := exists_rounds_of_updatePlayerStates h
  obtain ⟨hmask₁, -, hmap₁⟩ := exists_of_updatePlayerState h₁
  obtain ⟨hmask₂, hother₂, hmap₂⟩ := exists_of_updatePlayerState h₂
  have hshows₁ : ∀ cell, Shows st .player1 (x₁.1 cell) cell := fun cell =>
    shows_of_maskTowers hpos (htowers .player1) hmask₁ rfl rfl
  cases p with
  | player1 =>
    rw [hother₂ .player1 (by decide), hmap₁ j k hj hk]
    exact hshows₁ _
  | player2 =>
    rw [hmap₂ j k hj hk]
    have hflip := flipMap_of_even heven x₁.1 hcell
    have hturned := hshows₁ (oppositeCell st.map.size (j, k))
    refine shows_of_maskTowers hpos (htowers .player2) hmask₂ ?_ ?_
    · rw [if_pos rfl, hflip]
      exact hturned.enemyTerritory
    · rw [if_pos rfl, hflip]
      exact hturned.territory

/-- **What is shown as valid territory can be built on.**  On a map of even side an
element of the refreshed copy shows a cell.  A build command on it, in the next turn and
with room and money, is passed on for that cell when the element is marked as valid
territory, and refused when it is not. -/
theorem validTerritory_sound {r : Ruleset K} {st : State K} (hsize : st.map.size = r.mapSize)
    (heven : Even st.map.size) (hpos : 1 ≤ st.map.elementSize)
    (htowers : ∀ p, ∀ t ∈ st.towers p, StandsInside st.map t) {logger logger' : Logger}
    {playerStates playerStates' : PlayerId → PlayerState r.toConstants}
    (h : updatePlayerStates st logger playerStates = .ok (logger', playerStates')) (p : PlayerId)
    (j k : Fin r.mapSize) {ph : CommandPhase K} (hph : st.SameButOrders ph.state)
    (hroom : ph.currentNumTowers + 1 ≤ r.maxNumTowers)
    (hmoney : TowerEnv.buildCost r.toConstants ≤ ph.stateMoney p) :
    let e := (playerStates' p).map j k
    let cell := shownCell st.map p (j, k)
    e.territory = st.map.owns p cell ∧ e.enemyTerritory = st.map.owns p.opponent cell ∧
      ∃ ph', buildTower r.toConstants p (j, k) ph = .ok ph' ∧
        if e.validTerritory then
          ph'.errors = ph.errors ∧ ph'.state = ph.state.buildTower p (Vector.ofInt cell.1 cell.2)
        else ph' =
          ph.logErrors p .invalidTerritory "Tower can be built only on valid territory." := by
  intro e cell
  have hshows := shows_updatePlayerStates hsize heven hpos htowers h p j k
  have hcell : st.map.Contains (j, k) := by
    have := j.isLt
    have := k.isLt
    simp only [GameMap.Contains, hsize]
    omega
  have hbuild : buildTower r.toConstants p (j, k) ph = .ok (ph.carryOut p _) :=
    buildCommand_eq hph hcell ⟨true, true, true, true⟩
  refine ⟨hshows.territory, hshows.enemyTerritory, _, hbuild, ?_⟩
  have hroom' : ¬ (ph.ledger p).numTowers + 1 > r.maxNumTowers := not_lt.mpr hroom
  have hmoney' : ¬ (ph.ledger p).money < r.towerBuildCosts[0]?.getD 0 := not_lt.mpr hmoney
  simp only [buildVerdict, if_true, if_neg hroom', flipOffset_eq_shownCell]
  by_cases hvalid : IsValidTerritory st p cell
  · rw [if_pos (hshows.validTerritory.mpr hvalid), if_neg (not_not.mpr hvalid), if_neg hmoney']
    exact ⟨by simp [CommandPhase.carryOut, Verdict.accept], rfl⟩
  · rw [if_neg (fun hv => hvalid (hshows.validTerritory.mp hv)), if_pos hvalid,
      CommandPhase.carryOut_refuse]

/-- The commands of a player of the small game are about to be executed. -/
def samplePhase (st : State ℚ) : CommandPhase ℚ where
  state := st
  errors := []
  stateMoney := fun _ => 10
  razedTowers := []
  currentNumTowers := 1

omit [Field K] [LinearOrder K] [FloorRing K] [IsStrictOrderedRing K] in
/-- The first turn of the small game: player 2 may build next to its base. -/
theorem validTerritory_sound_sample : ∃ (st : State ℚ) (logger' : Logger)
    (playerStates' : PlayerId → PlayerState sampleRules.toConstants) (ph' : CommandPhase ℚ),
    buildState sampleRules.toConstants = .ok st ∧
    updatePlayerStates st (Logger.start 10 100) (fun _ => .quiet sampleRules.toConstants) =
      .ok (logger', playerStates') ∧
    ((playerStates' .player2).map (1 : Fin 4) (1 : Fin 4)).validTerritory = true ∧
    buildTower sampleRules.toConstants .player2 (1, 1) (samplePhase st) = .ok ph' ∧
    ph'.errors = [] ∧ ph'.state = st.buildTower .player2 (Vector.ofInt 2 2) := by
  have hrun : ((buildState sampleRules.toConstants).toOption.bind fun st =>
      (updatePlayerStates st (Logger.start 10 100)
        (fun _ => .quiet sampleRules.toConstants)).toOption.bind fun x =>
      some ((x.2 .player2).map (1 : Fin 4) (1 : Fin 4)).validTerritory) = some true := by
    decide +kernel
  obtain ⟨st, hst, hrun⟩ := exists_of_toOption_bind hrun
  obtain ⟨⟨logger', playerStates'⟩, hupdate, hvalid⟩ := exists_of_toOption_bind hrun
  have hvalid := Option.some.inj hvalid
  obtain ⟨st', hst', hrested, htowers, -⟩ := exists_buildState sampleRules
  obtain rfl := Except.ok.inj (hst'.symm.trans hst)
  have hsize : st'.map.size = 4 := hrested.sound.size
  have helement : st'.map.elementSize = 2 := hrested.sound.elementSize
  have hinside : ∀ p, ∀ t ∈ st'.towers p, StandsInside st'.map t := by
    intro p t ht
    rw [htowers, List.mem_singleton] at ht
    subst ht
    unfold StandsInside
    rw [hsize, helement]
    cases p with
    | player1 => exact ⟨1, 1, rfl, by decide, by decide⟩
    | player2 => exact ⟨7, 7, rfl, by decide, by decide⟩
  obtain ⟨-, -, ph', hbuild, hpassed⟩ := validTerritory_sound hsize (by rw [hsize]; decide)
    (by rw [helement]; decide) hinside hupdate .player2 (1 : Fin 4) (1 : Fin 4)
    (show st'.SameButOrders (samplePhase st').state from .refl st')
    (show (1 : ℤ) + 1 ≤ 3 by decide) (show (1 : ℤ) ≤ 10 by decide)
  rw [if_pos hvalid] at hpassed
  have hcell : shownCell st'.map .player2 (1, 1) = (2, 2) := by
    simp [shownCell, oppositeCell, hsize]
  refine ⟨st', logger', playerStates', ph', hst, hupdate, hvalid, hbuild, hpassed.1, ?_⟩
  rw [hpassed.2]
  exact congrArg (fun cell : Cell => st'.buildTower .player2 (Vector.ofInt cell.1 cell.2)) hcell

end Towers

end StateSyncer

end Simulator
