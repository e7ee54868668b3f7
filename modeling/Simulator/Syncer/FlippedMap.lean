import Simulator.Foundation.Rotation
import Simulator.Syncer.PlayerViews

/-!
# The flipped map

`FlipMap` turns the map in place.  It visits the first half of the rows and, on a map of
odd side, the first half of the row in the middle; every visit exchanges an element with
the one opposite, and the territory flags of both.

The element in the centre of a map of odd side is opposite to itself and is never visited.
It stays where it belongs, but its flags are not exchanged (`flipMap_apply`), so that
player 2 is shown player 1's flags there.
-/

namespace Simulator

open Foundation

namespace StateSyncer

/-- The cells of a grid of the given side. -/
def grid (mapSize : ℕ) : Bounds := ⟨0, mapSize - 1, 0, mapSize - 1⟩

/-- The cell in the centre, when the side is odd. -/
def centreCell (mapSize : ℕ) : Cell := ((mapSize : ℤ) / 2, (mapSize : ℤ) / 2)

theorem involutive_oppositeCell (mapSize : ℕ) : Function.Involutive (oppositeCell mapSize) := by
  rintro ⟨i, j⟩
  simp only [oppositeCell, Prod.mk.injEq]
  omega

theorem oppositeCell_mem_grid {mapSize : ℕ} {cell : Cell} (h : (grid mapSize).Contains cell) :
    (grid mapSize).Contains (oppositeCell mapSize cell) := by
  simp only [grid, Bounds.Contains, oppositeCell] at h ⊢
  omega

theorem swapTerritory_swapTerritory (e : PlayerState.MapElement) :
    swapTerritory (swapTerritory e) = e := rfl

theorem swapTerritory_of_eq {e : PlayerState.MapElement} (h : e.territory = e.enemyTerritory) :
    swapTerritory e = e := by
  obtain ⟨territory, enemyTerritory, validTerritory, buildTower⟩ := e
  obtain rfl : territory = enemyTerritory := h
  rfl

theorem flipElements_eq {mapSize : ℕ} {cell : Cell} (h : oppositeCell mapSize cell ≠ cell)
    (playerMap : PlayerMap) : flipElements mapSize playerMap cell =
      swapPair (oppositeCell mapSize) swapTerritory playerMap cell := by
  ext cell'
  unfold flipElements swapElements swapPair
  by_cases h₁ : cell' = oppositeCell mapSize cell
  · subst h₁
    simp [h.symm]
  · by_cases h₂ : cell' = cell
    · subst h₂
      simp [h₁, h]
    · simp [h₁, h₂]

/-- The cells that `FlipMap` visits. -/
def visitedCells (mapSize : ℕ) : List Cell :=
  let half : ℤ := mapSize / 2
  (Bounds.mk 0 (half - 1) 0 (mapSize - 1)).cells ++
    if mapSize % 2 ≠ 0 then (intRange 0 (half - 1)).map fun j => (half, j) else []

theorem flipMap_eq_foldl (mapSize : ℕ) (playerMap : PlayerMap) :
    flipMap mapSize playerMap = (visitedCells mapSize).foldl (flipElements mapSize) playerMap := by
  unfold flipMap visitedCells
  rw [List.foldl_append]
  split
  · exact (List.foldl_map (f := fun j : ℤ => (((mapSize : ℤ) / 2, j) : Cell))).symm
  · rfl

theorem mem_visitedCells {mapSize : ℕ} {cell : Cell} :
    cell ∈ visitedCells mapSize ↔ (grid mapSize).Contains cell ∧
      (cell.1 < mapSize / 2 ∨
        mapSize % 2 ≠ 0 ∧ cell.1 = mapSize / 2 ∧ cell.2 < mapSize / 2) := by
  obtain ⟨i, j⟩ := cell
  have hrow : (i, j) ∈ (if mapSize % 2 ≠ 0 then
      (intRange 0 ((mapSize : ℤ) / 2 - 1)).map fun j => ((mapSize : ℤ) / 2, j) else []) ↔
      mapSize % 2 ≠ 0 ∧ (0 ≤ j ∧ j ≤ (mapSize : ℤ) / 2 - 1) ∧ i = (mapSize : ℤ) / 2 := by
    split
    · rename_i hodd
      simp only [List.mem_map, mem_intRange, Prod.mk.injEq, hodd, true_and, not_false_eq_true,
        ne_eq]
      exact ⟨fun ⟨j', hj', hi, hj⟩ => ⟨hj ▸ hj', hi.symm⟩, fun ⟨hj, hi⟩ => ⟨j, hj, hi.symm, rfl⟩⟩
    · rename_i heven
      simp [heven]
  rw [visitedCells, List.mem_append, Bounds.mem_cells, hrow]
  simp only [grid, Bounds.Contains]
  omega

theorem nodup_visitedCells (mapSize : ℕ) : (visitedCells mapSize).Nodup := by
  refine (Bounds.nodup_cells _).append ?_ ?_
  · split
    · exact (nodup_intRange _ _).map fun j j' h => (Prod.mk.inj h).2
    · exact List.nodup_nil
  · intro cell hcell hrow
    -- the row in the middle is not among the first half of the rows
    have hlt : cell.1 ≤ (mapSize : ℤ) / 2 - 1 := (Bounds.mem_cells.mp hcell).1.2
    split at hrow
    · obtain ⟨j, -, rfl⟩ := List.mem_map.mp hrow
      omega
    · cases hrow

/-- Every visited cell has a partner that is not visited. -/
theorem oppositeCell_not_mem_visitedCells {mapSize : ℕ} {cell : Cell}
    (h : cell ∈ visitedCells mapSize) : oppositeCell mapSize cell ∉ visitedCells mapSize := by
  intro h'
  rw [mem_visitedCells] at h h'
  simp only [oppositeCell, grid, Bounds.Contains] at h h'
  omega

/-- Of every pair of opposite cells one is visited, unless it is the centre. -/
theorem mem_visitedCells_or {mapSize : ℕ} {cell : Cell} (hcell : (grid mapSize).Contains cell) :
    cell ∈ visitedCells mapSize ∨ oppositeCell mapSize cell ∈ visitedCells mapSize ↔
      ¬ (mapSize % 2 ≠ 0 ∧ cell = centreCell mapSize) := by
  obtain ⟨i, j⟩ := cell
  simp only [mem_visitedCells, centreCell, Prod.mk.injEq, oppositeCell, grid, Bounds.Contains]
    at hcell ⊢
  omega

/-- **What `FlipMap` does**: every element goes to the opposite cell with its territory flags
exchanged, but the one in the centre of a map of odd side is not touched. -/
theorem flipMap_apply {mapSize : ℕ} (playerMap : PlayerMap) {cell : Cell}
    (hcell : (grid mapSize).Contains cell) :
    flipMap mapSize playerMap cell =
      if mapSize % 2 ≠ 0 ∧ cell = centreCell mapSize then playerMap cell
      else swapTerritory (playerMap (oppositeCell mapSize cell)) := by
  have hfold : (visitedCells mapSize).foldl (flipElements mapSize) playerMap =
      (visitedCells mapSize).foldl (swapPair (oppositeCell mapSize) swapTerritory) playerMap :=
    List.foldl_ext _ _ _ fun g cell' h => flipElements_eq
      (fun heq => oppositeCell_not_mem_visitedCells h (by rwa [heq])) g
  rw [flipMap_eq_foldl, hfold, foldl_swapPair (involutive_oppositeCell mapSize) swapTerritory
    (nodup_visitedCells mapSize) fun _ => oppositeCell_not_mem_visitedCells]
  simp only [mem_visitedCells_or hcell, ite_not]

/-- The half-turn with ownership exchanged, applied to a grid of side `mapSize`. -/
structure IsFlipped (mapSize : ℕ) (playerMap flipped : PlayerMap) : Prop where
  territory : ∀ cell, (grid mapSize).Contains cell →
    (flipped cell).territory = (playerMap (oppositeCell mapSize cell)).enemyTerritory
  enemyTerritory : ∀ cell, (grid mapSize).Contains cell →
    (flipped cell).enemyTerritory = (playerMap (oppositeCell mapSize cell)).territory
  validTerritory : ∀ cell, (grid mapSize).Contains cell →
    (flipped cell).validTerritory = (playerMap (oppositeCell mapSize cell)).validTerritory
  buildTower : ∀ cell, (grid mapSize).Contains cell →
    (flipped cell).buildTower = (playerMap (oppositeCell mapSize cell)).buildTower

theorem oppositeCell_centreCell {mapSize : ℕ} (hodd : mapSize % 2 ≠ 0) :
    oppositeCell mapSize (centreCell mapSize) = centreCell mapSize := by
  simp only [oppositeCell, centreCell, Prod.mk.injEq]
  omega

theorem centreCell_mem_grid {mapSize : ℕ} (hodd : mapSize % 2 ≠ 0) :
    (grid mapSize).Contains (centreCell mapSize) := by
  simp only [grid, centreCell, Bounds.Contains]
  omega

/-- **Flipping twice** restores the grid. -/
theorem flipMap_flipMap {mapSize : ℕ} (playerMap : PlayerMap) {cell : Cell}
    (hcell : (grid mapSize).Contains cell) :
    flipMap mapSize (flipMap mapSize playerMap) cell = playerMap cell := by
  rw [flipMap_apply _ hcell, flipMap_apply _ hcell,
    flipMap_apply _ (oppositeCell_mem_grid hcell)]
  split_ifs with hcentre hopposite
  · rfl
  · obtain ⟨hodd, hcell'⟩ := hopposite
    refine absurd ⟨hodd, ?_⟩ hcentre
    rw [← involutive_oppositeCell mapSize cell, hcell', oppositeCell_centreCell hodd]
  · rw [involutive_oppositeCell mapSize cell, swapTerritory_swapTerritory]

/-- **`FlipMap` is the half-turn with ownership exchanged, twice the identity**, exactly when
the element in the centre, if there is one, has equal territory flags. -/
theorem isFlipped_flipMap_iff (mapSize : ℕ) (playerMap : PlayerMap) :
    (IsFlipped mapSize playerMap (flipMap mapSize playerMap) ∧
      ∀ cell, (grid mapSize).Contains cell →
        flipMap mapSize (flipMap mapSize playerMap) cell = playerMap cell) ↔
      (mapSize % 2 ≠ 0 → (playerMap (centreCell mapSize)).territory =
        (playerMap (centreCell mapSize)).enemyTerritory) := by
  constructor
  · rintro ⟨hflipped, -⟩ hodd
    have hcentre := hflipped.territory _ (centreCell_mem_grid hodd)
    rwa [flipMap_apply _ (centreCell_mem_grid hodd), if_pos ⟨hodd, rfl⟩,
      oppositeCell_centreCell hodd] at hcentre
  · intro heq
    have hswap : ∀ cell, (grid mapSize).Contains cell → flipMap mapSize playerMap cell =
        swapTerritory (playerMap (oppositeCell mapSize cell)) := by
      intro cell hcell
      rw [flipMap_apply _ hcell]
      split_ifs with hcentre
      · obtain ⟨hodd, rfl⟩ := hcentre
        rw [oppositeCell_centreCell hodd, swapTerritory_of_eq (heq hodd)]
      · rfl
    exact ⟨⟨fun cell hcell => by rw [hswap cell hcell]; rfl,
      fun cell hcell => by rw [hswap cell hcell]; rfl,
      fun cell hcell => by rw [hswap cell hcell]; rfl,
      fun cell hcell => by rw [hswap cell hcell]; rfl⟩, fun cell => flipMap_flipMap playerMap⟩

/-- A map of side 5 whose centre belongs to player 1 alone. -/
def sampleCentre : PlayerMap := fun cell => {
  territory := cell = (2, 2)
  enemyTerritory := false
  validTerritory := false
  buildTower := false }

/-- Player 2 is shown the centre as its own. -/
theorem isFlipped_flipMap_sample :
    ¬ (IsFlipped 5 sampleCentre (flipMap 5 sampleCentre) ∧
      ∀ cell, (grid 5).Contains cell → flipMap 5 (flipMap 5 sampleCentre) cell =
        sampleCentre cell) := by
  rintro ⟨hflipped, -⟩
  have hcentre := hflipped.territory (2, 2) (by decide)
  revert hcentre
  decide +kernel

end StateSyncer

end Simulator
