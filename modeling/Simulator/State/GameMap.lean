import Simulator.State.Utilities
import Mathlib.Logic.Function.Basic
import Mathlib.Data.List.ProdSigma
import Mathlib.Data.List.Nodup

/-!
# The map

A square grid of elements, each with a terrain and with one ownership flag for each player.  The
flags of a cell are independent: that no cell belongs to both players is not a matter of the map.

The source keeps the grid in a vector of vectors, built once and never resized.  Here the grid is
a function of the cell; only the cells with both coordinates in `[0, size)` exist
(`GameMap.Contains`), and `getElementByOffset` is the only way the program reaches one.  It divides
an offset by the size of an element and throws for an offset outside the map, so that cells that do
not exist are not read.

## Offsets and cells

Positions are of type `double`, in units of which an element has `elementSize` on each side, while
requests name a cell by its row and column.  The program goes from one to the other with integer
divisions: `cellCentre` is the position a building gets that is asked for at a cell, and the centre
lies in the cell it is the centre of, as half of an odd side is rounded down.

## Rectangles

Territory is marked and given up by loops over rectangles of cells.  `Bounds` is such a rectangle,
with both bounds included, and `Bounds.cells` the list of its cells in the order of the two nested
loops.  Each cell is in the list once (`nodup_cells`), so that a loop that counts references counts
every cell by one.
-/

namespace Simulator

open Foundation

variable {K : Type}

/-- The kinds of terrain. -/
inductive TerrainType where
  | land
  | water
  deriving DecidableEq, Repr

/-- One element of the map. -/
@[ext]
structure MapElement where
  terrainType : TerrainType
  /-- True if the player owns the element. -/
  ownership : PlayerId → Bool

/-- A cell of a grid, by row and column. -/
abbrev Cell := ℤ × ℤ

/-- The map. -/
@[ext]
structure GameMap where
  size : ℕ
  elementSize : ℤ
  elements : Cell → MapElement

namespace GameMap

/-- The cells that exist. -/
def Contains (m : GameMap) (cell : Cell) : Prop :=
  (0 ≤ cell.1 ∧ cell.1 < m.size) ∧ 0 ≤ cell.2 ∧ cell.2 < m.size

instance (m : GameMap) (cell : Cell) : Decidable (m.Contains cell) :=
  inferInstanceAs (Decidable (_ ∧ _))

/-- Whether a player owns a cell. -/
def owns (m : GameMap) (p : PlayerId) (cell : Cell) : Bool := (m.elements cell).ownership p

/-- `SetOwnership` of the element at a cell. -/
def setOwnership (m : GameMap) (cell : Cell) (p : PlayerId) (ownership : Bool) : GameMap :=
  let element := m.elements cell
  { m with
    elements := Function.update m.elements cell
      { element with ownership := Function.update element.ownership p ownership } }

@[simp] theorem size_setOwnership (m : GameMap) (cell : Cell) (p : PlayerId) (b : Bool) :
    (m.setOwnership cell p b).size = m.size := rfl

@[simp] theorem elementSize_setOwnership (m : GameMap) (cell : Cell) (p : PlayerId) (b : Bool) :
    (m.setOwnership cell p b).elementSize = m.elementSize := rfl

section Offset

variable [Field K] [LinearOrder K] [FloorRing K]

/-- `GetElementByOffset`: the cell the offset lies in. -/
def getElementByOffset (m : GameMap) (position : Vector K) : Except Fault Cell :=
  if (Double.ofInt m.size : Double K) ≤ position.x ∨ Double.ofInt m.size ≤ position.y ∨
      position.x < Double.ofInt 0 ∨ position.y < Double.ofInt 0 then
    .error (.outOfRange "`position` out of bounds")
  else .ok (position.x.floor.toInt, position.y.floor.toInt)

omit [LinearOrder K] [FloorRing K] in
/-- The centre of a cell; half of an odd side is rounded down. -/
def cellCentre (m : GameMap) (cell : Cell) : Vector K :=
  Vector.ofInt (m.elementSize * cell.1 + m.elementSize / 2)
    (m.elementSize * cell.2 + m.elementSize / 2)

variable [IsStrictOrderedRing K]

theorem getElementByOffset_ofInt (m : GameMap) (i j : ℤ) :
    m.getElementByOffset (Vector.ofInt i j : Vector K) =
      if m.Contains (i, j) then .ok (i, j)
      else .error (.outOfRange "`position` out of bounds") := by
  have hiff : ((Double.ofInt m.size : Double K) ≤ (Vector.ofInt i j : Vector K).x ∨
      Double.ofInt m.size ≤ (Vector.ofInt i j : Vector K).y ∨
      (Vector.ofInt i j : Vector K).x < Double.ofInt 0 ∨
      (Vector.ofInt i j : Vector K).y < Double.ofInt 0) ↔ ¬ m.Contains (i, j) := by
    simp only [Vector.ofInt, Double.ofInt_le, Double.ofInt_lt, Contains]
    omega
  unfold getElementByOffset
  rw [if_congr hiff rfl rfl, ite_not]
  simp [Vector.ofInt]

end Offset

end GameMap

/-! ## Rectangles of cells -/

/-- The integers from `lower` to `upper`, both included. -/
def intRange (lower upper : ℤ) : List ℤ :=
  (List.range (upper + 1 - lower).toNat).map fun k : ℕ => lower + k

theorem mem_intRange {lower upper i : ℤ} : i ∈ intRange lower upper ↔ lower ≤ i ∧ i ≤ upper := by
  simp only [intRange, List.mem_map, List.mem_range]
  constructor
  · rintro ⟨k, hk, rfl⟩
    omega
  · rintro ⟨h₁, h₂⟩
    exact ⟨(i - lower).toNat, by omega, by omega⟩

theorem nodup_intRange (lower upper : ℤ) : (intRange lower upper).Nodup :=
  List.nodup_range.map fun a b h => by simpa using h

/-- A rectangle of cells, by its lower and upper bound on each axis. -/
structure Bounds where
  lowerX : ℤ
  upperX : ℤ
  lowerY : ℤ
  upperY : ℤ
  deriving DecidableEq, Repr

namespace Bounds

/-- The cell lies between the bounds. -/
def Contains (b : Bounds) (cell : Cell) : Prop :=
  (b.lowerX ≤ cell.1 ∧ cell.1 ≤ b.upperX) ∧ b.lowerY ≤ cell.2 ∧ cell.2 ≤ b.upperY

instance (b : Bounds) (cell : Cell) : Decidable (b.Contains cell) :=
  inferInstanceAs (Decidable (_ ∧ _))

/-- The cells of a rectangle, in the order the two nested loops visit them. -/
def cells (b : Bounds) : List Cell :=
  (intRange b.lowerX b.upperX).product (intRange b.lowerY b.upperY)

theorem mem_cells {b : Bounds} {cell : Cell} : cell ∈ b.cells ↔ b.Contains cell := by
  obtain ⟨i, j⟩ := cell
  exact List.mem_product.trans (and_congr mem_intRange mem_intRange)

theorem nodup_cells (b : Bounds) : b.cells.Nodup :=
  (nodup_intRange _ _).product (nodup_intRange _ _)

end Bounds

end Simulator
