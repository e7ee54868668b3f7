import Simulator.Foundation.SquareRoots
import Simulator.State.OpenLand
import Simulator.State.Routes

/-!
# Positions of the planner

`GetNextPosition` goes straight towards the destination if that is at most one cell away,
and else towards the centre of the next cell, by as much as the speed says; the position is
then rounded up and bounded.  The step is not cut off where it passes a centre, and the upper
bound is the side of the map itself, at which there is no cell any more.

So a step leaves the map by rounding or by the bound exactly if it goes further than one
below the side.

## What is to be shown

`KeepsOnMap` says of a call that there is an element at the position it answers, and that the next
call from there, wherever to, does not throw.  That is what a caller relies on that feeds the
answer back.  `ShortOfSide` is the condition on the arguments: where the step ends, before the
coordinates are rounded, is at most one below the sides of the map.  `keepsOnMap_iff` says that the
two are the same on a map of land.

## How

On land the cell that comes next is known without a search, and so `getNextPosition_num` can answer
in numbers: it heads for the destination, or for the centre of the next cell (`aim`), and the step
is the speed along the line to that.  Rounding up takes a coordinate that is more than one below the
side to an integer below the side, and any other one to the side or beyond, from where the bound
takes it to the side (`bounded_lt_iff`).  The rest is about the two coordinates one by one.
-/

namespace Simulator

open Foundation

variable {K : Type} [Field K] [LinearOrder K] [FloorRing K]

/-- `GetElementByXY`. -/
def GameMap.getElementByXY (m : GameMap) (position : Vector K) : Except Fault Cell :=
  let eltSize : Double K := Double.ofInt m.elementSize
  if Double.ofInt m.size ≤ position.x / eltSize ∨ Double.ofInt m.size ≤ position.y / eltSize ∨
      position.x < Double.ofInt 0 ∨ position.y < Double.ofInt 0 then
    .error (.outOfRange "`position` out of bounds")
  else .ok ((position.x / eltSize).floor.toInt, (position.y / eltSize).floor.toInt)

/-- The length of the sides of the map. -/
def GameMap.side (m : GameMap) : ℤ := m.elementSize * m.size

/-- A position of the map. -/
def GameMap.HasPosition (m : GameMap) (v : Vector K) : Prop :=
  (.ofInt 0 ≤ v.x ∧ v.x < .ofInt m.side) ∧ .ofInt 0 ≤ v.y ∧ v.y < .ofInt m.side

instance (m : GameMap) (v : Vector K) : Decidable (m.HasPosition v) :=
  inferInstanceAs (Decidable (_ ∧ _))

namespace PathPlanner

/-- The bounds checks on one coordinate. -/
def bounded (planner : PathPlanner) (a : Double K) : Double K :=
  ((Double.ofInt (planner.map.elementSize * planner.map.size)).min
    ((Double.ofInt 0).max a).ceil).ceil

/-- `GetNextPosition`. -/
def getNextPosition [SquareRoot K] (planner : PathPlanner) (source dest : Vector K)
    (speed : ℤ) : Except Fault (Vector K) := do
  let elementSize := planner.map.elementSize
  let newPosition ←
    if source.distance dest ≤ Double.ofInt speed then pure dest
    else do
      let positionNode : Vector K := ⟨(source.x / Double.ofInt elementSize).floor,
        (source.y / Double.ofInt elementSize).floor⟩
      let destNode : Vector K := ⟨(dest.x / Double.ofInt elementSize).floor,
        (dest.y / Double.ofInt elementSize).floor⟩
      let nextNode ← planner.getNextNode positionNode destNode
      let nextDest : Vector K :=
        if (Vector.ofInt nextNode.1 nextNode.2).Equal destNode then dest
        else
          ⟨Double.floor (Double.ofInt nextNode.1 * Double.ofInt elementSize +
              Double.ofInt (elementSize / 2)),
            Double.floor (Double.ofInt nextNode.2 * Double.ofInt elementSize +
              Double.ofInt (elementSize / 2))⟩
      let directionVector := nextDest - source
      let unitVector := directionVector.divide directionVector.magnitude
      pure (source + unitVector.scale (Double.ofInt speed))
  return ⟨planner.bounded newPosition.x, planner.bounded newPosition.y⟩

variable {m : GameMap}

/-! ## Coordinates -/

section Coordinates

variable [IsStrictOrderedRing K]

/-- What the bounds checks make of a number. -/
theorem bounded_num (m : GameMap) (a : K) :
    (construct m).bounded (.num a) = .ofInt (min m.side ⌈max 0 a⌉) := by
  have hmax : (Double.ofInt 0 : Double K).max (.num a) = .num (max 0 a) := by
    by_cases ha : 0 < a
    · rw [max_eq_right ha.le, Double.max, if_pos (by simpa [Double.ofInt] using ha)]
    · rw [max_eq_left (not_lt.mp ha), Double.max, if_neg (by simpa [Double.ofInt] using ha)]
      simp [Double.ofInt]
  have hmin : ∀ i j : ℤ, (Double.ofInt i : Double K).min (.ofInt j) = .ofInt (min i j) := by
    intro i j
    by_cases hij : j < i
    · rw [min_eq_right hij.le, Double.min, if_pos (Double.ofInt_lt.mpr hij)]
    · rw [min_eq_left (not_lt.mp hij), Double.min, if_neg (mt Double.ofInt_lt.mp hij)]
  show ((Double.ofInt m.side).min ((Double.ofInt 0).max (.num a)).ceil).ceil = _
  rw [hmax, Double.ceil, hmin, Double.ceil_ofInt]

/-- **A coordinate is on the map if it was at most one below the side.** -/
theorem bounded_lt_iff (hside : 0 < m.side) (a : K) :
    (.ofInt 0 ≤ (construct m).bounded (.num a) ∧
      (construct m).bounded (.num a) < .ofInt m.side) ↔ a ≤ (m.side - 1 : ℤ) := by
  have hnonneg : 0 ≤ ⌈max 0 a⌉ := Int.ceil_nonneg (le_max_left 0 a)
  have hside' : (0 : K) ≤ (m.side - 1 : ℤ) := by exact_mod_cast Int.le_sub_one_of_lt hside
  have hceil : ⌈max 0 a⌉ ≤ m.side - 1 ↔ a ≤ (m.side - 1 : ℤ) := by
    rw [Int.ceil_le, max_le_iff]
    exact and_iff_right hside'
  rw [bounded_num, Double.ofInt_le, Double.ofInt_lt, ← hceil]
  omega

omit [FloorRing K] [IsStrictOrderedRing K] in
theorem hasPosition_num (m : GameMap) (v : Vector K) : m.HasPosition v ↔
    ∃ x y : K, v = ⟨.num x, .num y⟩ ∧ (0 ≤ x ∧ x < m.side) ∧ 0 ≤ y ∧ y < m.side := by
  have hnum : ∀ a : K, ((.ofInt 0 : Double K) ≤ .num a ∧ (.num a : Double K) < .ofInt m.side) ↔
      0 ≤ a ∧ a < m.side := fun a => by simp [Double.ofInt]
  constructor
  · obtain ⟨a, b⟩ := v
    rintro ⟨ha, hb⟩
    cases a with
    | nan => exact ha.1.elim
    | num x =>
      cases b with
      | nan => exact hb.1.elim
      | num y => exact ⟨x, y, rfl, (hnum x).mp ha, (hnum y).mp hb⟩
  · rintro ⟨x, y, rfl, hx, hy⟩
    exact ⟨(hnum x).mpr hx, (hnum y).mpr hy⟩

theorem elementSize_pos (hside : 0 < m.side) : 0 < m.elementSize :=
  lt_of_not_ge fun hle =>
    (mul_nonpos_of_nonpos_of_nonneg hle (Int.natCast_nonneg m.size)).not_gt hside

omit [IsStrictOrderedRing K] in
theorem div_elementSize (hside : 0 < m.side) (a : K) :
    (Double.num a / Double.ofInt m.elementSize : Double K) = .num (a / m.elementSize) :=
  if_neg (by exact_mod_cast (elementSize_pos hside).ne')

theorem floor_div_mem {a : K} (h : 0 ≤ a ∧ a < m.side) :
    0 ≤ ⌊a / (m.elementSize : K)⌋ ∧ ⌊a / (m.elementSize : K)⌋ < m.size := by
  have hside : 0 < m.side := by exact_mod_cast h.1.trans_lt h.2
  have hpos : (0 : K) < m.elementSize := by exact_mod_cast elementSize_pos hside
  refine ⟨Int.floor_nonneg.mpr (div_nonneg h.1 hpos.le), ?_⟩
  rw [Int.floor_lt, div_lt_iff₀ hpos]
  refine h.2.trans_eq ?_
  rw [GameMap.side]
  push_cast
  ring

/-- The cell of a position. -/
def nodeOf (m : GameMap) (x y : K) : Cell := cellOf (x / m.elementSize) (y / m.elementSize)

theorem contains_nodeOf {x y : K} (hx : 0 ≤ x ∧ x < m.side) (hy : 0 ≤ y ∧ y < m.side) :
    m.Contains (nodeOf m x y) := ⟨floor_div_mem hx, floor_div_mem hy⟩

/-- The map has an element at each of its positions. -/
theorem getElementByXY_num {x y : K} (hx : 0 ≤ x ∧ x < m.side) (hy : 0 ≤ y ∧ y < m.side) :
    m.getElementByXY (⟨.num x, .num y⟩ : Vector K) = .ok (nodeOf m x y) := by
  have hside : 0 < m.side := by exact_mod_cast hx.1.trans_lt hx.2
  have hbelow : ∀ a : K, 0 ≤ a ∧ a < m.side →
      ¬ (Double.ofInt m.size : Double K) ≤ .num (a / m.elementSize) := by
    intro a ha hle
    have hle' : ((m.size : ℤ) : K) ≤ a / m.elementSize := hle
    exact absurd (Int.le_floor.mpr hle') (not_le.mpr (floor_div_mem ha).2)
  have hpos : ∀ a : K, 0 ≤ a → ¬ (Double.num a : Double K) < .ofInt 0 := fun a ha => by
    simpa [Double.ofInt] using ha
  simp only [GameMap.getElementByXY, div_elementSize hside]
  rw [if_neg]
  · simp [Double.floor, nodeOf, cellOf]
  · rintro (h | h | h | h)
    · exact hbelow x hx h
    · exact hbelow y hy h
    · exact hpos x hx.1 h
    · exact hpos y hy.1 h

end Coordinates

/-! ## Steps -/

section Steps

variable [SquareRoot K]

/-- The distance between two positions. -/
def gap (x y x' y' : K) : K := SquareRoot.sqrt ((x' - x) * (x' - x) + (y' - y) * (y' - y))

/-- Where a soldier at the first position heads for on its way to the second one. -/
def aim (m : GameMap) (x y x' y' : K) : K × K :=
  let next := towards (nodeOf m x' y') (nodeOf m x y)
  if next = nodeOf m x' y' then (x', y')
  else (next.1 * m.elementSize + (m.elementSize / 2 : ℤ),
    next.2 * m.elementSize + (m.elementSize / 2 : ℤ))

/-- Where its step ends, before the coordinates are rounded. -/
def stepEnd (m : GameMap) (x y x' y' : K) (speed : ℤ) : K × K :=
  if gap x y x' y' ≤ speed then (x', y')
  else
    let (u, v) := aim m x y x' y'
    (x + (u - x) / gap x y u v * speed, y + (v - y) / gap x y u v * speed)

variable [IsStrictOrderedRing K] {x y x' y' : K}

omit [FloorRing K] in
theorem distance_num (x y x' y' : K) :
    Vector.distance (⟨.num x, .num y⟩ : Vector K) ⟨.num x', .num y'⟩ = .num (gap x y x' y') := by
  have hsame : (x - x') * (x - x') + (y - y') * (y - y') =
      (x' - x) * (x' - x) + (y' - y) * (y' - y) := by ring
  show (Double.num ((x - x') * (x - x') + (y - y') * (y - y'))).sqrt = _
  rw [hsame]
  exact if_neg (not_lt.mpr (add_nonneg (mul_self_nonneg _) (mul_self_nonneg _)))

omit [FloorRing K] in
theorem magnitude_num (x y x' y' : K) :
    ((⟨.num x', .num y'⟩ : Vector K) - ⟨.num x, .num y⟩).magnitude = .num (gap x y x' y') :=
  if_neg (not_lt.mpr (add_nonneg (mul_self_nonneg _) (mul_self_nonneg _)))

omit [SquareRoot K] in
/-- The centre of a cell lies in it. -/
theorem nodeOf_centre (hside : 0 < m.side) (cell : Cell) :
    nodeOf m (cell.1 * m.elementSize + (m.elementSize / 2 : ℤ) : K)
      (cell.2 * m.elementSize + (m.elementSize / 2 : ℤ)) = cell := by
  have hpos := elementSize_pos hside
  have hpos' : (0 : K) < m.elementSize := by exact_mod_cast hpos
  have hfloor : ∀ i : ℤ,
      ⌊(i * m.elementSize + (m.elementSize / 2 : ℤ) : K) / m.elementSize⌋ = i := by
    intro i
    rw [Int.floor_eq_iff, le_div_iff₀ hpos', div_lt_iff₀ hpos']
    constructor
    · exact_mod_cast (by omega : i * m.elementSize ≤ i * m.elementSize + m.elementSize / 2)
    · have hlt : i * m.elementSize + m.elementSize / 2 < (i + 1) * m.elementSize := by
        rw [add_mul, one_mul]
        omega
      exact_mod_cast hlt
  exact Prod.ext (hfloor cell.1) (hfloor cell.2)

/-- There is some way to go to where a soldier heads for. -/
theorem gap_aim_pos [PositiveSquareRoot K] (hside : 0 < m.side) {speed : ℤ} (hspeed : 0 ≤ speed)
    (hfar : ¬ gap x y x' y' ≤ speed) :
    0 < gap x y (aim m x y x' y').1 (aim m x y x' y').2 := by
  have hcast : (0 : K) ≤ speed := by exact_mod_cast hspeed
  by_cases hnext : towards (nodeOf m x' y') (nodeOf m x y) = nodeOf m x' y'
  · simp only [aim, if_pos hnext]
    exact hcast.trans_lt (not_le.mp hfar)
  · -- the centre lies in another cell
    simp only [aim, if_neg hnext]
    set next := towards (nodeOf m x' y') (nodeOf m x y)
    refine PositiveSquareRoot.sqrt_pos _ ((add_nonneg (mul_self_nonneg _)
      (mul_self_nonneg _)).lt_of_ne ?_)
    intro hzero
    obtain ⟨hx, hy⟩ := (mul_self_add_mul_self_eq_zero).mp hzero.symm
    have hsame : nodeOf m x y = next := by
      have hcentre := nodeOf_centre (K := K) hside next
      rwa [sub_eq_zero.mp hx, sub_eq_zero.mp hy] at hcentre
    have hstays : towards (nodeOf m x' y') next = next := by
      conv_lhs => rw [← hsame]
    by_cases hend : next = nodeOf m x' y'
    · exact hnext hend
    · have := apart_towards hend
      rw [hstays] at this
      omega

omit [SquareRoot K] in
theorem nextDest_num (m : GameMap) (x y x' y' : K) :
    let next := towards (nodeOf m x' y') (nodeOf m x y)
    (if (Vector.ofInt next.1 next.2 : Vector K).Equal
        (Vector.ofInt (nodeOf m x' y').1 (nodeOf m x' y').2) then
      (⟨.num x', .num y'⟩ : Vector K)
    else
      ⟨Double.floor (Double.ofInt next.1 * Double.ofInt m.elementSize +
          Double.ofInt (m.elementSize / 2)),
        Double.floor (Double.ofInt next.2 * Double.ofInt m.elementSize +
          Double.ofInt (m.elementSize / 2))⟩) =
      ⟨.num (aim m x y x' y').1, .num (aim m x y x' y').2⟩ := by
  intro next
  have hequal : (Vector.ofInt next.1 next.2 : Vector K).Equal
      (Vector.ofInt (nodeOf m x' y').1 (nodeOf m x' y').2) ↔ next = nodeOf m x' y' := by
    rw [Vector.Equal, Vector.ofInt, Vector.ofInt, Double.equal_ofInt, Double.equal_ofInt,
      Prod.ext_iff]
  by_cases hend : next = nodeOf m x' y'
  · rw [if_pos (hequal.mpr hend), aim, if_pos hend]
  · rw [if_neg (mt hequal.mp hend), aim, if_neg hend]
    simp only [Double.ofInt_mul, Double.ofInt_add, Double.floor_ofInt]
    simp [Double.ofInt, next]

omit [FloorRing K] [SquareRoot K] [IsStrictOrderedRing K] in
theorem step_num {x y u v g : K} (hg : g ≠ 0) (speed : ℤ) :
    (⟨.num x, .num y⟩ : Vector K) + (((⟨.num u, .num v⟩ : Vector K) - ⟨.num x, .num y⟩).divide
      (.num g)).scale (Double.ofInt speed) =
      ⟨.num (x + (u - x) / g * speed), .num (y + (v - y) / g * speed)⟩ := by
  have hunit : ∀ a : K, (Double.num a / Double.num g : Double K) = .num (a / g) := fun a =>
    if_neg hg
  show (⟨_ + (Double.num (u - x) / Double.num g) * _,
    _ + (Double.num (v - y) / Double.num g) * _⟩ : Vector K) = _
  rw [hunit, hunit]
  rfl

/-- **What the planner answers on open land.** -/
theorem getNextPosition_num [PositiveSquareRoot K] (hland : AllLand m)
    (hx : 0 ≤ x ∧ x < m.side) (hy : 0 ≤ y ∧ y < m.side) (hx' : 0 ≤ x' ∧ x' < m.side)
    (hy' : 0 ≤ y' ∧ y' < m.side) {speed : ℤ} (hspeed : 0 ≤ speed) :
    (construct m).getNextPosition (⟨.num x, .num y⟩ : Vector K) ⟨.num x', .num y'⟩ speed =
      .ok ⟨(construct m).bounded (.num (stepEnd m x y x' y' speed).1),
        (construct m).bounded (.num (stepEnd m x y x' y' speed).2)⟩ := by
  have hside : 0 < m.side := by exact_mod_cast hx.1.trans_lt hx.2
  rw [getNextPosition, distance_num]
  by_cases hnear : gap x y x' y' ≤ speed
  · rw [if_pos (by exact hnear), stepEnd, if_pos hnear]
    rfl
  · rw [if_neg (by exact hnear), stepEnd, if_neg hnear]
    have hsource := contains_nodeOf hx hy
    have hdest := contains_nodeOf hx' hy'
    have hnode : ∀ a b : K, (⟨(Double.num a / Double.ofInt m.elementSize).floor,
        (Double.num b / Double.ofInt m.elementSize).floor⟩ : Vector K) =
          Vector.ofInt (nodeOf m a b).1 (nodeOf m a b).2 := fun a b => by
      rw [div_elementSize hside, div_elementSize hside]
      rfl
    have hnext := getNextNode_ofInt (K := K) ⟨hsource, hland _ hsource⟩ ⟨hdest, hland _ hdest⟩
    rw [computeAllPathsFromNode_allLand hland hdest hsource] at hnext
    simp only [map_construct, hnode, hnext, ok_bind]
    rw [nextDest_num, magnitude_num, step_num (gap_aim_pos hside hspeed hnear).ne']
    rfl

end Steps

/-! ## Soldiers on the map -/

section OnMap

variable [SquareRoot K]

/-- A call answers a position of the map: there is an element at it, and the next call from
there, wherever to, does not throw. -/
def KeepsOnMap (m : GameMap) (source dest : Vector K) (speed : ℤ) : Prop :=
  ∃ position, (construct m).getNextPosition source dest speed = .ok position ∧
    m.HasPosition position ∧ (∃ cell, m.getElementByXY position = .ok cell) ∧
    ∀ dest', m.HasPosition dest' → ∀ speed', 0 ≤ speed' →
      ∃ position', (construct m).getNextPosition position dest' speed' = .ok position'

/-- The step does not go further than one below the sides of the map: not to the destination
if that is within reach, and otherwise not by the speed along the line to `aim`. -/
def ShortOfSide (m : GameMap) (x y x' y' : K) (speed : ℤ) : Prop :=
  let last : K := (m.side - 1 : ℤ)
  if gap x y x' y' ≤ speed then x' ≤ last ∧ y' ≤ last
  else
    let (u, v) := aim m x y x' y'
    speed * (u - x) ≤ (last - x) * gap x y u v ∧ speed * (v - y) ≤ (last - y) * gap x y u v

instance (m : GameMap) (x y x' y' : K) (speed : ℤ) : Decidable (ShortOfSide m x y x' y' speed) := by
  unfold ShortOfSide
  infer_instance

variable [IsStrictOrderedRing K] [PositiveSquareRoot K] {x y x' y' : K}

theorem stepEnd_le_iff (hside : 0 < m.side) {speed : ℤ} (hspeed : 0 ≤ speed) :
    ((stepEnd m x y x' y' speed).1 ≤ (m.side - 1 : ℤ) ∧
      (stepEnd m x y x' y' speed).2 ≤ (m.side - 1 : ℤ)) ↔ ShortOfSide m x y x' y' speed := by
  by_cases hnear : gap x y x' y' ≤ speed
  · rw [stepEnd, if_pos hnear, ShortOfSide, if_pos hnear]
  · have hpos := gap_aim_pos (m := m) hside hspeed hnear
    have haxis : ∀ a b : K,
        a + (b - a) / gap x y (aim m x y x' y').1 (aim m x y x' y').2 * speed ≤
            (m.side - 1 : ℤ) ↔
          speed * (b - a) ≤ ((m.side - 1 : ℤ) - a) *
            gap x y (aim m x y x' y').1 (aim m x y x' y').2 := fun a b => by
      rw [div_mul_eq_mul_div, ← le_sub_iff_add_le', div_le_iff₀ hpos, mul_comm (b - a)]
    rw [stepEnd, if_neg hnear, ShortOfSide, if_neg hnear]
    exact and_congr (haxis x _) (haxis y _)

/-- **When a step stays on the map.** -/
theorem keepsOnMap_iff (hland : AllLand m) (hsource : m.HasPosition (⟨.num x, .num y⟩ : Vector K))
    (hdest : m.HasPosition (⟨.num x', .num y'⟩ : Vector K)) {speed : ℤ} (hspeed : 0 ≤ speed) :
    KeepsOnMap m (⟨.num x, .num y⟩ : Vector K) ⟨.num x', .num y'⟩ speed ↔
      ShortOfSide m x y x' y' speed := by
  have hrange : ∀ {a b : K}, m.HasPosition (⟨.num a, .num b⟩ : Vector K) →
      (0 ≤ a ∧ a < m.side) ∧ 0 ≤ b ∧ b < m.side := by
    intro a b h
    obtain ⟨a', b', heq, hrange⟩ := (hasPosition_num m _).mp h
    simp only [Vector.mk.injEq, Double.num.injEq] at heq
    rwa [heq.1, heq.2]
  obtain ⟨hx, hy⟩ := hrange hsource
  obtain ⟨hx', hy'⟩ := hrange hdest
  have hside : 0 < m.side := by exact_mod_cast hx.1.trans_lt hx.2
  rw [← stepEnd_le_iff hside hspeed, ← bounded_lt_iff hside, ← bounded_lt_iff hside, KeepsOnMap,
    getNextPosition_num hland hx hy hx' hy' hspeed]
  constructor
  · rintro ⟨position, hanswer, hposition, -⟩
    rw [← Except.ok.inj hanswer] at hposition
    exact hposition
  · intro hposition
    -- what is on the map is accepted
    refine ⟨_, rfl, hposition, ?_⟩
    have hposition' : m.HasPosition (⟨(construct m).bounded (.num (stepEnd m x y x' y' speed).1),
        (construct m).bounded (.num (stepEnd m x y x' y' speed).2)⟩ : Vector K) := hposition
    obtain ⟨a, b, heq, ha, hb⟩ := (hasPosition_num m _).mp hposition'
    rw [heq]
    refine ⟨⟨_, getElementByXY_num ha hb⟩, ?_⟩
    intro dest' hdest' speed' hspeed'
    obtain ⟨a', b', rfl, ha', hb'⟩ := (hasPosition_num m dest').mp hdest'
    exact ⟨_, getNextPosition_num hland ha hb ha' hb' hspeed'⟩

end OnMap

/-- A map of four cells, all of them land. -/
def meadow : GameMap := ⟨2, 2, fun _ => ⟨.land, fun _ => false⟩⟩

/-- A step towards a corner cell that is not within reach. -/
theorem keepsOnMap_iff_sample :
    KeepsOnMap meadow (⟨.num (1 / 2), .num 1⟩ : Vector ℚ) ⟨.num 3, .num (7 / 2)⟩ 2 :=
  (keepsOnMap_iff (fun _ _ => rfl) (by decide +kernel) (by decide +kernel) (by decide)).mpr
    (by decide +kernel)

/-- Half a unit before the side, the position that is within reach is rounded up to it. -/
theorem not_keepsOnMap_sample :
    ¬ KeepsOnMap meadow (⟨.num 1, .num 1⟩ : Vector ℚ) ⟨.num (7 / 2), .num 1⟩ 3 := by
  have hanswer : (construct meadow).getNextPosition (⟨.num 1, .num 1⟩ : Vector ℚ)
      ⟨.num (7 / 2), .num 1⟩ 3 = .ok (Vector.ofInt 4 1) := by
    decide +kernel
  have hout : ¬ meadow.HasPosition (Vector.ofInt 4 1 : Vector ℚ) := by decide +kernel
  rintro ⟨position, hposition, hinside, -⟩
  rw [hanswer, Except.ok.injEq] at hposition
  exact hout (hposition ▸ hinside)

end PathPlanner

end Simulator
