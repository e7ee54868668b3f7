import Simulator.Foundation.BreadthFirst
import Simulator.State.GameMap
import Mathlib.Combinatorics.SimpleGraph.Metric

/-!
# The path planner

`PathPlanner` searches the grid from every cell at its construction and keeps, for every
destination and every cell, the cell that comes next on the way.  Nodes are vectors with
integer coordinates in the source and cells here; the matrices are functions of the cell.

A cell has neighbours if it is land itself, whatever they are.  So water cells enter the
queue of a search, but nothing is found from them, and they stand at the end of a way if
at all.

## What the matrices hold

Each matrix is filled with the default vector before its search, and a search that does not get to
a cell leaves that entry as it was.  The default vector is `(0, 0)`, which is a cell.  So an entry
does not tell whether the cell was reached, and `computeAllPathsFromNode_spec` says both: from a
cell that is joined to the destination the entry is a cell beside it and nearer by one, and the
entries of other land are the default.

Ways over land are walks in a graph of Mathlib's (`GameMap.landGraph`), so that being joined and
distances are notions that have been studied elsewhere; the ways of the search are compared with its
walks.

## Reading them

`GetNextNode` takes positions, which need not be integers, checks their bounds and looks at the
terrain at both ends.  It throws for a position outside the map and for one on other terrain than
land, and otherwise looks up the entry of the two cells the positions lie in.
-/

namespace Simulator

open Foundation

/-! ## The grid -/

namespace GameMap

/-- The cells of the map. -/
def nodes (m : GameMap) : List Cell := Bounds.cells ⟨0, m.size - 1, 0, m.size - 1⟩

theorem mem_nodes {m : GameMap} {cell : Cell} : cell ∈ m.nodes ↔ m.Contains cell := by
  rw [nodes, Bounds.mem_cells]
  show (0 ≤ cell.1 ∧ cell.1 ≤ (m.size : ℤ) - 1) ∧ 0 ≤ cell.2 ∧ cell.2 ≤ (m.size : ℤ) - 1 ↔
    (0 ≤ cell.1 ∧ cell.1 < m.size) ∧ 0 ≤ cell.2 ∧ cell.2 < m.size
  omega

/-- A cell of the map that is land. -/
def IsLand (m : GameMap) (cell : Cell) : Prop :=
  m.Contains cell ∧ (m.elements cell).terrainType = .land

instance (m : GameMap) (cell : Cell) : Decidable (m.IsLand cell) :=
  inferInstanceAs (Decidable (_ ∧ _))

end GameMap

/-- The two cells have a side in common. -/
def Cell.Beside (a b : Cell) : Prop :=
  a.1 = b.1 ∧ (b.2 = a.2 + 1 ∨ b.2 = a.2 - 1) ∨ a.2 = b.2 ∧ (b.1 = a.1 + 1 ∨ b.1 = a.1 - 1)

instance (a b : Cell) : Decidable (Cell.Beside a b) := inferInstanceAs (Decidable (_ ∨ _))

theorem Cell.Beside.symm {a b : Cell} (h : Cell.Beside a b) : Cell.Beside b a := by
  unfold Cell.Beside at *
  omega

theorem Cell.not_beside_self (a : Cell) : ¬ Cell.Beside a a := by
  unfold Cell.Beside
  omega

/-- The land, with its cells joined to those they have a side in common with. -/
def GameMap.landGraph (m : GameMap) : SimpleGraph Cell where
  Adj a b := m.IsLand a ∧ m.IsLand b ∧ Cell.Beside a b
  symm := ⟨fun _ _ h => ⟨h.2.1, h.1, h.2.2.symm⟩⟩
  loopless := ⟨fun a h => Cell.not_beside_self a h.2.2⟩

/-! ## The planner -/

/-- A planner for a map. -/
structure PathPlanner where
  map : GameMap
  mapSize : ℤ
  adjacencyList : Cell → List Cell
  /-- The next cell, by destination and by source. -/
  paths : Cell → Cell → Cell

namespace PathPlanner

/-- The four directions. -/
def relNeighbors : List Cell := [(0, 1), (0, -1), (1, 0), (-1, 0)]

/-- `FindNeighbors`.  The terrain that is looked at is that of the cell, not of the
neighbour. -/
def findNeighbors (map : GameMap) (elem : Cell) : List Cell :=
  (relNeighbors.map fun neighborPos => (elem.1 + neighborPos.1, elem.2 + neighborPos.2)).filter
    fun neighbor => map.Contains neighbor ∧ (map.elements elem).terrainType = .land

/-- The entries of the adjacency list; those of water stay empty. -/
def adjacency (map : GameMap) (cell : Cell) : List Cell :=
  match (map.elements cell).terrainType with
  | .land => findNeighbors map cell
  | .water => []

/-- `ComputeAllPathsFromNode`: the matrix of next nodes is filled with the default vector
first. -/
def computeAllPathsFromNode (map : GameMap) (adjacencyList : Cell → List Cell) (node : Cell) :
    Cell → Cell :=
  (Search.search adjacencyList map.nodes.length (Search.start node fun _ => (0, 0))).next

/-- The constructor. -/
def construct (map : GameMap) : PathPlanner where
  map := map
  mapSize := map.size
  adjacencyList := adjacency map
  paths := computeAllPathsFromNode map (adjacency map)

@[simp] theorem map_construct (map : GameMap) : (construct map).map = map := rfl

variable {K : Type} [Field K] [LinearOrder K] [FloorRing K]

/-- The bounds check on a node. -/
def OutOfRange (planner : PathPlanner) (node : Vector K) : Prop :=
  node.x < Double.ofInt 0 ∨ node.y < Double.ofInt 0 ∨ Double.ofInt planner.mapSize ≤ node.x ∨
    Double.ofInt planner.mapSize ≤ node.y

instance (planner : PathPlanner) (node : Vector K) : Decidable (planner.OutOfRange node) :=
  inferInstanceAs (Decidable (_ ∨ _))

/-- `GetNextNode`. -/
def getNextNode (planner : PathPlanner) (source destination : Vector K) : Except Fault Cell :=
  if planner.OutOfRange source then .error (.outOfRange "Source node out of range")
  else if planner.OutOfRange destination then
    .error (.outOfRange "Destination node out of range")
  else do
    let sourceElement ← planner.map.getElementByOffset source
    if (planner.map.elements sourceElement).terrainType ≠ .land then
      throw (.outOfRange "Source node is of invalid terrain type")
    else
      let destinationElement ← planner.map.getElementByOffset destination
      if (planner.map.elements destinationElement).terrainType ≠ .land then
        throw (.outOfRange "Destination node is of invalid terrain type")
      else
        return planner.paths (destination.x.toInt, destination.y.toInt)
          (source.x.toInt, source.y.toInt)

/-! ## What a search finds -/

section Search

variable {m : GameMap}

theorem mem_adjacency {a b : Cell} : b ∈ adjacency m a ↔
    (m.elements a).terrainType = .land ∧ m.Contains b ∧ Cell.Beside a b := by
  have hbeside : b ∈ relNeighbors.map (fun r => (a.1 + r.1, a.2 + r.2)) ↔ Cell.Beside a b := by
    obtain ⟨i, j⟩ := a
    obtain ⟨i', j'⟩ := b
    simp only [relNeighbors, List.map_cons, List.map_nil, List.mem_cons, Prod.mk.injEq,
      List.not_mem_nil, or_false, Cell.Beside]
    omega
  unfold adjacency
  cases hterrain : (m.elements a).terrainType with
  | land =>
    simp only [findNeighbors, List.mem_filter, hbeside, hterrain, and_true, decide_eq_true_eq,
      true_and]
    exact and_comm
  | water => simp

theorem contains_of_steps {n : ℕ} {a b : Cell} (ha : m.Contains a)
    (h : Steps (adjacency m) n a b) : m.Contains b := by
  cases h with
  | refl => exact ha
  | tail _ hc => exact (mem_adjacency.mp hc).2.1

/-- A way from land to land is over land. -/
theorem exists_walk_of_steps {n : ℕ} {a b : Cell} (ha : m.IsLand a) (hb : m.IsLand b)
    (h : Steps (adjacency m) n a b) : ∃ walk : m.landGraph.Walk a b, walk.length = n := by
  induction h with
  | refl => exact ⟨.nil, rfl⟩
  | @tail n a b c hsteps hc ih =>
    obtain ⟨hterrain, -, hbeside⟩ := mem_adjacency.mp hc
    have hland : m.IsLand b := ⟨contains_of_steps ha.1 hsteps, hterrain⟩
    obtain ⟨walk, hlength⟩ := ih ha hland
    have hadj : m.landGraph.Adj b c := ⟨hland, hb, hbeside⟩
    exact ⟨walk.concat hadj, by rw [SimpleGraph.Walk.length_concat, hlength]⟩

theorem steps_of_walk {a b : Cell} (walk : m.landGraph.Walk a b) :
    Steps (adjacency m) walk.length a b := by
  induction walk with
  | nil => exact .refl _
  | @cons a b c hadj walk ih =>
    obtain ⟨hland, hland', hbeside⟩ := hadj
    exact ih.head (mem_adjacency.mpr ⟨hland.2, hland'.1, hbeside⟩)

/-- **The matrix of a destination.**  From a cell that is joined to it, the next cell is
beside it and nearer by one; the entries of other land are left at the default. -/
theorem computeAllPathsFromNode_spec {d : Cell} (hd : m.IsLand d) :
    let next := computeAllPathsFromNode m (adjacency m) d
    next d = d ∧
      (∀ v, m.IsLand v → v ≠ d → m.landGraph.Reachable d v → m.landGraph.Adj (next v) v ∧
        m.landGraph.Reachable d (next v) ∧
        m.landGraph.dist d v = m.landGraph.dist d (next v) + 1) ∧
      ∀ v, m.IsLand v → ¬ m.landGraph.Reachable d v → next v = (0, 0) := by
  have hnodes : ∀ u, ∀ v ∈ adjacency m u, v ∈ m.nodes :=
    fun u v hv => GameMap.mem_nodes.mpr (mem_adjacency.mp hv).2.1
  obtain ⟨level, -, hlayers, hleast⟩ := Search.search_spec hnodes (GameMap.mem_nodes.mpr hd.1)
    fun _ => ((0, 0) : Cell)
  set s := Search.search (adjacency m) m.nodes.length (Search.start d fun _ => (0, 0))
  -- on the land, visited is joined and the level is the distance
  have hjoined : ∀ v, m.IsLand v → s.visited v = true → m.landGraph.Reachable d v := by
    intro v hv hvisited
    obtain ⟨walk, -⟩ := exists_walk_of_steps hd hv (hlayers.way v hvisited)
    exact ⟨walk⟩
  have hvisited : ∀ v, m.landGraph.Reachable d v → s.visited v = true := fun v ⟨walk⟩ =>
    (hleast _ v (steps_of_walk walk)).1
  have hdist : ∀ v, m.IsLand v → m.landGraph.Reachable d v →
      level v = m.landGraph.dist d v := by
    intro v hv hreach
    obtain ⟨shortest, hshortest⟩ := hreach.exists_walk_length_eq_dist
    obtain ⟨walk, hlength⟩ := exists_walk_of_steps hd hv (hlayers.way v (hvisited v hreach))
    have hle := (hleast _ v (steps_of_walk shortest)).2
    have hge := SimpleGraph.dist_le walk
    omega
  refine ⟨hlayers.root_next, ?_, ?_⟩
  · intro v hv hne hreach
    obtain ⟨hback, hedge, hlevel⟩ := hlayers.back v (hvisited v hreach) hne
    obtain ⟨hterrain, -, hbeside⟩ := mem_adjacency.mp hedge
    have hland : m.IsLand (s.next v) :=
      ⟨contains_of_steps hd.1 (hlayers.way _ hback), hterrain⟩
    have hreach' := hjoined _ hland hback
    refine ⟨⟨hland, hv, hbeside⟩, hreach', ?_⟩
    show m.landGraph.dist d v = m.landGraph.dist d (s.next v) + 1
    rw [← hdist v hv hreach, ← hdist _ hland hreach', hlevel]
  · intro v hv hnot
    refine hlayers.untouched v ?_
    by_contra hseen
    exact hnot (hjoined v hv (by simpa using hseen))

end Search

/-! ## The next node -/

section Node

variable {m : GameMap}

/-- The cell that two coordinates lie in. -/
def cellOf (a b : K) : Cell := (⌊a⌋, ⌊b⌋)

variable [IsStrictOrderedRing K]

omit [LinearOrder K] [FloorRing K] [IsStrictOrderedRing K] in
@[simp] theorem cellOf_intCast [LinearOrder K] [FloorRing K] [IsStrictOrderedRing K] (i j : ℤ) :
    cellOf (i : K) (j : K) = (i, j) := by
  simp [cellOf]

omit [IsStrictOrderedRing K] in
/-- The bounds check is about the cell. -/
theorem outOfRange_iff (m : GameMap) (a b : K) :
    (construct m).OutOfRange (⟨.num a, .num b⟩ : Vector K) ↔ ¬ m.Contains (cellOf a b) := by
  have hneg : ∀ x : K, (Double.num x : Double K) < Double.ofInt 0 ↔ ⌊x⌋ < 0 := fun x => by
    rw [Int.floor_lt]
    rfl
  have hbig : ∀ x : K, (Double.ofInt m.size : Double K) ≤ Double.num x ↔ (m.size : ℤ) ≤ ⌊x⌋ :=
    fun x => by
      rw [Int.le_floor]
      rfl
  show ((Double.num a : Double K) < Double.ofInt 0 ∨ (Double.num b : Double K) < Double.ofInt 0 ∨
      Double.ofInt m.size ≤ (Double.num a : Double K) ∨
      Double.ofInt m.size ≤ (Double.num b : Double K)) ↔ _
  rw [hneg, hneg, hbig, hbig, GameMap.Contains, cellOf]
  simp only
  omega

theorem getElementByOffset_num {a b : K} (h : m.Contains (cellOf a b)) :
    m.getElementByOffset (⟨.num a, .num b⟩ : Vector K) = .ok (cellOf a b) := by
  have hinside := mt (outOfRange_iff m a b).mp (not_not.mpr h)
  rw [GameMap.getElementByOffset, if_neg fun hout => hinside ?_]
  swap
  · obtain hx | hy | hx | hy := hout
    · exact .inr (.inr (.inl hx))
    · exact .inr (.inr (.inr hy))
    · exact .inl hx
    · exact .inr (.inl hy)
  simp [Double.floor, cellOf]

omit [IsStrictOrderedRing K] in
/-- Truncation is the floor of what is not negative. -/
theorem toInt_num {a b : K} (h : m.Contains (cellOf a b)) :
    ((Double.num a : Double K).toInt, (Double.num b : Double K).toInt) = cellOf a b := by
  obtain ⟨⟨ha, -⟩, hb, -⟩ := h
  have ha' : ¬ a < 0 := not_lt.mpr (Int.floor_nonneg.mp ha)
  have hb' : ¬ b < 0 := not_lt.mpr (Int.floor_nonneg.mp hb)
  simp [Double.toInt, ha', hb', cellOf]

/-- **The next node**: it is looked up if the source and the destination are land. -/
theorem getNextNode_ok {a b a' b' : K} (hs : m.IsLand (cellOf a b))
    (hd : m.IsLand (cellOf a' b')) :
    (construct m).getNextNode (⟨.num a, .num b⟩ : Vector K) ⟨.num a', .num b'⟩ =
      .ok (computeAllPathsFromNode m (adjacency m) (cellOf a' b') (cellOf a b)) := by
  have hsource := mt (outOfRange_iff m a b).mp (not_not.mpr hs.1)
  have hdest := mt (outOfRange_iff m a' b').mp (not_not.mpr hd.1)
  rw [getNextNode, if_neg hsource, if_neg hdest, map_construct, getElementByOffset_num hs.1,
    ok_bind, if_neg (not_not.mpr hs.2), getElementByOffset_num hd.1, ok_bind,
    if_neg (not_not.mpr hd.2), toInt_num hs.1, toInt_num hd.1]
  rfl

theorem getNextNode_error {a b a' b' : K}
    (h : ¬ (m.IsLand (cellOf a b) ∧ m.IsLand (cellOf a' b'))) :
    ∃ what, (construct m).getNextNode (⟨.num a, .num b⟩ : Vector K) ⟨.num a', .num b'⟩ =
      .error (.outOfRange what) := by
  by_cases hs : m.Contains (cellOf a b)
  swap
  · exact ⟨_, by rw [getNextNode, if_pos ((outOfRange_iff m a b).mpr hs)]⟩
  have hsource := mt (outOfRange_iff m a b).mp (not_not.mpr hs)
  by_cases hd : m.Contains (cellOf a' b')
  swap
  · exact ⟨_, by rw [getNextNode, if_neg hsource, if_pos ((outOfRange_iff m a' b').mpr hd)]⟩
  have hdest := mt (outOfRange_iff m a' b').mp (not_not.mpr hd)
  rw [getNextNode, if_neg hsource, if_neg hdest, map_construct, getElementByOffset_num hs,
    ok_bind]
  by_cases hterrain : (m.elements (cellOf a b)).terrainType = .land
  · have hterrain' : (m.elements (cellOf a' b')).terrainType ≠ .land := fun hland =>
      h ⟨⟨hs, hterrain⟩, hd, hland⟩
    rw [if_neg (not_not.mpr hterrain), getElementByOffset_num hd, ok_bind, if_pos hterrain']
    exact ⟨_, rfl⟩
  · rw [if_pos hterrain]
    exact ⟨_, rfl⟩

end Node

end PathPlanner

end Simulator
