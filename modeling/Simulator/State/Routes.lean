import Simulator.State.PathPlanner

/-!
# Routes over the land

What iterating `GetNextNode` comes to.  The matrix of a destination points from every cell
that is joined to it one step nearer, so the route it gives is a shortest one.  Land that is
not joined to the destination was never reached by the search, and its entry is still the
vector that the matrix was filled with, which is the corner of the map.

## The route

`follow` makes some number of calls, each from what the call before returned, as a caller does
that moves a soldier from node to node.  `follows_shortest` says of every map and every two cells
of land that are joined: no call throws, each step goes to a cell beside the one before, all of
them are land, the destination is reached after as many steps as the two cells are apart in the
graph of the land, and then the route stays there.  The induction is on the number of steps; what
it carries is that the node reached so far is joined to the destination and nearer by that number
(`iterate_joined`).

## Where there is no route

`StepsOrThrows` is what a caller can expect of a single call: it throws, or returns land beside the
source, or the source if that is the destination.  `stepsOrThrows_iff` says exactly when it does so.
Between two cells of land that are not joined the answer is the corner `(0, 0)`, from wherever it is
asked, so that it is a step only by chance: when the corner is land and beside the source.
-/

namespace Simulator

open Foundation

namespace PathPlanner

/-! ## Routes -/

/-- A route that takes a shortest way over land and stays at its end. -/
structure ShortestRoute (m : GameMap) (source destination : Cell) (route : ℕ → Cell) : Prop where
  starts : route 0 = source
  land : ∀ k, m.IsLand (route k)
  beside : ∀ k < m.landGraph.dist source destination, Cell.Beside (route k) (route (k + 1))
  arrives : ∀ k, route k = destination ↔ m.landGraph.dist source destination ≤ k

section Follow

variable (K : Type) [Field K] [LinearOrder K] [FloorRing K]

/-- The node that some number of calls of `GetNextNode` lead to, each from what the call
before returned. -/
def follow (planner : PathPlanner) (source destination : Cell) : ℕ → Except Fault Cell
  | 0 => .ok source
  | k + 1 => do
    let node ← follow planner source destination k
    planner.getNextNode (Vector.ofInt node.1 node.2 : Vector K)
      (Vector.ofInt destination.1 destination.2)

end Follow

section Matrix

variable {m : GameMap} {d : Cell}

/-- One entry of the matrix of a destination leads to land that is joined to it and nearer
by one. -/
theorem next_joined (hd : m.IsLand d) {v : Cell} (hv : m.IsLand v)
    (hreach : m.landGraph.Reachable d v) :
    let next := computeAllPathsFromNode m (adjacency m) d
    m.IsLand (next v) ∧ m.landGraph.Reachable d (next v) ∧
      m.landGraph.dist d (next v) = m.landGraph.dist d v - 1 ∧
      (v ≠ d → Cell.Beside v (next v)) := by
  intro next
  obtain ⟨hroot, hjoined, -⟩ := computeAllPathsFromNode_spec hd
  by_cases hne : v = d
  · subst hne
    rw [show next v = v from hroot]
    exact ⟨hv, hreach, by simp, fun h => absurd rfl h⟩
  · obtain ⟨hadj, hreach', hdist⟩ := hjoined v hv hne hreach
    have hnearer : m.landGraph.dist d (next v) = m.landGraph.dist d v - 1 :=
      (Nat.sub_eq_of_eq_add hdist).symm
    exact ⟨hadj.1, hreach', hnearer, fun _ => hadj.2.2.symm⟩

theorem iterate_joined (hd : m.IsLand d) {v : Cell} (hv : m.IsLand v)
    (hreach : m.landGraph.Reachable d v) (k : ℕ) :
    let next := computeAllPathsFromNode m (adjacency m) d
    m.IsLand (next^[k] v) ∧ m.landGraph.Reachable d (next^[k] v) ∧
      m.landGraph.dist d (next^[k] v) = m.landGraph.dist d v - k := by
  intro next
  induction k with
  | zero => exact ⟨hv, hreach, rfl⟩
  | succ k ih =>
    obtain ⟨hland, hjoined, hdist⟩ := ih
    obtain ⟨hland', hjoined', hdist', -⟩ := next_joined hd hland hjoined
    rw [Function.iterate_succ_apply']
    exact ⟨hland', hjoined', by
      show m.landGraph.dist d (computeAllPathsFromNode m (adjacency m) d (next^[k] v)) = _
      omega⟩

theorem shortestRoute_iterate (hd : m.IsLand d) {v : Cell} (hv : m.IsLand v)
    (hreach : m.landGraph.Reachable d v) :
    ShortestRoute m v d fun k => (computeAllPathsFromNode m (adjacency m) d)^[k] v := by
  have hcomm : m.landGraph.dist v d = m.landGraph.dist d v := SimpleGraph.dist_comm
  have harrives : ∀ k, (computeAllPathsFromNode m (adjacency m) d)^[k] v = d ↔
      m.landGraph.dist v d ≤ k := by
    intro k
    obtain ⟨-, hjoined, hdist⟩ := iterate_joined hd hv hreach k
    rw [eq_comm, ← hjoined.dist_eq_zero_iff, hdist, hcomm]
    omega
  refine ⟨rfl, fun k => (iterate_joined hd hv hreach k).1, ?_, harrives⟩
  intro k hk
  obtain ⟨hland, hjoined, -⟩ := iterate_joined hd hv hreach k
  rw [Function.iterate_succ_apply']
  refine (next_joined hd hland hjoined).2.2.2 ?_
  intro hend
  exact absurd ((harrives k).mp hend) (by omega)

end Matrix

section

variable {m : GameMap} {K : Type} [Field K] [LinearOrder K] [FloorRing K] [IsStrictOrderedRing K]

theorem getNextNode_ofInt {v d : Cell} (hv : m.IsLand v) (hd : m.IsLand d) :
    (construct m).getNextNode (Vector.ofInt v.1 v.2 : Vector K) (Vector.ofInt d.1 d.2) =
      .ok (computeAllPathsFromNode m (adjacency m) d v) := by
  have hcell : ∀ c : Cell, cellOf (c.1 : K) (c.2 : K) = c := fun c => cellOf_intCast c.1 c.2
  have hok := getNextNode_ok (show m.IsLand (cellOf (v.1 : K) v.2) by rwa [hcell])
    (show m.IsLand (cellOf (d.1 : K) d.2) by rwa [hcell])
  rw [hcell, hcell] at hok
  exact hok

/-- **The planner follows shortest ways over the land.** -/
theorem follows_shortest (m : GameMap) {source destination : Cell} (hsource : m.IsLand source)
    (hdestination : m.IsLand destination)
    (hjoined : m.landGraph.Reachable source destination) :
    ∃ route, ShortestRoute m source destination route ∧
      ∀ k, (construct m).follow K source destination k = .ok (route k) := by
  refine ⟨_, shortestRoute_iterate hdestination hsource hjoined.symm, ?_⟩
  intro k
  induction k with
  | zero => rfl
  | succ k ih =>
    have hland := (iterate_joined hdestination hsource hjoined.symm k).1
    rw [follow, ih, ok_bind, getNextNode_ofInt hland hdestination, Function.iterate_succ_apply']

end

/-- A map with a lake in its middle. -/
def lake : GameMap where
  size := 3
  elementSize := 2
  elements cell := ⟨if cell = (1, 1) then .water else .land, fun _ => false⟩

theorem follows_shortest_sample : ∃ route, ShortestRoute lake (1, 0) (1, 2) route ∧
    ∀ k, (construct lake).follow ℚ (1, 0) (1, 2) k = .ok (route k) := by
  have hadj : ∀ a b : Cell, lake.IsLand a → lake.IsLand b → Cell.Beside a b →
      lake.landGraph.Reachable a b := fun a b ha hb hbeside =>
    SimpleGraph.Adj.reachable ⟨ha, hb, hbeside⟩
  have hround : lake.landGraph.Reachable (1, 0) (1, 2) :=
    (hadj (1, 0) (0, 0) (by decide) (by decide) (by decide)).trans <|
      (hadj (0, 0) (0, 1) (by decide) (by decide) (by decide)).trans <|
        (hadj (0, 1) (0, 2) (by decide) (by decide) (by decide)).trans <|
          hadj (0, 2) (1, 2) (by decide) (by decide) (by decide)
  exact follows_shortest lake (by decide) (by decide) hround

/-! ## Teleports -/

section Teleports

variable {m : GameMap} {K : Type} [Field K] [LinearOrder K] [FloorRing K]

/-- A call of `GetNextNode` throws `out_of_range` or returns land: the source if that is the
destination, and otherwise a cell beside the source. -/
def StepsOrThrows (m : GameMap) (source destination : Vector K) : Prop :=
  match (construct m).getNextNode source destination with
  | .error (.outOfRange _) => True
  | .error _ => False
  | .ok node =>
    let cell : Cell := (source.x.toInt, source.y.toInt)
    m.IsLand node ∧
      (node = cell ∧ cell = (destination.x.toInt, destination.y.toInt) ∨ Cell.Beside cell node)

instance (m : GameMap) (source destination : Vector K) :
    Decidable (StepsOrThrows m source destination) := by
  unfold StepsOrThrows
  split <;> infer_instance

variable [IsStrictOrderedRing K]

/-- **Between land that is not joined, the next node is the corner**, wherever the source
is.  So a call goes right if one of the two is not land, if they are joined, or if the corner
happens to be land beside the source. -/
theorem stepsOrThrows_iff (m : GameMap) (a b a' b' : K) :
    StepsOrThrows m (⟨.num a, .num b⟩ : Vector K) ⟨.num a', .num b'⟩ ↔
      ¬ m.IsLand (cellOf a b) ∨ ¬ m.IsLand (cellOf a' b') ∨
        m.landGraph.Reachable (cellOf a b) (cellOf a' b') ∨
        m.IsLand (0, 0) ∧ Cell.Beside (cellOf a b) (0, 0) := by
  by_cases hlands : m.IsLand (cellOf a b) ∧ m.IsLand (cellOf a' b')
  swap
  · obtain ⟨what, herror⟩ := getNextNode_error hlands
    simp only [StepsOrThrows, herror, true_iff]
    tauto
  obtain ⟨hs, hd⟩ := hlands
  have hcalls : StepsOrThrows m (⟨.num a, .num b⟩ : Vector K) ⟨.num a', .num b'⟩ ↔
      let node := computeAllPathsFromNode m (adjacency m) (cellOf a' b') (cellOf a b)
      m.IsLand node ∧ (node = cellOf a b ∧ cellOf a b = cellOf a' b' ∨
        Cell.Beside (cellOf a b) node) := by
    simp only [StepsOrThrows, getNextNode_ok hs hd, toInt_num hs.1, toInt_num hd.1]
  rw [hcalls]
  simp only [hs, hd, not_true_eq_false, false_or]
  obtain ⟨hroot, -, hlost⟩ := computeAllPathsFromNode_spec hd
  by_cases hreach : m.landGraph.Reachable (cellOf a b) (cellOf a' b')
  · obtain ⟨hland, -, -, hbeside⟩ := next_joined hd hs hreach.symm
    refine iff_of_true ⟨hland, ?_⟩ (.inl hreach)
    by_cases hsame : cellOf a b = cellOf a' b'
    · exact .inl ⟨by rw [hsame, hroot], hsame⟩
    · exact .inr (hbeside hsame)
  · have hne : cellOf a b ≠ cellOf a' b' := fun h => hreach (h ▸ .rfl)
    rw [hlost _ hs fun h => hreach h.symm]
    simp [hreach, hne]

end Teleports

/-- A map with water from one side to the other. -/
def strait : GameMap where
  size := 3
  elementSize := 2
  elements cell := ⟨if cell.1 = 1 then .water else .land, fun _ => false⟩

/-- Across the water the planner sends a soldier from one end of its shore to the other. -/
theorem not_stepsOrThrows_sample :
    ¬ StepsOrThrows strait (Vector.ofInt 0 2 : Vector ℚ) (Vector.ofInt 2 2) := by
  decide +kernel

/-- Next to the corner the same entry looks like a step. -/
theorem stepsOrThrows_iff_sample :
    StepsOrThrows strait (⟨.num 0, .num (3 / 2)⟩ : Vector ℚ) ⟨.num 2, .num 2⟩ :=
  (stepsOrThrows_iff strait 0 (3 / 2) 2 2).mpr <| .inr <| .inr <| .inr
    ⟨by decide, by decide +kernel⟩

end PathPlanner

end Simulator
