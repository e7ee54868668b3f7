import Mathlib.Data.Prod.Lex
import Simulator.Foundation.SearchOrder
import Simulator.State.PathPlanner

/-!
# The planner on open land

Where every cell of the map is land, the cell that comes next can be said without a search.
The neighbours of a cell are looked at along the second axis first, so a search from the
destination takes the cells of one distance from the sides of the second axis inwards, and
the way back goes along the first axis until that is done (`towards`).

`turn` is the key of the order in which the cells are taken: how far away they are, on which
side of the destination, how far along the first axis, and on which side there.

## Why this key

A breadth-first search takes the nodes by their distance, and among nodes of one distance by the
order of those they were found from; that order is the same question one level down.  The key
answers it at once for all levels.  Two things are to be checked, and both are about neighbours
only.  Of the cells beside a cell that are nearer to the destination, there are two at most, and
`towards` is the one with the smaller key (`turn_towards_first`).  And the cells that are found from
one cell have their keys in the order in which the directions are tried (`turn_siblings`).

With these the entry of the matrix is the one the general theory of search orders says it is
(`computeAllPathsFromNode_allLand`).  That is how the positions the planner answers can be computed
by hand, which is what makes a statement about them for all maps of land possible.
-/

namespace Simulator

open Foundation

namespace PathPlanner

/-! ## The way -/

/-- The next cell on the way that goes along the first axis as long as it leads nearer. -/
def towards (d v : Cell) : Cell :=
  if v.1 < d.1 then (v.1 + 1, v.2)
  else if d.1 < v.1 then (v.1 - 1, v.2)
  else if v.2 < d.2 then (v.1, v.2 + 1)
  else if d.2 < v.2 then (v.1, v.2 - 1)
  else v

theorem towards_cases (d v : Cell) :
    (v.1 < d.1 ∧ (towards d v).1 = v.1 + 1 ∨ d.1 < v.1 ∧ (towards d v).1 = v.1 - 1) ∧
        (towards d v).2 = v.2 ∨
      v.1 = d.1 ∧ (towards d v).1 = v.1 ∧ (v.2 < d.2 ∧ (towards d v).2 = v.2 + 1 ∨
        d.2 < v.2 ∧ (towards d v).2 = v.2 - 1 ∨ v.2 = d.2 ∧ (towards d v).2 = v.2) := by
  unfold towards
  split_ifs <;> omega

theorem towards_self (d : Cell) : towards d d = d := by simp [towards]

theorem contains_towards {m : GameMap} {d v : Cell} (hd : m.Contains d) (hv : m.Contains v) :
    m.Contains (towards d v) := by
  have hstep := towards_cases d v
  unfold GameMap.Contains at *
  omega

/-! ## The order of the cells -/

/-- How many steps two cells are apart. -/
def apart (d v : Cell) : ℕ := (v.1 - d.1).natAbs + (v.2 - d.2).natAbs

/-- Which side of `d` a cell lies on along the second axis, in the order of the directions. -/
def side (d v : Cell) : ℕ := if d.2 < v.2 then 0 else if v.2 < d.2 then 1 else 2

theorem side_cases (d v : Cell) : d.2 < v.2 ∧ side d v = 0 ∨ v.2 < d.2 ∧ side d v = 1 ∨
    v.2 = d.2 ∧ side d v = 2 := by
  unfold side
  split_ifs <;> omega

/-- The place of a cell among those that a search from `d` takes. -/
def turn (d v : Cell) : ℕ ×ₗ ℕ ×ₗ ℕ ×ₗ ℕ :=
  toLex (apart d v, toLex (side d v, toLex ((v.1 - d.1).natAbs, (d.1 - v.1).toNat)))

theorem turn_lt {d v w : Cell} : turn d v < turn d w ↔
    apart d v < apart d w ∨ apart d v = apart d w ∧
      (side d v < side d w ∨ side d v = side d w ∧
        ((v.1 - d.1).natAbs < (w.1 - d.1).natAbs ∨
          (v.1 - d.1).natAbs = (w.1 - d.1).natAbs ∧ (d.1 - v.1).toNat < (d.1 - w.1).toNat)) := by
  simp only [turn, Prod.Lex.toLex_lt_toLex]

theorem apart_eq_zero {d v : Cell} : apart d v = 0 ↔ v = d := by
  rw [apart, Prod.ext_iff]
  omega

theorem apart_towards {d v : Cell} (hne : v ≠ d) : apart d (towards d v) + 1 = apart d v := by
  have hpos := mt apart_eq_zero.mp hne
  have hstep := towards_cases d v
  unfold apart at *
  omega

theorem side_towards {d v : Cell} (hfar : 2 ≤ apart d v) : side d (towards d v) = side d v := by
  have hside := side_cases d v
  have hside' := side_cases d (towards d v)
  have hstep := towards_cases d v
  unfold apart at hfar
  omega

theorem across_towards (d v : Cell) :
    ((towards d v).1 - d.1).natAbs = (v.1 - d.1).natAbs - 1 ∧
      (d.1 - (towards d v).1).toNat = (d.1 - v.1).toNat - 1 := by
  have hstep := towards_cases d v
  omega

theorem turn_mono {d v w : Cell} (hv : v ≠ d) (hw : w ≠ d)
    (h : turn d (towards d v) < turn d (towards d w)) : turn d v < turn d w := by
  rw [turn_lt] at h ⊢
  have hav := apart_towards hv
  have haw := apart_towards hw
  obtain ⟨hxv, htv⟩ := across_towards d v
  obtain ⟨hxw, htw⟩ := across_towards d w
  rw [hxv, hxw, htv, htw] at h
  rcases Nat.lt_or_ge (apart d v) 2 with hnear | hfar
  · rcases h with h | ⟨hsame, h⟩
    · exact .inl (by omega)
    · have hd : towards d v = d := apart_eq_zero.mp (by omega)
      have hd' : towards d w = d := apart_eq_zero.mp (by omega)
      have hx : (v.1 - d.1).natAbs - 1 = 0 := by rw [← hxv, hd]; simp
      have hx' : (w.1 - d.1).natAbs - 1 = 0 := by rw [← hxw, hd']; simp
      have ht : (d.1 - w.1).toNat - 1 = 0 := by rw [← htw, hd']; simp
      rw [hd, hd'] at h
      omega
  · have hsv := side_towards hfar
    rcases Nat.lt_or_ge (apart d w) 2 with hnear' | hfar'
    · rcases h with h | ⟨hsame, -⟩ <;> omega
    · rw [hsv, side_towards hfar'] at h
      rcases h with h | ⟨hsame, h⟩
      · exact .inl (by omega)
      · refine .inr ⟨by omega, h.imp_right fun ⟨hside, h⟩ => ⟨hside, ?_⟩⟩
        rcases h with h | ⟨hx, ht⟩
        · exact .inl (by omega)
        · exact .inr (by omega)

theorem turn_towards_lt {d v : Cell} (hne : v ≠ d) : turn d (towards d v) < turn d v :=
  turn_lt.mpr (.inl (by have := apart_towards hne; omega))

theorem turn_towards_first {d u v : Cell} (hbeside : Cell.Beside u v) (hne : v ≠ d)
    (hother : u ≠ towards d v) : turn d (towards d v) < turn d u := by
  have hnear := apart_towards hne
  have hstep := towards_cases d v
  rw [ne_eq, Prod.ext_iff] at hother
  rw [turn_lt]
  unfold Cell.Beside at hbeside
  unfold apart at *
  rcases hbeside with ⟨hu, hu'⟩ | ⟨hu, hu'⟩
  · rcases hstep with ⟨hx, hy⟩ | ⟨hx, hx', hy⟩
    · -- the steps along the first axis come first
      have hside := side_cases d u
      have hside' := side_cases d (towards d v)
      rw [hy] at hnear hother hside' ⊢
      omega
    · exact .inl (by omega)
  · exact .inl (by omega)

/-! ## Siblings -/

/-- Both cells are beside `u`, the first one in an earlier direction. -/
def EarlierFrom (u v w : Cell) : Prop :=
  v.1 = u.1 ∧ v.2 = u.2 + 1 ∧ (w.1 = u.1 ∧ w.2 = u.2 - 1 ∨ w.2 = u.2 ∧ w.1 ≠ u.1) ∨
    v.1 = u.1 ∧ v.2 = u.2 - 1 ∧ w.2 = u.2 ∧ w.1 ≠ u.1 ∨
    v.2 = u.2 ∧ v.1 = u.1 + 1 ∧ w.2 = u.2 ∧ w.1 = u.1 - 1

theorem earlierFrom_directions (u : Cell) :
    (relNeighbors.map fun r => ((u.1 + r.1, u.2 + r.2) : Cell)).Pairwise (EarlierFrom u) := by
  simp only [relNeighbors, List.map_cons, List.map_nil, List.pairwise_cons, List.mem_cons,
    List.not_mem_nil, or_false, forall_eq_or_imp, forall_eq, IsEmpty.forall_iff, implies_true,
    List.Pairwise.nil, and_true, true_and, EarlierFrom]
  refine ⟨⟨?_, ?_, ?_⟩, ⟨?_, ?_⟩, ?_⟩ <;> omega

/-- Cells that are taken up from the same cell come in the order of their directions. -/
theorem turn_siblings {d u v w : Cell} (hv : towards d v = u) (hw : towards d w = u)
    (h : EarlierFrom u v w) : turn d v < turn d w := by
  have hstep := towards_cases d v
  have hstep' := towards_cases d w
  have hside := side_cases d v
  have hside' := side_cases d w
  rw [hv] at hstep
  rw [hw] at hstep'
  rw [turn_lt]
  unfold EarlierFrom at h
  unfold apart
  omega

theorem pairwise_adjacency (m : GameMap) (d u : Cell) : (adjacency m u).Pairwise fun v w =>
    v ≠ d → w ≠ d → towards d v = u → towards d w = u → turn d v < turn d w := by
  have hsiblings := (earlierFrom_directions u).imp fun {v w} h (_ : v ≠ d) (_ : w ≠ d)
    (hv : towards d v = u) (hw : towards d w = u) => turn_siblings hv hw h
  unfold adjacency
  cases (m.elements u).terrainType with
  | land => exact hsiblings.filter _
  | water => exact .nil

/-! ## The matrix -/

/-- Every cell of the map is land. -/
def AllLand (m : GameMap) : Prop := ∀ cell, m.Contains cell → (m.elements cell).terrainType = .land

/-- **The order of a search over land.** -/
theorem firstFound {m : GameMap} (hland : AllLand m) {d : Cell} (hd : m.Contains d) :
    FirstFound (adjacency m) {cell | m.Contains cell} d (turn d) (towards d) where
  root_mem := hd
  neighbours_mem _ _ _ hv := (mem_adjacency.mp hv).2.1
  root_first v _ hne := by
    have hpos := mt apart_eq_zero.mp hne
    exact turn_lt.mpr (.inl (by rw [apart_eq_zero.mpr rfl]; omega))
  parent_mem v hv hne := by
    have hmem := contains_towards hd hv
    have hstep := towards_cases d v
    rw [ne_eq, Prod.ext_iff] at hne
    refine ⟨hmem, mem_adjacency.mpr ⟨hland _ hmem, hv, ?_⟩⟩
    unfold Cell.Beside
    omega
  parent_lt v _ hne := turn_towards_lt hne
  parent_first u _ v hv hne hother :=
    turn_towards_first (mem_adjacency.mp hv).2.2 hne hother
  mono v _ w _ hv hw h := turn_mono hv hw h
  siblings u _ := pairwise_adjacency m d u

/-- **On open land the next cell is the one towards the destination.** -/
theorem computeAllPathsFromNode_allLand {m : GameMap} (hland : AllLand m) {d v : Cell}
    (hd : m.Contains d) (hv : m.Contains v) :
    computeAllPathsFromNode m (adjacency m) d v = towards d v := by
  have hnodes : ∀ u, ∀ v ∈ adjacency m u, v ∈ m.nodes :=
    fun u v hv => GameMap.mem_nodes.mpr (mem_adjacency.mp hv).2.1
  obtain ⟨level, -, hlayers, hleast⟩ := Search.search_spec hnodes (GameMap.mem_nodes.mpr hd)
    fun _ => ((0, 0) : Cell)
  by_cases hne : v = d
  · rw [hne, towards_self]
    exact hlayers.root_next
  have hordered := firstFound hland hd
  -- every cell is reached: from the one towards the destination
  have hsteps : ∀ n, ∀ w, m.Contains w → apart d w = n → Steps (adjacency m) n d w := by
    intro n
    induction n with
    | zero =>
      intro w _ hw
      rw [apart_eq_zero.mp hw]
      exact .refl d
    | succ n ih =>
      intro w hw hn
      have hwd : w ≠ d := fun h => by
        rw [apart_eq_zero.mpr h] at hn
        omega
      obtain ⟨hparent, hedge⟩ := hordered.parent_mem w hw hwd
      exact (ih _ hparent (by have := apart_towards hwd; omega)).tail hedge
  have hvisited := (hleast _ v (hsteps _ v hv rfl)).1
  exact Search.search_next hordered _ _ hne hvisited

end PathPlanner
end Simulator
