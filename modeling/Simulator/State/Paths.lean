import Mathlib.Analysis.Convex.Basic
import Simulator.State.SoldierUpdates

/-!
# Soldiers stay between the places they come from and go to

The path planner takes the step from a position towards another one without looking at the map.
What it answers lies on the segment between the two (`getNextPosition_eq_segment`): it divides by
the distance only if that is greater than the speed, and it computes the distance and the
magnitude from the same number, so that nothing has to be known of the square root.

A set of positions that is given by a range of each coordinate has the whole segment if
it has its ends.  So a soldier stays in the map if it stands there, its orders name
places there, and so do its target and its respawn position.
-/

namespace Simulator

open Foundation

variable {K : Type} [Field K] [LinearOrder K]

/-! ## Positions of the map -/

/-- A coordinate of a position of the map. -/
def Constants.InSide (c : Constants K) (a : Double K) : Prop :=
  .ofInt 0 ≤ a ∧ a < .ofInt (c.mapSize * c.mapElementSize)

/-- A position of the map. -/
def Constants.Inside (c : Constants K) (v : Vector K) : Prop := c.InSide v.x ∧ c.InSide v.y

instance (c : Constants K) (a : Double K) : Decidable (c.InSide a) :=
  inferInstanceAs (Decidable (_ ∧ _))

instance (c : Constants K) (v : Vector K) : Decidable (c.Inside v) :=
  inferInstanceAs (Decidable (_ ∧ _))

/-- The range of the coordinates. -/
def Constants.range (c : Constants K) : Set K :=
  Set.Ico ((0 : ℤ) : K) ((c.mapSize * c.mapElementSize : ℤ) : K)

theorem Constants.InSide.exists_num {c : Constants K} {a : Double K} (h : c.InSide a) :
    ∃ x ∈ c.range, a = .num x := by
  cases a with
  | nan => exact h.1.elim
  | num x => exact ⟨x, h, rfl⟩

theorem Constants.Inside.exists_num {c : Constants K} {v : Vector K} (h : c.Inside v) :
    ∃ x ∈ c.range, ∃ y ∈ c.range, v = ⟨.num x, .num y⟩ := by
  obtain ⟨a, b⟩ := v
  obtain ⟨⟨x, hx, rfl⟩, y, hy, rfl⟩ := And.intro h.1.exists_num h.2.exists_num
  exact ⟨x, hx, y, hy, rfl⟩

variable [IsStrictOrderedRing K] [SquareRoot K]

namespace SimplePathPlanner

/-- The point of a segment. -/
def between (t x x' : K) : K := x + t * (x' - x)

/-- **A step of the planner stays on the way.** -/
theorem getNextPosition_eq_segment {speed : ℤ} (hspeed : 0 ≤ speed) (x y x' y' : K) :
    ∃ t ∈ Set.Icc (0 : K) 1, getNextPosition ⟨.num x, .num y⟩ ⟨.num x', .num y'⟩ speed =
      ⟨.num (between t x x'), .num (between t y y')⟩ := by
  set square := (x - x') * (x - x') + (y - y') * (y - y') with hsquare
  have hnonneg : ¬ square < 0 :=
    not_lt.mpr (add_nonneg (mul_self_nonneg _) (mul_self_nonneg _))
  set d := SquareRoot.sqrt square with hd
  have hdistance : Vector.distance (⟨.num x, .num y⟩ : Vector K) ⟨.num x', .num y'⟩ = .num d :=
    if_neg hnonneg
  -- the magnitude of the difference is the distance
  have hmagnitude : ((⟨.num x', .num y'⟩ : Vector K) - ⟨.num x, .num y⟩).magnitude = .num d := by
    have hsame : (x' - x) * (x' - x) + (y' - y) * (y' - y) = square := by rw [hsquare]; ring
    show (Double.num ((x' - x) * (x' - x) + (y' - y) * (y' - y))).sqrt = _
    rw [hsame]
    exact if_neg hnonneg
  have hcast : (0 : K) ≤ (speed : K) := by exact_mod_cast hspeed
  simp only [getNextPosition, hdistance, hmagnitude]
  by_cases hreach : d ≤ (speed : K)
  · refine ⟨1, ⟨zero_le_one, le_rfl⟩, ?_⟩
    rw [if_pos (by exact hreach), between, between, one_mul, one_mul, add_sub_cancel,
      add_sub_cancel]
  · have hpos : 0 < d := hcast.trans_lt (not_le.mp hreach)
    refine ⟨(speed : K) / d, ⟨div_nonneg hcast hpos.le, (div_le_one hpos).mpr
      (not_le.mp hreach).le⟩, ?_⟩
    rw [if_neg (by exact hreach)]
    have hunit : ∀ z : K, (Double.num z / Double.num d : Double K) = .num (z / d) := fun z =>
      if_neg hpos.ne'
    have hstep : ∀ z z' : K, z + (z' - z) / d * (speed : K) = between ((speed : K) / d) z z' :=
      fun z z' => by rw [between]; ring
    show (⟨_ + (Double.num (x' - x) / Double.num d) * _,
      _ + (Double.num (y' - y) / Double.num d) * _⟩ : Vector K) = _
    rw [hunit, hunit, ← hstep, ← hstep]
    rfl

/-- **A step between positions of the map stays in the map.** -/
theorem inside_getNextPosition {c : Constants K} {speed : ℤ} (hspeed : 0 ≤ speed)
    {source dest : Vector K} (hsource : c.Inside source) (hdest : c.Inside dest) :
    c.Inside (getNextPosition source dest speed) := by
  obtain ⟨x, hx, y, hy, rfl⟩ := hsource.exists_num
  obtain ⟨x', hx', y', hy', rfl⟩ := hdest.exists_num
  obtain ⟨t, ht, hnext⟩ := getNextPosition_eq_segment hspeed x y x' y'
  have hconvex : Convex K c.range := convex_Ico _ _
  rw [hnext]
  exact ⟨hconvex.add_smul_sub_mem hx hx' ht, hconvex.add_smul_sub_mem hy hy' ht⟩

end SimplePathPlanner

/-! ## Soldiers of the map -/

namespace Soldier

/-- The soldier stands in the map, and is to go to places in the map only. -/
structure Inside (c : Constants K) (s : Soldier K) : Prop where
  position : c.Inside s.position
  destination : s.isDestinationSet = true → c.Inside s.destination
  newPosition : s.isNewPositionSet = true → c.Inside s.newPosition

section Inside

variable {c : Constants K} {s : Soldier K}

omit [IsStrictOrderedRing K] [SquareRoot K] in
theorem Inside.damage (h : s.Inside c) (damageAmount : ℤ) : (s.damage damageAmount).Inside c :=
  ⟨h.position, h.destination, h.newPosition⟩

theorem Inside.stepTowards (h : s.Inside c) (hspeed : 0 ≤ s.speed) {dest : Vector K}
    (hdest : c.Inside dest) (state : SoldierState) :
    ({ s with state }.stepTowards dest).Inside c :=
  ⟨h.position, h.destination, fun _ =>
    SimplePathPlanner.inside_getNextPosition hspeed h.position hdest⟩

/-- **The update of a soldier keeps it in the map** if its target and its respawn
position are. -/
theorem Inside.next (h : s.Inside c) (hspeed : 0 ≤ s.speed)
    (hrespawn : c.Inside (c.respawnPositions s.playerId)) {target : Option (Actor K)}
    (htarget : ∀ a, target = some a → a.latestHp ≠ 0 → c.Inside a.position) :
    (s.next c target).Inside c := by
  by_cases halive : s.state.isDead = false
  · rw [next_of_alive halive]
    split
    · rename_i hdest
      split
      · exact ⟨h.position, nofun, h.newPosition⟩
      · exact h.stepTowards hspeed (h.destination hdest) _
    · cases target with
      | none => exact h
      | some a =>
        dsimp only
        split
        · exact ⟨h.position, h.destination, h.newPosition⟩
        · rename_i hlatest
          split
          · exact ⟨h.position, h.destination, h.newPosition⟩
          · exact h.stepTowards hspeed (htarget a rfl hlatest) _
  · obtain ⟨n, hn⟩ := SoldierState.exists_of_isDead (by simpa using halive)
    rw [next_of_dead hn]
    split
    · exact ⟨hrespawn, nofun, h.newPosition⟩
    · exact ⟨h.position, h.destination, h.newPosition⟩

omit [IsStrictOrderedRing K] [SquareRoot K] in
/-- The late update makes a move to a place in the map. -/
theorem Inside.finish (h : s.Inside c) : (s.finish c).Inside c := by
  have hposition : c.Inside s.settled.position := by
    show c.Inside (if s.isNewPositionSet then s.newPosition else s.position)
    split
    · rename_i hset
      exact h.newPosition hset
    · exact h.position
  unfold Soldier.finish
  split
  · exact ⟨hposition, nofun, nofun⟩
  · exact ⟨hposition, h.destination, nofun⟩

end Inside

end Soldier

end Simulator
