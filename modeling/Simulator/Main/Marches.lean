import Simulator.Main.Respawning
import Simulator.State.Arrivals

/-!
# Soldiers arrive

A soldier that is on its way, gets no new orders and stays alive walks: every turn takes it
one step of the path planner, and the turn after the one in which it has reached its
destination makes it idle.

## The soldier by itself

The statement is about one soldier and the turns it goes through, in any company.  Nothing that
happens around it has an influence on its way: damage that does not kill it changes its hp only,
and what its update finds behind its target pointer is not looked at while it has a destination.
Other soldiers do not stand in its way, as the simulator knows no collisions.

So the run of a walking soldier is an iteration.  `Plays.walks` is the step: a turn takes the
position one step of the planner further, or the soldier finds itself at its destination and
stops.  `Undisturbed.arrives` is the run, by induction on the number of turns.

## The distance

How long that takes is a matter of the path planner, whose walk is known in closed form
(`walk_eq_iff`): with a positive speed and a distance that is a number, the walk is at its end
from step `⌈D / speed⌉` on, and at no step before that.  `arrives_on_time` puts the two together.
-/

namespace Simulator

open Foundation

namespace Soldier

variable {K : Type} [Field K] [LinearOrder K] [SquareRoot K]

/-- Nothing but damage happens to the soldier before its update. -/
def TurnEvents.NoOrders (e : TurnEvents K) : Prop :=
  ∀ event ∈ e.before, ∃ d, event = .damage d

section Turn

variable {c : Constants K} {s s' : Soldier K} {e : TurnEvents K}

omit [Field K] [LinearOrder K] [SquareRoot K] in
theorem exists_foldl_damage (s : Soldier K) (ds : List ℤ) :
    ∃ damageIncurred, ds.foldl damage s = { s with damageIncurred } := by
  induction ds generalizing s with
  | nil => exact ⟨s.damageIncurred, rfl⟩
  | cons d ds ih =>
    obtain ⟨damageIncurred, h⟩ := ih (s.damage d)
    exact ⟨damageIncurred, h⟩

omit [Field K] [LinearOrder K] [SquareRoot K] in
theorem TurnEvents.NoOrders.exists_met (h : e.NoOrders) (s : Soldier K) :
    ∃ damageIncurred, e.met s = { s with damageIncurred } := by
  have hmet : ∀ (events : List (Event K)) (s : Soldier K),
      (∀ event ∈ events, ∃ d, event = .damage d) →
      ∃ damageIncurred, events.foldl Event.happen s = { s with damageIncurred } := by
    intro events
    induction events with
    | nil => exact fun s _ => ⟨s.damageIncurred, rfl⟩
    | cons event events ih =>
      intro s hall
      obtain ⟨d, rfl⟩ := hall event (List.mem_cons_self ..)
      obtain ⟨damageIncurred, hrest⟩ := ih (s.damage d)
        fun event hevent => hall event (List.mem_cons_of_mem _ hevent)
      exact ⟨damageIncurred, hrest⟩
  exact hmet e.before s h

/-- **A turn of a walking soldier**: it takes a step, or it has arrived and stops. -/
theorem Plays.walks (h : Plays c e s s') (hs : s.Resting c)
    (hT : 1 ≤ c.soldierTotalTurnsToRespawn) (horders : e.NoOrders)
    (hdest : s.isDestinationSet = true) (hhp : s.hp ≠ 0) (hhp' : s'.hp ≠ 0) :
    if s.position.Equal s.destination then
      s'.state = .idle ∧ s'.isDestinationSet = false ∧ s'.position = s.position
    else s'.state = .move ∧ s'.isDestinationSet = true ∧ s'.destination = s.destination ∧
      s'.speed = s.speed ∧
      s'.position = SimplePathPlanner.getNextPosition s.position s.destination s.speed := by
  obtain ⟨heq, -⟩ := h.eq_finish hs hT
  obtain ⟨d, hmet⟩ := horders.exists_met s
  have halive : (e.met s).state.isDead = false := by
    rw [hmet]
    exact hs.orderly.state_ne_dead hhp
  obtain ⟨d', hhurt⟩ := exists_foldl_damage ((e.met s).next c e.target) e.after
  have hhurt' : e.hurt c s = _ := hhurt
  -- it is not killed in the late update
  have hlives : s' = (e.hurt c s).settled := by
    rw [heq, finish, if_neg]
    rintro ⟨hzero, hstate⟩
    refine hhp' ?_
    rw [heq, finish, if_pos ⟨hzero, hstate⟩]
    exact hzero
  have hmetDest : (e.met s).isDestinationSet = true := by rw [hmet]; exact hdest
  rw [next_of_alive halive, if_pos hmetDest] at hhurt'
  have hnew : s.isNewPositionSet = false := hs.atRest.isNewPositionSet_eq
  split
  · rename_i harrived
    have hmetArrived : (e.met s).position.Equal (e.met s).destination := by
      rw [hmet]
      exact harrived
    rw [hlives, hhurt', if_pos hmetArrived, hmet]
    simp [settled, hnew]
  · rename_i haway
    have hmetAway : ¬ (e.met s).position.Equal (e.met s).destination := by
      rw [hmet]
      exact haway
    rw [hlives, hhurt', if_neg hmetAway, hmet]
    simp [settled, stepTowards, setNewPosition, hdest]

end Turn

/-! ## A march -/

/-- The soldier is on its way from one place to another. -/
structure SetsOut (s : Soldier K) (source dest : Vector K) (speed : ℤ) : Prop where
  state : s.state = .move
  position : s.position = source
  destination : s.destination = dest
  speed : s.speed = speed

/-- In the turns from `0` to `N` a soldier gets no orders and stays alive. -/
structure Undisturbed (c : Constants K) (N : ℕ) (run : ℕ → Soldier K) (e : ℕ → TurnEvents K) :
    Prop where
  plays : ∀ k ≤ N, Plays c (e k) (run k) (run (k + 1))
  noOrders : ∀ k ≤ N, (e k).NoOrders
  alive : ∀ k ≤ N + 1, (run k).hp ≠ 0

section March

open SimplePathPlanner

variable [IsStrictOrderedRing K] [FloorRing K] [ExactSquareRoot K] {c : Constants K}
  {x y x' y' D : K} {speed : ℤ}

omit [LinearOrder K] [SquareRoot K] [IsStrictOrderedRing K] [FloorRing K] [ExactSquareRoot K]
  [Field K] in
theorem equal_iff {a b : K} {v : Vector K} : v.Equal ⟨.num a, .num b⟩ ↔ v = ⟨.num a, .num b⟩ := by
  obtain ⟨u, w⟩ := v
  constructor
  · rintro ⟨hu, hw⟩
    have hu' : u = .num a := Double.Equal.eq hu
    have hw' : w = .num b := Double.Equal.eq hw
    rw [hu', hw']
  · rintro ⟨⟩
    exact ⟨rfl, rfl⟩

/-- **A soldier on its way** walks until it has arrived, and then stops. -/
theorem Undisturbed.arrives (hD : D * D = (x' - x) * (x' - x) + (y' - y) * (y' - y))
    (hnonneg : 0 ≤ D) (hspeed : 0 < speed) (hT : 1 ≤ c.soldierTotalTurnsToRespawn)
    {run : ℕ → Soldier K} {e : ℕ → TurnEvents K}
    (h : Undisturbed c ⌈D / (speed : K)⌉₊ run e) (hs : (run 0).Resting c)
    (hstart : (run 0).SetsOut ⟨.num x, .num y⟩ ⟨.num x', .num y'⟩ speed) :
    (∀ k ≤ ⌈D / (speed : K)⌉₊, (run k).state = .move ∧
      (run k).position = walk ⟨.num x, .num y⟩ ⟨.num x', .num y'⟩ speed k) ∧
    (run (⌈D / (speed : K)⌉₊ + 1)).state = .idle ∧
    (run (⌈D / (speed : K)⌉₊ + 1)).isDestinationSet = false ∧
    (run (⌈D / (speed : K)⌉₊ + 1)).position = ⟨.num x', .num y'⟩ := by
  have hway : ∀ k ≤ ⌈D / (speed : K)⌉₊, (run k).Resting c ∧ (run k).isDestinationSet = true ∧
      (run k).SetsOut (walk ⟨.num x, .num y⟩ ⟨.num x', .num y'⟩ speed k) ⟨.num x', .num y'⟩
        speed := by
    intro k
    induction k with
    | zero => exact fun _ => ⟨hs, (hs.atRest.moving hstart.state).1, hstart⟩
    | succ k ih =>
      intro hk
      obtain ⟨hrest, hdest, hset⟩ := ih (by omega)
      have hplays := h.plays k (by omega)
      have hturn := hplays.walks hrest hT (h.noOrders k (by omega)) hdest (h.alive k (by omega))
        (h.alive (k + 1) (by omega))
      have haway : ¬ (run k).position.Equal (run k).destination := by
        rw [hset.position, hset.destination, equal_iff, walk_eq_iff hD hnonneg hspeed]
        omega
      rw [if_neg haway] at hturn
      obtain ⟨hstate, hdest', hdestination, hspeed', hposition⟩ := hturn
      refine ⟨(hplays.eq_finish hrest hT).2.1, hdest', hstate, ?_,
        hdestination.trans hset.destination, hspeed'.trans hset.speed⟩
      rw [hposition, hset.position, hset.destination, hset.speed, walk_succ]
  refine ⟨fun k hk => ⟨(hway k hk).2.2.state, (hway k hk).2.2.position⟩, ?_⟩
  obtain ⟨hrest, hdest, hset⟩ := hway _ le_rfl
  have hturn := (h.plays _ le_rfl).walks hrest hT (h.noOrders _ le_rfl) hdest
    (h.alive _ (by omega)) (h.alive _ le_rfl)
  have harrived := (walk_eq_iff hD hnonneg hspeed _).mpr le_rfl
  have hthere : (run ⌈D / (speed : K)⌉₊).position.Equal (run ⌈D / (speed : K)⌉₊).destination := by
    rw [hset.position, hset.destination, equal_iff]
    exact harrived
  rw [if_pos hthere] at hturn
  exact ⟨hturn.1, hturn.2.1, by rw [hturn.2.2, hset.position, harrived]⟩

end March

/-- **The path planner arrives on time**, and so does a soldier that it leads.  The walk
from `(x, y)` to `(x', y')` stays on the segment, every step brings it nearer by the speed
while more than that is left, and it is at its end from step `⌈D / speed⌉` on. -/
theorem arrives_on_time {x y x' y' D : ℚ} {speed : ℤ} (hnonneg : 0 ≤ D)
    (hD : D * D = (x' - x) * (x' - x) + (y' - y) * (y' - y)) (hspeed : 0 < speed) :
    let source : Vector ℚ := ⟨.num x, .num y⟩
    let dest : Vector ℚ := ⟨.num x', .num y'⟩
    let position := SimplePathPlanner.walk source dest speed
    let steps := ⌈D / (speed : ℚ)⌉₊
    (∀ n, ∃ t ∈ Set.Icc (0 : ℚ) 1,
      position n = ⟨.num (x + t * (x' - x)), .num (y + t * (y' - y))⟩) ∧
    (∀ n, Double.ofInt speed < (position n).distance dest →
      (position (n + 1)).distance dest = (position n).distance dest - Double.ofInt speed) ∧
    (∀ n, position n = dest ↔ steps ≤ n) ∧
    ∀ (r : Ruleset ℚ) (run : ℕ → Soldier ℚ) (e : ℕ → TurnEvents ℚ),
      (run 0).Resting r.toConstants → (run 0).SetsOut source dest speed →
      Undisturbed r.toConstants steps run e →
      (∀ k ≤ steps, (run k).state = .move ∧ (run k).position = position k) ∧
      (run (steps + 1)).state = .idle ∧ (run (steps + 1)).isDestinationSet = false ∧
      (run (steps + 1)).position = dest :=
  ⟨SimplePathPlanner.walk_mem_segment hD hnonneg hspeed.le,
    SimplePathPlanner.distance_walk_succ hD hnonneg hspeed.le,
    SimplePathPlanner.walk_eq_iff hD hnonneg hspeed,
    fun r _ _ hs hstart h => h.arrives hD hnonneg hspeed r.soldierTotalTurnsToRespawn_pos hs hstart⟩

/-- A soldier of the small game, at speed 2, on its way to a place at distance 5. -/
def sampleMarch : ℕ → Soldier ℚ
  | 0 => { buildSoldier sampleRules.toConstants .player1 0 with
      state := .move, destination := Vector.ofInt 4 5, isDestinationSet := true, speed := 2 }
  | k + 1 => ((turn sampleRules.toConstants
      ⟨[], none, buildMoneyManager sampleRules.toConstants, []⟩ (sampleMarch k)).toOption).getD
        (sampleMarch k)

theorem arrives_on_time_sample :
    (sampleMarch 2).position = ⟨.num (17 / 5), .num (21 / 5)⟩ ∧
      (sampleMarch 3).position = Vector.ofInt 4 5 ∧ (sampleMarch 3).state = .move ∧
      (sampleMarch 4).state = .idle := by
  have hnumbers : Vector.ofInt 1 1 = (⟨.num 1, .num 1⟩ : Vector ℚ) ∧
      Vector.ofInt 4 5 = (⟨.num 4, .num 5⟩ : Vector ℚ) := by decide +kernel
  have hsteps : ⌈(5 : ℚ) / ((2 : ℤ) : ℚ)⌉₊ = 3 := by decide +kernel
  have hresting : (sampleMarch 0).Resting sampleRules.toConstants :=
    ⟨⟨by decide, by decide, by decide, by decide, nofun, by decide, fun _ => rfl,
      fun _ _ => .inl rfl⟩, ⟨by decide, by decide, by decide, rfl, rfl, nofun,
      fun _ => ⟨rfl, rfl⟩, nofun⟩, by decide⟩
  have hturns : ∀ k ≤ 3, turn sampleRules.toConstants
      ⟨[], none, buildMoneyManager sampleRules.toConstants, []⟩ (sampleMarch k) =
        .ok (sampleMarch (k + 1)) := by
    have hreturn : ∀ k ≤ 3, ((turn sampleRules.toConstants
        ⟨[], none, buildMoneyManager sampleRules.toConstants, []⟩
        (sampleMarch k)).toOption).isSome := by
      decide +kernel
    intro k hk
    have hsome := hreturn k hk
    rw [sampleMarch]
    cases hturn : turn sampleRules.toConstants
        ⟨[], none, buildMoneyManager sampleRules.toConstants, []⟩ (sampleMarch k) with
    | error fault => simp [hturn, Except.toOption] at hsome
    | ok s => rfl
  have htarget : ∀ k ≤ 3, (sampleMarch k).attackTarget = none := by decide +kernel
  have hlength : (5 : ℚ) * 5 = (4 - 1) * (4 - 1) + (5 - 1) * (5 - 1) := by norm_num
  have h : Undisturbed sampleRules.toConstants 3 sampleMarch
      (fun _ => ⟨[], none, buildMoneyManager sampleRules.toConstants, []⟩) := by
    refine ⟨fun k hk => ⟨by simp, by simp, ?_, hturns k hk⟩, ?_, by decide +kernel⟩
    · exact ⟨fun _ => htarget k hk, fun _ => rfl⟩
    · intro k _
      simp [TurnEvents.NoOrders]
  obtain ⟨-, -, -, hmarch⟩ := arrives_on_time (by decide) hlength
    (show (0 : ℤ) < 2 by decide)
  rw [hsteps] at hmarch
  obtain ⟨hway, hidle, -⟩ := hmarch sampleRules sampleMarch _ hresting
    ⟨rfl, hnumbers.1, hnumbers.2, rfl⟩ h
  exact ⟨by decide +kernel, by decide +kernel, (hway 3 le_rfl).1, hidle⟩

end Soldier

end Simulator
