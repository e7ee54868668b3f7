import Simulator.Main.Occupancy
import Simulator.State.Blows
import Simulator.State.Paths
import Simulator.State.SoldierRounds
import Simulator.Syncer.Moves

/-!
# Soldiers stay in the map

A turn gives orders, updates the towers and then the soldiers, and each of the three
keeps the soldiers in the map.

* A move is passed on after the turned destination has passed the test of
  `MoveSoldier`, so a finite one is in the map.  An attack goes to an actor.
* Towers stand in the map: the base towers by assumption, and the others because they
  are built in the middle of a map element.
* A soldier steps towards its destination, towards a soldier or towards a tower with
  some hp left, which is a listed one, or it respawns.

The soldiers are updated one after the other and each reads what the earlier ones have
left.  That does no harm, because every single update keeps all soldiers in the map.
-/

namespace Simulator

open Foundation

variable {K : Type} [Field K] [LinearOrder K]

namespace State

/-- All soldiers and towers are in the map, and so is what the soldiers go to. -/
structure Contained (c : Constants K) (st : State K) : Prop where
  soldiers : st.AllAt (Soldier.Inside c)
  sites : ∀ p, ∀ v ∈ st.sites p, c.Inside v

/-- The towers a player asks for are to stand in the map. -/
def BuildsInside (c : Constants K) (st : State K) (p : PlayerId) : Prop :=
  ∀ offset ∈ (st.towerManagers p).towersToBuildOffsets,
    c.Inside (offset.center c.mapElementSize)

/-! ## The update -/

section Update

variable [FloorRing K] [IsStrictOrderedRing K] {r : Ruleset K} {st st' : State K} {p : PlayerId}

theorem inside_center {m : GameMap} (hsize : m.size = r.mapSize) {cell : Cell}
    (hcell : m.Contains cell) :
    r.Inside ((Vector.ofInt cell.1 cell.2 : Vector K).center r.mapElementSize) := by
  obtain ⟨⟨hx, hx'⟩, hy, hy'⟩ := hcell
  rw [hsize] at hx' hy'
  have hpos := r.mapElementSize_pos
  have hside : ∀ i : ℤ, 0 ≤ i → i < r.mapSize →
      r.InSide (.ofInt r.mapElementSize * .ofInt i + .ofInt (r.mapElementSize / 2)) := by
    intro i hi hi'
    have hnonneg : 0 ≤ r.mapElementSize * i := mul_nonneg hpos.le hi
    have hlt : r.mapElementSize * (i + 1) ≤ r.mapElementSize * r.mapSize :=
      mul_le_mul_of_nonneg_left hi' hpos.le
    simp only [Constants.InSide, Double.ofInt_mul, Double.ofInt_add, Double.ofInt_le,
      Double.ofInt_lt]
    rw [mul_add, mul_one] at hlt
    rw [mul_comm (r.mapSize : ℤ)]
    omega
  exact ⟨hside _ hx hx', hside _ hy hy'⟩

/-- A player that builds in different valid cells builds in the map. -/
theorem Planned.buildsInside (h : st.Planned p) (hst : st.Sound r.toConstants) :
    st.BuildsInside r.toConstants p := by
  intro offset hoffset
  obtain ⟨cell, rfl, hcell, -⟩ := h.valid offset hoffset
  exact inside_center hst.size hcell

omit [IsStrictOrderedRing K] in
theorem Contained.updateTowers (h : st.Contained r.toConstants) (hst : st.Sound r.toConstants)
    (hbuilds : st.BuildsInside r.toConstants p) (hu : st.TowersUpdated r.toConstants p st') :
    st'.Contained r.toConstants := by
  constructor
  · intro q i s hs
    rw [hu.soldiers] at hs
    exact h.soldiers q i s hs
  · intro q v hv
    by_cases hq : q = p
    · subst hq
      rcases List.mem_append.mp (hu.sites.subset hv) with hv | hv
      · exact h.sites q v hv
      · obtain ⟨offset, hoffset, rfl⟩ := List.mem_map.mp hv
        rw [hst.elementSize]
        exact hbuilds offset hoffset
    · rw [State.sites, State.towers, hu.other q hq] at hv
      exact h.sites q v hv

variable [SquareRoot K]

omit [IsStrictOrderedRing K] [SquareRoot K] in
/-- A target with some hp left is in the map. -/
theorem Contained.inside_target (h : st.Contained r.toConstants) (hst : st.Sound r.toConstants)
    {x : PlayerId × ℕ} {a : Actor K} (ha : st.targetOf x.1 x.2 = some a) (hhp : a.latestHp ≠ 0) :
    r.Inside a.position := by
  obtain ⟨s, -, hs⟩ := Option.bind_eq_some_iff.mp ha
  obtain ⟨ptr, -, hptr⟩ := Option.bind_eq_some_iff.mp hs
  cases ptr with
  | soldier q j =>
    obtain ⟨u, hu, rfl⟩ := Option.map_eq_some_iff.mp hptr
    exact (h.soldiers q j u hu).position
  | tower q id =>
    obtain ⟨t, ht, -, rfl⟩ := hst.deref_tower.mp hptr
    exact h.sites q t.position (List.mem_map_of_mem ((hst.manager q).listed_of_alive ht hhp))

theorem Contained.actEffect (h : st.Contained r.toConstants) (hst : st.Sound r.toConstants)
    (hspeed : 0 ≤ r.soldierSpeed) (hrespawn : ∀ p, r.Inside (r.respawnPositions p))
    {x : PlayerId × ℕ} (hx : x.2 < r.numSoldiers) :
    (st.apply (st.actEffect r.toConstants x.1 x.2)).Contained r.toConstants := by
  obtain ⟨s, hs⟩ := hst.exists_soldier x.1 hx
  constructor
  · intro q i u' hu'
    obtain ⟨u, hu, -⟩ := Option.map_eq_some_iff.mp ((getElem?_apply ..).symm.trans hu')
    obtain rfl := Option.some.inj ((hst.getElem?_actEffect hs (y := (q, i)) hu).symm.trans hu')
    have hinside := h.soldiers q i u hu
    split
    · refine hinside.next ?_ (hrespawn _) fun a ha => h.inside_target hst ha
      rw [(hst.soldier q i u hu).speed_eq]
      exact hspeed
    · exact hinside.damage _
  · intro q v hv
    have hsites : (st.apply (st.actEffect r.toConstants x.1 x.2)).sites q = st.sites q :=
      (hst.fought_actAll [x]).sites q
    exact h.sites q v (hsites ▸ hv)

theorem Contained.actAll (h : st.Contained r.toConstants) (hst : st.Sound r.toConstants)
    (hspeed : 0 ≤ r.soldierSpeed) (hrespawn : ∀ p, r.Inside (r.respawnPositions p))
    {l : List (PlayerId × ℕ)} (hl : ∀ x ∈ l, x.2 < r.numSoldiers) :
    (st.actAll r.toConstants l).Contained r.toConstants :=
  hst.actAll_invariant h fun _ hst h x hx => h.actEffect hst hspeed hrespawn (hl x hx)

omit [FloorRing K] [IsStrictOrderedRing K] [SquareRoot K] in
theorem Contained.finishAll (h : st.Contained r.toConstants) {l : List (PlayerId × ℕ)}
    (hl : l.Nodup) : (st.finishAll r.toConstants l).Contained r.toConstants := by
  constructor
  · intro q i s' hs'
    rw [getElem?_finishAll _ hl] at hs'
    obtain ⟨s, hs, rfl⟩ := Option.map_eq_some_iff.mp hs'
    split
    · exact (h.soldiers q i s hs).finish
    · exact h.soldiers q i s hs
  · intro q
    rw [State.sites, State.towers, towerManagers_finishAll _ hl]
    exact h.sites q

/-- **The update of a state** keeps soldiers and towers in the map. -/
theorem Contained.update (h : st.Contained r.toConstants) (hready : st.Ready r)
    (hbuilds : ∀ p, st.BuildsInside r.toConstants p) (hspeed : 0 ≤ r.soldierSpeed)
    (hrespawn : ∀ p, r.Inside (r.respawnPositions p))
    (hupdate : State.update r.toConstants st = .ok st') : st'.Contained r.toConstants := by
  obtain ⟨st₁, st₂, -, hu₁, hu₂, hs₁, hs₂, hrun, -⟩ := hready.updateInOrder .player1
  have hbuilds₁ : st₁.BuildsInside r.toConstants .player2 := by
    rw [BuildsInside, hu₁.other .player2 (by decide)]
    exact hbuilds .player2
  have h₂ := (h.updateTowers hready.sound (hbuilds .player1) hu₁).updateTowers hs₁ hbuilds₁ hu₂
  obtain rfl := Except.ok.inj (hrun.symm.trans hupdate)
  exact (h₂.actAll hs₂ hspeed hrespawn fun x hx => (mem_roster.mp hx).2).finishAll
    (nodup_roster _ (by simp))

end Update

end State

/-! ## The commands -/

/-- Both coordinates are numbers. -/
def Vector.IsFinite (v : Vector K) : Prop := v.x ≠ .nan ∧ v.y ≠ .nan

/-- The players who are not skipped name finite destinations. -/
def Input.Finite {c : Constants K} (input : Input c) : Prop :=
  ∀ p, input.skipPlayerCommandsFlags p = false →
    ∀ k, ((input.playerStates p).soldiers k).destination.IsFinite

namespace Soldier

variable {c : Constants K} {s : Soldier K}

theorem Inside.move (h : s.Inside c) {destination : Vector K} (hdest : c.Inside destination) :
    (s.move destination).Inside c :=
  ⟨h.position, fun _ => hdest, h.newPosition⟩

theorem Inside.attack (h : s.Inside c) (target : ActorPtr) : (s.attack target).Inside c :=
  ⟨h.position, nofun, h.newPosition⟩

end Soldier

namespace StateSyncer

variable {c : Constants K} {m : GameMap}

omit [LinearOrder K] in
theorem isFinite_turnedFor (m : GameMap) (p : PlayerId) {v : Vector K} (h : v.IsFinite) :
    (turnedFor m p v).IsFinite := by
  obtain ⟨x, y⟩ := v
  obtain ⟨hx, hy⟩ := h
  cases x with
  | nan => exact absurd rfl hx
  | num x =>
    cases y with
    | nan => exact absurd rfl hy
    | num y =>
      unfold turnedFor
      split
      · exact ⟨nofun, nofun⟩
      · exact ⟨nofun, nofun⟩

theorem inMap_iff_inside (hsize : m.size = c.mapSize) (helementSize : m.elementSize =
    c.mapElementSize) {q : Vector K} : InMap m q ↔ c.Inside q := by
  rw [InMap, hsize, helementSize]
  exact Iff.rfl

variable [FloorRing K]

/-- An accepted move goes where the player says, turned, and not off the map. -/
theorem moveVerdict_move {p : PlayerId} {position q : Vector K} {i j : ℕ}
    (h : (moveVerdict m p position i).action = some (.move j q)) :
    q = turnedFor m p position ∧ ¬ NotInMap m q := by
  obtain ⟨hinside, ha⟩ := moveVerdict_action h
  obtain ⟨-, rfl⟩ := Action.move.inj ha
  exact ⟨rfl, hinside⟩

theorem soldierSlotVerdict_move {st : State K} {p : PlayerId} {ps : PlayerState c} {l : Ledger}
    {i j : ℕ} {q : Vector K} (h : (soldierSlotVerdict st p ps l i).action = some (.move j q)) :
    ∃ k, q = turnedFor st.map p (ps.soldiers k).destination ∧ ¬ NotInMap st.map q := by
  obtain ⟨s, soldier, -, -, hsoldier, h | h | h⟩ := soldierSlotVerdict_cases h
  · obtain ⟨t, -, -, ht⟩ := attackTowerVerdict_action h
    cases ht
  · obtain ⟨u, -, -, hu⟩ := attackSoldierVerdict_action h
    cases hu
  · obtain ⟨k, rfl⟩ : ∃ k, ps.soldiers k = soldier := by
      unfold arrayAt at hsoldier
      split at hsoldier
      · exact ⟨_, Except.ok.inj hsoldier⟩
      · cases hsoldier
    exact ⟨k, moveVerdict_move h⟩

/-- **Where the accepted moves of a player go.** -/
theorem move_of_mem_playerVerdicts {st : State K} {ps : PlayerId → PlayerState c}
    {skip : PlayerId → Bool} {p : PlayerId} {v : Verdict K} (hv : v ∈ playerVerdicts st ps skip p)
    {j : ℕ} {q : Vector K} (ha : v.action = some (.move j q)) : skip p = false ∧
      ∃ k, q = turnedFor st.map p ((ps p).soldiers k).destination ∧ ¬ NotInMap st.map q := by
  rcases List.mem_append.mp hv with hv | hv
  · obtain ⟨-, l, i, rfl⟩ := exists_of_mem_firstVerdicts hv
    obtain ⟨t, -, ⟨-, -, h⟩ | ⟨-, h⟩⟩ := towerSlotVerdict_action ha <;> cases h
  · obtain ⟨hskip, l, ⟨i, rfl⟩ | ⟨o, rfl⟩⟩ := exists_of_mem_secondVerdicts hv
    · exact ⟨hskip, soldierSlotVerdict_move ha⟩
    · obtain ⟨-, -, -, h⟩ := elementVerdict_action ha
      cases h

/-- **The commands** keep all soldiers in the map. -/
theorem contained_carryOutAll [IsStrictOrderedRing K] {r : Ruleset K} {st : State K}
    (h : st.Contained r.toConstants) (hst : st.Sound r.toConstants) {input : Input r.toConstants}
    (hfinite : input.Finite) (p : PlayerId) :
    (st.carryOutAll (allVerdicts st input.playerStates input.skipPlayerCommandsFlags
      p)).Contained r.toConstants := by
  constructor
  · refine st.carryOutAll_invariant (I := fun st' => st'.AllAt (Soldier.Inside r.toConstants))
      h.soldiers ?_
    rintro st' _ hst' ⟨p', v⟩ hv
    -- an order to one soldier
    have horder : ∀ i (g : Soldier K → Soldier K),
        (∀ s, s.Inside r.toConstants → (g s).Inside r.toConstants) →
        (st'.modifySoldier p' i g).AllAt (Soldier.Inside r.toConstants) := by
      intro i g hg q k s hs
      rw [State.getElem?_modifySoldier, Option.map_eq_some_iff] at hs
      obtain ⟨u, hu, rfl⟩ := hs
      split
      · exact hg u (hst' q k u hu)
      · exact hst' q k u hu
    show (st'.carryOut p' v.action).AllAt _
    cases ha : v.action with
    | none => exact hst'
    | some a =>
      cases a with
      | move i q =>
        obtain ⟨hskip, k, rfl, htest⟩ := move_of_mem_playerVerdicts (mem_playerVerdicts hv) ha
        have hturned := isFinite_turnedFor st.map p' (hfinite p' hskip k)
        have hinside := (inMap_iff_inside hst.size hst.elementSize).mp
          (inMap_iff.mpr ⟨htest, hturned.1, hturned.2⟩)
        exact horder i _ fun s hs => hs.move hinside
      | attack i target => exact horder i _ fun s hs => hs.attack target
      | upgrade | suicide | build => exact hst'
  · intro q
    rw [State.sites, (State.sameButOrders_carryOutAll st _).towers]
    exact h.sites q

end StateSyncer

/-! ## Every run -/

section Runs

variable [FloorRing K] [IsStrictOrderedRing K] {r : Ruleset K}

omit [IsStrictOrderedRing K] in
theorem State.Started.contained {st : State K} (h : st.Started r.toConstants)
    (hbases : ∀ p, r.Inside (r.baseTowerPositions p)) : st.Contained r.toConstants := by
  constructor
  · intro p i s hs
    rw [h.soldier hs]
    exact ⟨hbases p, nofun, nofun⟩
  · intro p v hv
    rw [State.sites, h.towers, List.map_cons, List.map_nil, List.mem_singleton] at hv
    exact hv ▸ hbases p

variable [SquareRoot K]

/-- **A turn** with finite destinations keeps soldiers and towers in the map. -/
theorem State.Contained.turn {st : State K} (h : st.Contained r.toConstants) (hrested : st.Rested r)
    (hspeed : 0 ≤ r.soldierSpeed) (hrespawn : ∀ p, r.Inside (r.respawnPositions p))
    {input : Input r.toConstants} (hfinite : input.Finite) :
    ∃ st', playTurn r st input = .ok st' ∧ st'.Rested r ∧ st'.Contained r.toConstants := by
  obtain ⟨ph, st', hrun, hready, hupdate, hrested'⟩ := hrested.turn input
  have hstate := hrested.state_of_execute hrun
  refine ⟨st', bind_eq_ok.mpr ⟨ph, hrun, hupdate⟩, hrested', ?_⟩
  have hcontained := StateSyncer.contained_carryOutAll h hrested.sound hfinite .player1
  rw [← hstate] at hcontained
  refine hcontained.update hready ?_ hspeed hrespawn hupdate
  intro p
  refine State.Planned.buildsInside ?_ hready.sound
  rw [hstate]
  exact StateSyncer.planned_carryOutAll hrested _ _ _ p

/-- **Soldiers never leave the map.**  If the bases and the respawn positions are in the
map, then so are all soldiers, after any number of turns in which the players name finite
destinations. -/
theorem soldiers_inMap (hspeed : 0 ≤ r.soldierSpeed)
    (hbases : ∀ p, r.Inside (r.baseTowerPositions p))
    (hrespawn : ∀ p, r.Inside (r.respawnPositions p)) (inputs : List (Input r.toConstants))
    (hfinite : ∀ input ∈ inputs, input.Finite) : ∃ st, play r inputs = .ok st ∧
      ∀ p, ∀ s ∈ st.soldiers p, StateSyncer.InMap st.map s.position := by
  obtain ⟨st₀, h₀, hstarted⟩ := State.exists_started r
  obtain ⟨st, hrun, -, hrested, hcontained⟩ := foldlM_queue
    (I := fun (rest : List (Input r.toConstants)) (st : State K) =>
      (∀ input ∈ rest, input.Finite) ∧ st.Rested r ∧ st.Contained r.toConstants)
    (fun input rest st ⟨hfinite, hrested, hcontained⟩ => by
      obtain ⟨st', hturn, hrested', hcontained'⟩ := hcontained.turn hrested hspeed hrespawn
        (hfinite input (List.mem_cons_self ..))
      exact ⟨st', hturn, fun input hinput => hfinite input (List.mem_cons_of_mem _ hinput),
        hrested', hcontained'⟩)
    ⟨hfinite, hstarted.rested, hstarted.contained hbases⟩
  refine ⟨st, bind_eq_ok.mpr ⟨st₀, h₀, hrun⟩, ?_⟩
  intro p s hs
  obtain ⟨i, hi⟩ := List.mem_iff_getElem?.mp hs
  exact (StateSyncer.inMap_iff_inside hrested.sound.size hrested.sound.elementSize).mpr
    (hcontained.soldiers p i s hi).position

omit [Field K] [LinearOrder K] [FloorRing K] [IsStrictOrderedRing K] [SquareRoot K] in
/-- In the small game player 1 moves to `(5, 4)` and player 2 attacks, so that the soldier
of player 1 dies on its way, and it respawns two turns later. -/
theorem soldiers_inMap_sample : ∃ st : State ℚ,
    play sampleRules [bothPlay _ (.moveSoldiers _ 0 ⟨.num 5, .num 4⟩) (.quiet _),
      bothPlay _ (.quiet _) (.attackSoldier _ 1 0), bothPlay _ (.quiet _) (.quiet _),
      bothPlay _ (.quiet _) (.quiet _)] = .ok st ∧
      ∀ p, ∀ s ∈ st.soldiers p, StateSyncer.InMap st.map s.position := by
  refine soldiers_inMap (by decide) (by decide) (by decide) _ ?_
  simp only [List.forall_mem_cons]
  refine ⟨fun p _ k => ?_, fun p _ k => ?_, fun p _ k => ?_, fun p _ k => ?_, nofun⟩ <;>
    cases p <;> exact ⟨nofun, nofun⟩

end Runs

end Simulator
