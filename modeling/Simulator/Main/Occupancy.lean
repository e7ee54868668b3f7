import Simulator.Main.Runs

/-!
# One tower per cell

Nothing in the program keeps a cell from being built on twice, but nobody can.  A
new tower stands on a cell that belongs to its player alone and that none of its
player's towers stands on.  A tower of the opponent does not stand there either,
because a tower covers its own cell, so its player owns it.  Two new towers of one
turn stand on different cells: those of one player because they come from different
map elements, and those of different players because a cell that belongs to one of
them alone does not belong to the other.

All of this is about the positions of towers, which never change, and about the map
before any of the builds of the turn.
-/

namespace Simulator

open Foundation

variable {K : Type} [Field K] [LinearOrder K] [FloorRing K]

/-! ## Positions and cells -/

/-- The position lies in the cell. -/
def Vector.LiesIn (elementSize : ℤ) (position : Vector K) (cell : Cell) : Prop :=
  (position.divide (.ofInt elementSize)).floor.Equal (Vector.ofInt cell.1 cell.2)

/-- The positions do not lie in one cell. -/
def Vector.Apart (elementSize : ℤ) (v w : Vector K) : Prop :=
  ∀ cell, ¬ (v.LiesIn elementSize cell ∧ w.LiesIn elementSize cell)

omit [LinearOrder K] [FloorRing K] in
/-- The centre of the cell at an offset. -/
def Vector.center (elementSize : ℤ) (offset : Vector K) : Vector K :=
  ⟨.ofInt elementSize * offset.x + .ofInt (elementSize / 2),
    .ofInt elementSize * offset.y + .ofInt (elementSize / 2)⟩

theorem Vector.Apart.symm {elementSize : ℤ} {v w : Vector K} (h : v.Apart elementSize w) :
    w.Apart elementSize v := fun cell hcell => h cell ⟨hcell.2, hcell.1⟩

theorem Vector.liesIn_center [IsStrictOrderedRing K] {elementSize : ℤ} (hpos : 0 < elementSize)
    (cell cell' : Cell) :
    ((Vector.ofInt cell.1 cell.2 : Vector K).center elementSize).LiesIn elementSize cell' ↔
      cell' = cell := by
  have hcoord : ∀ i : ℤ, (elementSize * i + elementSize / 2) / elementSize = i := by
    intro i
    rw [mul_comm, Int.add_comm, Int.add_mul_ediv_right _ _ hpos.ne',
      Int.ediv_eq_zero_of_lt (by omega) (by omega), zero_add]
  simp only [LiesIn, center, divide, floor, Vector.ofInt, Equal, Double.ofInt_mul, Double.ofInt_add,
    Double.floor_ofInt_div _ hpos, hcoord, Double.equal_ofInt]
  rw [Prod.ext_iff]
  exact and_congr eq_comm eq_comm

namespace State

/-- The positions of the towers of a player. -/
def sites (st : State K) (p : PlayerId) : List (Vector K) := (st.towers p).map Tower.position

/-- No two towers of the two players stand on one cell. -/
def Spread (st : State K) : Prop :=
  (st.sites .player1 ++ st.sites .player2).Pairwise (Vector.Apart st.map.elementSize)

omit [LinearOrder K] [FloorRing K] in
theorem position_freshTowers (c : Constants K) (p : PlayerId) (elementSize id : ℤ)
    (offsets : List (Vector K)) :
    (TowerEnv.freshTowers c p elementSize id offsets).map Tower.position =
      offsets.map (Vector.center elementSize) := by
  induction offsets generalizing id with
  | nil => rfl
  | cons offset offsets ih => exact congrArg _ (ih _)

omit [LinearOrder K] [FloorRing K] in
theorem TowersUpdated.sites {c : Constants K} {p : PlayerId} {st st' : State K}
    (h : st.TowersUpdated c p st') : (st'.sites p).Sublist (st.sites p ++
      (st.towerManagers p).towersToBuildOffsets.map (Vector.center st.map.elementSize)) := by
  have hworked : (st.workedTowers c p).map Tower.position = st.sites p ++
      (st.towerManagers p).towersToBuildOffsets.map (Vector.center st.map.elementSize) := by
    have hposition : Tower.position ∘ (st.towerManagers p).processed c = Tower.position :=
      funext fun t => TowerManager.position_processed c _ t
    rw [workedTowers, TowerManager.worked, List.map_map, hposition, List.map_append,
      position_freshTowers]
    rfl
  rw [← hworked, State.sites, State.towers, h.manager]
  exact List.filter_sublist.map _

omit [Field K] [LinearOrder K] [FloorRing K] in
theorem Fought.sites {st st' : State K} (h : st.Fought st') (p : PlayerId) :
    st'.sites p = st.sites p := by
  obtain ⟨g, hg, hm⟩ := h.manager p
  rw [State.sites, State.towers, hm, TowerManager.mapTowers, List.map_map]
  exact List.map_congr_left fun t ht =>
    (hg t (TowerManager.mem_allocatedTowers_of_mem ht)).position

/-- **A listed tower owns the cell it stands on.** -/
theorem Sound.owns_of_liesIn [IsStrictOrderedRing K] {r : Ruleset K} {st : State K}
    (h : st.Sound r.toConstants) (hranges : ∀ range ∈ r.towerRanges, 0 ≤ range) {p : PlayerId}
    {v : Vector K} (hv : v ∈ st.sites p) {cell : Cell} (hmap : st.map.Contains cell)
    (hcell : v.LiesIn st.map.elementSize cell) : st.map.owns p cell = true := by
  obtain ⟨t, ht, rfl⟩ := List.mem_map.mp hv
  have hsound := (h.manager p).tower t (TowerManager.mem_allocatedTowers_of_mem ht)
  obtain ⟨bounds, hb⟩ := TowerEnv.exists_calculateBounds hsound st.map
  have hcovers : TowerEnv.Covers r.toConstants st.map t cell := by
    rw [TowerEnv.covers_iff hb]
    obtain ⟨range, hrange, rfl⟩ := TowerEnv.calculateBounds_eq_ok.mp hb
    have hnonneg := hranges range (mem_of_vectorAt hrange)
    refine TowerEnv.towerBounds_mono st.map t hnonneg ?_
    obtain ⟨hx, hy⟩ := hcell
    have hx' := hx.eq
    have hy' := hy.eq
    simp only [TowerEnv.towerBounds, hx', hy', Vector.ofInt, Double.ofInt_sub, Double.ofInt_add,
      Double.toInt_ofInt, Bounds.Contains, GameMap.Contains] at hmap ⊢
    omega
  have howns := (h.painted p).owns_of_covers (e := st.towerEnv p) ht hcovers
  rwa [show (st.towerEnv p).manager.playerId = p from (h.manager p).playerId_eq] at howns

/-- The builds that are requested are for different valid cells. -/
structure Planned (st : State K) (p : PlayerId) : Prop where
  nodup : (st.towerManagers p).towersToBuildOffsets.Nodup
  valid : ∀ offset ∈ (st.towerManagers p).towersToBuildOffsets, ∃ cell,
    offset = Vector.ofInt cell.1 cell.2 ∧ st.map.Contains cell ∧
      StateSyncer.IsValidTerritory st p cell

section Update

variable [IsStrictOrderedRing K] {r : Ruleset K} {st : State K}

/-- The sites after the builds, of the two players together. -/
theorem spread_builds (h : st.Sound r.toConstants)
    (hranges : ∀ range ∈ r.towerRanges, 0 ≤ range) (hspread : st.Spread)
    (hplanned : ∀ p, st.Planned p) :
    let builds p := (st.towerManagers p).towersToBuildOffsets.map
      (Vector.center st.map.elementSize)
    ((st.sites .player1 ++ builds .player1) ++ (st.sites .player2 ++ builds .player2)).Pairwise
      (Vector.Apart st.map.elementSize) := by
  intro builds
  have hpos : 0 < st.map.elementSize := by
    rw [h.elementSize]
    exact r.mapElementSize_pos
  -- every build is on a valid cell, and on no other
  have hbuild : ∀ {p : PlayerId} {v : Vector K}, v ∈ builds p → ∃ cell, st.map.Contains cell ∧
      StateSyncer.IsValidTerritory st p cell ∧
      ∀ cell', v.LiesIn st.map.elementSize cell' ↔ cell' = cell := by
    intro p v hv
    obtain ⟨offset, hoffset, rfl⟩ := List.mem_map.mp hv
    obtain ⟨cell, rfl, hmap, hvalid⟩ := (hplanned p).valid offset hoffset
    exact ⟨cell, hmap, hvalid, Vector.liesIn_center hpos cell⟩
  have hself : ∀ p, ∀ v ∈ st.sites p, ∀ w ∈ builds p, v.Apart st.map.elementSize w := by
    rintro p v hv w hw cell ⟨hvcell, hwcell⟩
    obtain ⟨cell', -, ⟨-, -, hfree⟩, hiff⟩ := hbuild hw
    obtain rfl := (hiff cell).mp hwcell
    obtain ⟨t, ht, rfl⟩ := List.mem_map.mp hv
    have hoccupied : StateSyncer.isOccupied st.map (st.towers p) cell = true :=
      List.any_eq_true.mpr ⟨t, ht, by simpa [Vector.LiesIn] using hvcell⟩
    simp [hfree] at hoccupied
  have hnew : ∀ p, (builds p).Pairwise (Vector.Apart st.map.elementSize) := by
    intro p
    refine List.pairwise_map.mpr ((hplanned p).nodup.imp_of_mem fun hv hw hne cell hcell => hne ?_)
    obtain ⟨cell₁, rfl, -⟩ := (hplanned p).valid _ hv
    obtain ⟨cell₂, rfl, -⟩ := (hplanned p).valid _ hw
    rw [← (Vector.liesIn_center hpos cell₁ cell).mp hcell.1,
      ← (Vector.liesIn_center hpos cell₂ cell).mp hcell.2]
  have hacross : ∀ p, ∀ v ∈ st.sites p, ∀ w ∈ builds p.opponent, v.Apart st.map.elementSize w := by
    rintro p v hv w hw cell ⟨hvcell, hwcell⟩
    obtain ⟨cell', hmap, ⟨-, hother, -⟩, hiff⟩ := hbuild hw
    obtain rfl := (hiff cell).mp hwcell
    rw [PlayerId.opponent_opponent, h.owns_of_liesIn hranges hv hmap hvcell] at hother
    cases hother
  have hboth : ∀ v ∈ builds .player1, ∀ w ∈ builds .player2, v.Apart st.map.elementSize w := by
    rintro v hv w hw cell ⟨hvcell, hwcell⟩
    obtain ⟨cell₁, -, ⟨howns, -, -⟩, hiff₁⟩ := hbuild hv
    obtain ⟨cell₂, -, ⟨-, hother, -⟩, hiff₂⟩ := hbuild hw
    obtain rfl := (hiff₁ cell).mp hvcell
    obtain rfl := (hiff₂ cell).mp hwcell
    rw [PlayerId.opponent, howns] at hother
    cases hother
  obtain ⟨hspread₁, hspread₂, hspread⟩ := List.pairwise_append.mp hspread
  refine List.pairwise_append.mpr
    ⟨List.pairwise_append.mpr ⟨hspread₁, hnew .player1, hself .player1⟩,
      List.pairwise_append.mpr ⟨hspread₂, hnew .player2, hself .player2⟩, ?_⟩
  intro v hv w hw
  rcases List.mem_append.mp hv with hv | hv <;> rcases List.mem_append.mp hw with hw | hw
  · exact hspread v hv w hw
  · exact hacross .player1 v hv w hw
  · exact (hacross .player2 w hw v hv).symm
  · exact hboth v hv w hw

variable [SquareRoot K]

/-- **The update of a state with planned builds** puts no two towers on one cell. -/
theorem Ready.spread_update (h : st.Ready r) (hranges : ∀ range ∈ r.towerRanges, 0 ≤ range)
    (hspread : st.Spread) (hplanned : ∀ p, st.Planned p) {st' : State K}
    (hupdate : State.update r.toConstants st = .ok st') : st'.Spread := by
  obtain ⟨st₁, st₂, hu₁, hu₂, hfought⟩ := h.exists_fought hupdate
  have h₁ := hu₁.sites
  have h₂ := hu₂.sites
  have hsites₁ : st₁.sites .player1 = st₂.sites .player1 := by
    rw [State.sites, State.sites, State.towers, State.towers, hu₂.other .player1 (by decide)]
  have hsites₂ : st₁.sites .player2 = st.sites .player2 := by
    rw [State.sites, State.sites, State.towers, State.towers, hu₁.other .player2 (by decide)]
  rw [hsites₁] at h₁
  rw [hsites₂, hu₁.other .player2 (by decide), hu₁.elementSize] at h₂
  rw [State.Spread, hfought.sites, hfought.sites, hfought.map, hu₂.elementSize, hu₁.elementSize]
  exact (spread_builds h.sound hranges hspread hplanned).sublist (h₁.append h₂)

end Update

end State

/-! ## The commands -/

namespace StateSyncer

theorem nodup_buildOffsets [IsStrictOrderedRing K] {c : Constants K} {st : State K}
    (h : st.Sound c) (ps : PlayerId → PlayerState c) (skip : PlayerId → Bool) (p : PlayerId) :
    ((playerVerdicts st ps skip p).filterMap Verdict.buildOffset).Nodup := by
  have hfirst : (firstVerdicts st ps skip p).filterMap Verdict.buildOffset = [] :=
    List.filterMap_eq_nil_iff.mpr fun v hv => (newTowers_firstVerdicts ps skip p hv).2
  rw [playerVerdicts, List.filterMap_append, hfirst, List.nil_append]
  unfold secondVerdicts
  split
  · simp
  · have hsoldiers : (judge (soldierSlotVerdict st p (ps p)) (secondLedger st ps skip p)
        (List.range (st.soldiers p).length)).filterMap Verdict.buildOffset = [] := by
      refine List.filterMap_eq_nil_iff.mpr ?_
      intro v hv
      obtain ⟨l, i, -, rfl⟩ := exists_of_mem_judge hv
      unfold Verdict.buildOffset
      obtain ha | ⟨_, ha⟩ | ⟨_, ha⟩ := soldierSlotVerdict_orders h p (ps p) l i <;> simp only [ha]
    rw [otherVerdicts, List.filterMap_append, hsoldiers, List.nil_append]
    -- the key of a map element is the offset seen by player 1
    let key (o : Fin c.mapSize × Fin c.mapSize) : Vector K :=
      Vector.ofInt (flipOffset st.map p (o.1, o.2)).1 (flipOffset st.map p (o.1, o.2)).2
    refine List.Nodup.sublist (sublist_judge key ?_ _)
      (List.Nodup.map ?_ ((List.nodup_finRange _).product (List.nodup_finRange _)))
    · intro l o _ offset hoffset
      unfold Verdict.buildOffset at hoffset
      cases ha : (elementVerdict st p (ps p) l o).action with
      | none => simp [ha] at hoffset
      | some a =>
        obtain ⟨-, -, -, rfl⟩ := elementVerdict_action ha
        simpa [ha] using hoffset
    · rintro ⟨i, j⟩ ⟨i', j'⟩ hkey
      simp only [key, Vector.ofInt, Vector.mk.injEq, Double.ofInt_inj, flipOffset] at hkey
      ext
      · have h₁ := hkey.1
        split at h₁ <;> simp only at h₁ ⊢ <;> omega
      · have h₂ := hkey.2
        split at h₂ <;> simp only at h₂ ⊢ <;> omega

/-- What a player builds, it builds on different valid cells. -/
theorem planned_carryOutAll [IsStrictOrderedRing K] {r : Ruleset K} {st : State K} (h : st.Rested r)
    (ps : PlayerId → PlayerState r.toConstants) (skip : PlayerId → Bool) (p₀ p : PlayerId) :
    (st.carryOutAll (allVerdicts st ps skip p₀)).Planned p := by
  have hsame := State.sameButOrders_carryOutAll st (allVerdicts st ps skip p₀)
  have hbuilds :
      ((st.carryOutAll (allVerdicts st ps skip p₀)).towerManagers p).towersToBuildOffsets =
      (playerVerdicts st ps skip p).filterMap Verdict.buildOffset := by
    rw [State.towerManagers_carryOutAll, verdictsOf_allVerdicts, h.buildsDone, List.nil_append]
  refine ⟨hbuilds ▸ nodup_buildOffsets h.sound ps skip p, ?_⟩
  intro offset hoffset
  rw [hbuilds] at hoffset
  obtain ⟨v, hv, hvoffset⟩ := List.mem_filterMap.mp hoffset
  unfold Verdict.buildOffset at hvoffset
  split at hvoffset
  · rename_i offset' cost ha
    obtain rfl := Option.some.inj hvoffset
    obtain ⟨-, cell, hcell, hmap, hvalid⟩ := accepted_playerVerdicts h.sound ps skip p hv ha
    refine ⟨cell, hcell, hsame.map ▸ hmap, ?_⟩
    unfold IsValidTerritory
    rw [hsame.map, hsame.towers]
    exact hvalid
  · simp at hvoffset

end StateSyncer

/-! ## Every run -/

section Runs

variable [SquareRoot K] [IsStrictOrderedRing K] {r : Ruleset K}

theorem Reachable.spread (hbases : (r.baseTowerPositions .player1).Apart r.mapElementSize
      (r.baseTowerPositions .player2)) (hranges : ∀ range ∈ r.towerRanges, 0 ≤ range)
    {st : State K} (h : Reachable r st) : st.Spread := by
  obtain ⟨past, hgame⟩ := h
  induction hgame with
  | start h =>
    obtain ⟨st, hst, hrested, htowers, -⟩ := exists_buildState r
    obtain rfl := Except.ok.inj (hst.symm.trans h)
    rw [State.Spread, State.sites, State.sites, htowers, htowers, hrested.sound.elementSize]
    simpa [baseTower] using hbases
  | @turn past t hgame ht ih =>
    have hrested := hgame.rested
    obtain ⟨input, hstate, hupdate⟩ := ht.carriedOut hrested
    refine (ht.ready hrested).1.spread_update hranges ?_ ?_ hupdate
    · have hsame := State.sameButOrders_carryOutAll t.before (StateSyncer.allVerdicts t.before
        input.playerStates input.skipPlayerCommandsFlags .player1)
      rw [← hstate] at hsame
      rw [State.Spread, State.sites, State.sites, hsame.towers, hsame.towers, hsame.map]
      exact ih
    · intro p
      rw [hstate]
      exact StateSyncer.planned_carryOutAll hrested _ _ _ p

/-- **One tower per cell**, in every reachable state, when the base towers stand on
different cells. -/
theorem Reachable.one_tower_per_cell (hbases : (r.baseTowerPositions .player1).Apart
      r.mapElementSize (r.baseTowerPositions .player2))
    (hranges : ∀ range ∈ r.towerRanges, 0 ≤ range) {st : State K} (h : Reachable r st) :
    (st.towers .player1 ++ st.towers .player2).Pairwise fun t u => ∀ cell,
      ¬ (t.position.LiesIn st.map.elementSize cell ∧
        u.position.LiesIn st.map.elementSize cell) := by
  have hspread := h.spread hbases hranges
  rw [State.Spread, State.sites, State.sites, ← List.map_append, List.pairwise_map] at hspread
  exact hspread

omit [Field K] [LinearOrder K] [FloorRing K] [SquareRoot K] [IsStrictOrderedRing K] in
/-- Both players of the small game build in the first turn. -/
theorem one_tower_per_cell_sample : ∃ st,
    play sampleRules [bothPlay _ (.build _ (1, 1)) (.build _ (1, 1))] = .ok st ∧
      (st.towers .player1).length = 2 ∧ (st.towers .player2).length = 2 ∧
      (st.towers .player1 ++ st.towers .player2).Pairwise fun t u => ∀ cell,
        ¬ (t.position.LiesIn st.map.elementSize cell ∧
          u.position.LiesIn st.map.elementSize cell) := by
  have hrun : ((play sampleRules [bothPlay _ (.build _ (1, 1)) (.build _ (1, 1))]).toOption.bind
      fun st => some ((st.towers .player1).length, (st.towers .player2).length)) = some (2, 2) := by
    decide +kernel
  obtain ⟨st, hplay, hlength⟩ := exists_of_toOption_bind hrun
  have hbases : (sampleRules.baseTowerPositions .player1).Apart sampleRules.mapElementSize
      (sampleRules.baseTowerPositions .player2) := fun cell hcell =>
    absurd (hcell.1.1.eq.trans hcell.2.1.eq.symm) (by decide +kernel)
  obtain ⟨h₁, h₂⟩ := Prod.mk.inj (Option.some.inj hlength)
  exact ⟨st, hplay, h₁, h₂, Reachable.one_tower_per_cell hbases (by decide)
    (reachable_of_play hplay)⟩

end Runs

end Simulator
