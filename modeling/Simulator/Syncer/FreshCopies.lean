import Simulator.Logger.TowerLog
import Simulator.Syncer.MirroredBuilds
import Simulator.Syncer.Outcomes

/-!
# A refreshed copy holds no commands

The members that a player writes its commands to are reset in three loops: over the
towers that are listed, over the soldiers, and over the elements of the map.  The arrays
are longer than the lists of towers, and a slot beyond the list keeps whatever was left in
it; but `ExecutePlayerCommands` reads no further than the lists, which are the same until
the next update of the state.

## Stale commands

A player whose turn is skipped may have left commands in its copy, and a player that is not given
its turn before the commands are executed has only what the refresh has put there.  If the refresh
overlooked a member, the command in it would be executed again, or for the first time in a turn it
was not meant for.

A slot that is written gets its command members set to the values that stand for no command.
`Refreshed` says of a copy that its slots and elements hold no commands, as far as they are read,
and `refreshed_updatePlayerStates` that a refresh leaves such copies, whatever they held before.
For the map this takes a look at all that is done to it on the way, the turning and the masking,
since the flag for building is one of its members.
-/

namespace Simulator

open Foundation

variable {K : Type}

namespace StateSyncer

/-- No element of the map is marked for a tower. -/
def NoBuilds (playerMap : PlayerMap) : Prop := ∀ cell, (playerMap cell).buildTower = false

theorem noBuilds_copyMap (m : GameMap) : NoBuilds (copyMap m) := fun _ => rfl

theorem NoBuilds.update {playerMap : PlayerMap} (h : NoBuilds playerMap) (cell : Cell)
    {e : PlayerState.MapElement} (he : e.buildTower = false) :
    NoBuilds (Function.update playerMap cell e) := by
  intro cell'
  by_cases hcell : cell' = cell
  · subst hcell
    rwa [Function.update_self]
  · rw [Function.update_of_ne hcell]
    exact h cell'

theorem NoBuilds.flipElements {playerMap : PlayerMap} (h : NoBuilds playerMap) (mapSize : ℕ)
    (cell : Cell) : NoBuilds (flipElements mapSize playerMap cell) := by
  intro cell'
  simp only [StateSyncer.flipElements, swapElements, Function.update_apply]
  split_ifs <;> exact h _

theorem NoBuilds.flipMap {playerMap : PlayerMap} (h : NoBuilds playerMap) (mapSize : ℕ) :
    NoBuilds (flipMap mapSize playerMap) := by
  rw [flipMap_eq_foldl]
  exact foldl_invariant (I := NoBuilds) (fun _ h cell _ => h.flipElements mapSize cell) h

section Refresh

variable [Field K] [LinearOrder K] [FloorRing K]

theorem NoBuilds.maskTowers {st : State K} {p : PlayerId} {playerMap playerMap' : PlayerMap}
    (h : NoBuilds playerMap) (hmask : maskTowers st p playerMap = .ok playerMap') :
    NoBuilds playerMap' := by
  refine foldlM_invariant (I := NoBuilds) ?_ h hmask
  intro playerMap playerMap' t h _ hround
  obtain ⟨cell, -, hround⟩ := bind_eq_ok.mp hround
  obtain rfl := Except.ok.inj hround
  exact h.update cell (h cell)

omit [LinearOrder K] [FloorRing K] in
theorem exists_arrayAt_of_fill {α β : Type} {n m : ℕ} {read : ℕ → Except Fault β} {make : β → α}
    {xs xs' : Fin n → α} (h : (List.range m).foldlM (fun xs i => do
      let x ← read i
      arraySet xs i (make x)) xs = .ok xs') {i : ℕ} (hi : i < m) :
    ∃ x, arrayAt xs' i = .ok (make x) := by
  obtain ⟨-, hin, -⟩ := foldlM_establishes (I := fun _ => True) (Q := fun i _ => i < n)
    (fun _ _ i _ _ hround => by
      obtain ⟨x, -, hset⟩ := bind_eq_ok.mp hround
      exact ⟨trivial, (arraySet_eq_ok.mp hset).1, fun _ hb => hb⟩) trivial h
  have hlt := hin i (List.mem_range.mpr hi)
  obtain ⟨x, -, hx⟩ := (foldlM_arraySet h).1 ⟨i, hlt⟩ hi
  exact ⟨x, by rw [arrayAt_of_lt _ hlt, hx]⟩

variable {r : Ruleset K} {st : State K}

/-- A copy whose slots and elements hold no commands of player `p`, as far as they are
read. -/
structure Refreshed (st : State K) (p : PlayerId) (ps : PlayerState r.toConstants) : Prop where
  towers : ∀ i < (st.towers p).length, ∃ tower, arrayAt ps.towers i = .ok tower ∧
    tower.upgradeTower = false ∧ tower.suicide = false
  soldiers : ∀ i < (st.soldiers p).length, ∃ soldier, arrayAt ps.soldiers i = .ok soldier ∧
    soldier.towerTarget = -1 ∧ soldier.soldierTarget = -1 ∧
      soldier.destination = Vector.ofInt (-1) (-1)
  map : ∀ i j, (ps.map i j).buildTower = false

/-- **A round of the loop over the players** resets the copy of its player. -/
theorem refreshed_updatePlayerState (hside : st.map.size = r.mapSize)
    {x x' : PlayerMap × (PlayerId → PlayerState r.toConstants)} {p : PlayerId}
    (hbuilds : NoBuilds x.1) (h : updatePlayerState st x p = .ok x') :
    NoBuilds x'.1 ∧ Refreshed st p (x'.2 p) := by
  obtain ⟨hmask, -, hmap⟩ := exists_of_updatePlayerState h
  have hbuilds' : NoBuilds x'.1 := by
    refine NoBuilds.maskTowers ?_ hmask
    intro cell
    show ((if p = .player2 then flipMap st.map.size x.1 else x.1) cell).buildTower = false
    split
    · exact hbuilds.flipMap st.map.size cell
    · exact hbuilds cell
  refine ⟨hbuilds', ?_, ?_, ?_⟩
  · obtain ⟨playerMap, copies⟩ := x
    simp only [updatePlayerState, bind_eq_ok, pure_eq_ok, Except.ok.injEq] at h
    obtain ⟨towers, htowers, _, -, _, -, _, -, _, -, _, -, rfl⟩ := h
    intro i hi
    obtain ⟨t, ht⟩ := exists_arrayAt_of_fill htowers hi
    dsimp only
    rw [Function.update_self]
    exact ⟨_, ht, rfl, rfl⟩
  · obtain ⟨playerMap, copies⟩ := x
    simp only [updatePlayerState, bind_eq_ok, pure_eq_ok, Except.ok.injEq] at h
    obtain ⟨_, -, _, -, soldiers, hsoldiers, _, -, _, -, _, -, rfl⟩ := h
    intro i hi
    obtain ⟨s, hs⟩ := exists_arrayAt_of_fill hsoldiers hi
    dsimp only
    rw [Function.update_self]
    exact ⟨_, hs, rfl, rfl, rfl⟩
  · intro i j
    rw [hmap i j (by rw [hside]; exact i.isLt) (by rw [hside]; exact j.isLt)]
    exact hbuilds' _

theorem refreshed_updatePlayerStates (hside : st.map.size = r.mapSize) {logger logger' : Logger}
    {playerStates playerStates' : PlayerId → PlayerState r.toConstants}
    (h : updatePlayerStates st logger playerStates = .ok (logger', playerStates')) (p : PlayerId) :
    Refreshed st p (playerStates' p) := by
  obtain ⟨x₁, x₂, h₁, h₂, rfl, -⟩ := exists_rounds_of_updatePlayerStates h
  obtain ⟨hbuilds₁, hrefreshed₁⟩ := refreshed_updatePlayerState hside (noBuilds_copyMap st.map) h₁
  obtain ⟨-, hrefreshed₂⟩ := refreshed_updatePlayerState hside hbuilds₁ h₂
  cases p with
  | player1 => rwa [(exists_of_updatePlayerState h₂).2.1 .player1 (by decide)]
  | player2 => exact hrefreshed₂

/-! ## Nothing to execute -/

variable {playerStates : PlayerId → PlayerState r.toConstants}

omit [LinearOrder K] [FloorRing K] in
theorem Refreshed.step {step : Step r.toConstants}
    (h : Refreshed st step.playerId (playerStates step.playerId)) (hslot : step.IsSlot st) :
    step.InArray ∧ ¬ step.HasCommand playerStates := by
  have hlt : ∀ {α : Type} {n i : ℕ} {xs : Fin n → α} {x : α}, arrayAt xs i = .ok x → i < n :=
    fun hx => by
      by_contra hge
      rw [arrayAt, dif_neg hge] at hx
      cases hx
  cases step with
  | tower p i =>
    obtain ⟨tower, htower, hupgrade, hsuicide⟩ := h.towers i hslot
    refine ⟨hlt htower, ?_⟩
    rintro ⟨tower', htower', hflags⟩
    obtain rfl := Except.ok.inj (htower.symm.trans htower')
    simp [hupgrade, hsuicide] at hflags
  | countTowers p => exact ⟨trivial, fun hhas => hhas⟩
  | soldier p i =>
    obtain ⟨soldier, hsoldier, htower, henemy, hdest⟩ := h.soldiers i hslot
    refine ⟨hlt hsoldier, ?_⟩
    rintro ⟨soldier', hsoldier', horders⟩
    obtain rfl := Except.ok.inj (hsoldier.symm.trans hsoldier')
    have hequal : soldier.destination.Equal (Vector.ofInt (-1) (-1)) := by
      rw [hdest]
      exact ⟨rfl, rfl⟩
    rcases horders with h | h | h
    · exact h htower
    · exact h henemy
    · exact h hequal
  | element p offset => exact ⟨trivial, fun hhas => by
    simp only [Step.HasCommand] at hhas
    exact Bool.false_ne_true ((h.map _ _).symm.trans hhas)⟩

variable [IsStrictOrderedRing K]

/-- **No stale commands.**  Whatever the copies held before, executing the commands of the
refreshed copies makes only rounds without a command, each of which leaves the phase as it
is: no method of the state is called, and no error is logged. -/
theorem executePlayerCommands_refreshed (hside : st.map.size = r.mapSize)
    {logger logger' : Logger} {playerStates playerStates' : PlayerId → PlayerState r.toConstants}
    (h : updatePlayerStates st logger playerStates = .ok (logger', playerStates'))
    (skip : PlayerId → Bool) :
    (∀ step ∈ steps st skip, ¬ Step.HasCommand playerStates' step) ∧
    (∀ round ∈ rounds (Step.execute playerStates') (startPhase st) (steps st skip),
      ∃ n, round.2.2 = .ok { round.2.1 with currentNumTowers := n }) ∧
    ∃ n, executePlayerCommands playerStates' skip st =
      .ok { startPhase st with currentNumTowers := n } := by
  have hstep : ∀ step ∈ steps st skip, step.InArray ∧ ¬ Step.HasCommand playerStates' step :=
    fun step hmem =>
      (refreshed_updatePlayerStates hside h step.playerId).step (mem_steps.mp hmem).2
  refine ⟨fun step hmem => (hstep step hmem).2, ?_, ?_⟩
  · intro round hround
    obtain ⟨hmem, -, heq⟩ := rounds_invariant (I := fun _ => True) (fun _ _ _ _ _ _ => trivial)
      trivial round hround
    rw [heq]
    exact Step.execute_of_not_hasCommand (hstep _ hmem).1 (hstep _ hmem).2 _
  · rw [executePlayerCommands_eq_steps hside]
    obtain ⟨ph, hph, n, rfl⟩ := foldlM_total
      (I := fun ph => ∃ n, ph = { startPhase st with currentNumTowers := n })
      (fun ph hph step hmem => by
        obtain ⟨n, rfl⟩ := hph
        obtain ⟨n', hn'⟩ := Step.execute_of_not_hasCommand (hstep step hmem).1 (hstep step hmem).2
          { startPhase st with currentNumTowers := n }
        exact ⟨_, hn', n', rfl⟩) ⟨0, rfl⟩
    exact ⟨n, hph⟩

omit [Field K] [LinearOrder K] [FloorRing K] [IsStrictOrderedRing K] in
/-- In the small game a soldier is left with an order to attack by a turn that was
skipped. -/
theorem executePlayerCommands_refreshed_sample :
    ∃ (st : State ℚ) (logger' : Logger)
      (playerStates' : PlayerId → PlayerState sampleRules.toConstants) (n : ℤ),
      buildState sampleRules.toConstants = .ok st ∧
      updatePlayerStates st (Logger.start 10 100)
        (fun _ => .attackSoldier sampleRules.toConstants 0 1) = .ok (logger', playerStates') ∧
      executePlayerCommands playerStates' (fun _ => false) st =
        .ok { startPhase st with currentNumTowers := n } := by
  have hrun : ((buildState sampleRules.toConstants).toOption.bind fun st =>
      (updatePlayerStates st (Logger.start 10 100)
        (fun _ => .attackSoldier sampleRules.toConstants 0 1)).toOption.bind fun _ =>
      some true) = some true := by
    decide +kernel
  obtain ⟨st, hst, hrun⟩ := exists_of_toOption_bind hrun
  obtain ⟨⟨logger', playerStates'⟩, hupdate, -⟩ := exists_of_toOption_bind hrun
  obtain ⟨st', hst', hrested, -, -⟩ := exists_buildState sampleRules
  obtain rfl := Except.ok.inj (hst'.symm.trans hst)
  obtain ⟨-, -, n, hexecute⟩ := executePlayerCommands_refreshed (r := sampleRules)
    hrested.sound.size hupdate fun _ => false
  exact ⟨st', logger', playerStates', n, hst, hupdate, hexecute⟩

end Refresh

end StateSyncer

end Simulator
