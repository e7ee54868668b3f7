import Simulator.Main.SoldierLives

/-!
# The combat of a turn

The soldiers are updated one after the other, and a tower that is hit loses its hp at
once.  Still the outcome is that of a combat in which all strike at the same time, from
where the commands have left them: every tower and every soldier loses what all soldiers
of the opponent together are to do to it, the soldiers unless they are invulnerable.

`Turn.StrikesAtOnce` says this of a turn, and `Game.strikesAtOnce` of all turns of a game.

## What there is to it

Three things could make a difference between the combat of the code and one in which all strike at
once.  A soldier that has been hit might not strike; but damage to soldiers is pending until the
late update, and the hp of a soldier before its late update is that from before the turn.  A
target that has been finished off is not hit any more; but then there is nothing left to lose, and
damage takes no more than there is.  And the targets might have moved; but moves are pending as
well.

So the damage to an actor is a sum over the soldiers of the opponent (`siege` for a tower,
`onslaught` for a soldier), in which every term can be read off the state the commands have left.

The towers that a turn's soldiers meet are not those the commands have left, since the towers'
phase comes in between.  `standing` is the list of those that are there: the old and the new ones,
as the requests leave them, but for those without hp.
-/

namespace Simulator

open Foundation

variable {K : Type}

namespace State

section Shots

variable [Field K] [LinearOrder K] [SquareRoot K]

/-- The damage that a soldier is to do to tower `t` of player `q`. -/
def shot (q : PlayerId) (t : Tower K) (s : Soldier K) : ℤ :=
  if s.Assails (.tower q t.id) (.tower t) then s.attackDamage else 0

/-- The damage that all soldiers of the opponent are to do to tower `t` of player `q`. -/
def siege (st : State K) (q : PlayerId) (t : Tower K) : ℤ :=
  ((st.soldiers q.opponent).map (shot q t)).sum

end Shots

variable [Field K] [LinearOrder K] [FloorRing K] [SquareRoot K]

/-! ## The soldiers of one player -/

section Rounds

variable {r : Ruleset K} {st : State K} {p q : PlayerId}

theorem Sound.shot_nonneg (h : st.Sound r.toConstants) {i : ℕ} {s : Soldier K}
    (hs : (st.soldiers p)[i]? = some s) (q : PlayerId) (t : Tower K) : 0 ≤ shot q t s := by
  unfold shot
  split
  · rw [(h.soldier p i s hs).attackDamage_eq]
    exact r.soldierAttackDamage_nonneg
  · exact le_rfl

/-- **The first `n` soldiers of a player, on the towers.** -/
theorem Sound.towerManagers_facing (h : st.Sound r.toConstants) (p q : PlayerId) {n : ℕ}
    (hn : n ≤ r.numSoldiers) :
    (st.facing r.toConstants p n).towerManagers q = (st.towerManagers q).mapTowers fun t =>
      t.damage (((st.soldiers p).take n).map (shot q t)).sum := by
  induction n with
  | zero =>
    refine (st.towerManagers q).mapTowers_id.symm.trans
      (TowerManager.mapTowers_congr ?_)
    intro t ht
    exact (Actor.tower.inj
      (Actor.damage_zero (a := .tower t) ((h.manager q).tower t ht).hp_nonneg)).symm
  | succ n ih =>
    have hlt : n < (st.soldiers p).length := (h.length_soldiers p).symm ▸ hn
    obtain ⟨s, hs⟩ : ∃ s, (st.soldiers p)[n]? = some s := ⟨_, List.getElem?_eq_getElem hlt⟩
    have hsound := h.facing p n
    have hwaits := (h.assaulted_range p (by omega)).waiting n s hs le_rfl
    have hmanager := ih (by omega)
    rw [facing_succ, hsound.towerManagers_actEffect (x := (p, n)) hwaits q, hmanager,
      TowerManager.mapTowers_mapTowers]
    refine TowerManager.mapTowers_congr ?_
    intro t ht
    set d := (((st.soldiers p).take n).map (shot q t)).sum with hd
    -- the tower is found as the rounds before have left it
    have hfound : (st.facing r.toConstants p n).deref (.tower q t.id) =
        some (.tower (t.damage d)) := by
      refine hsound.deref_tower.mpr ⟨t.damage d, ?_, rfl, rfl⟩
      rw [hmanager, TowerManager.allocatedTowers_mapTowers]
      exact List.mem_map_of_mem ht
    have hblow : (st.facing r.toConstants p n).blowAt (p, n) (.tower q t.id) = shot q t s := by
      rw [blowAt_eq hwaits hfound]
      rfl
    have hsum : (((st.soldiers p).take (n + 1)).map (shot q t)).sum = d + shot q t s := by
      rw [List.take_add_one, hs, hd]
      simp
    rw [hsum]
    show (t.damage d).damage ((st.facing r.toConstants p n).blowAt (p, n) (.tower q t.id)) = _
    rw [hblow]
    exact Actor.tower.inj (Actor.damage_damage (.tower t) d (h.shot_nonneg hs q t))

theorem Sound.towerManagers_roster (h : st.Sound r.toConstants) (p : PlayerId) :
    (st.actAll r.toConstants (roster r.toConstants [p])).towerManagers p.opponent =
      (st.towerManagers p.opponent).mapTowers fun t => t.damage (st.siege p.opponent t) := by
  rw [actAll_roster, h.towerManagers_facing p p.opponent le_rfl]
  refine TowerManager.mapTowers_congr ?_
  intro t _
  rw [siege, PlayerId.opponent_opponent, List.take_of_length_le (h.length_soldiers p).le]

theorem Assaulted.siege_eq {st' : State K} (h : Assaulted r.toConstants p st r.numSoldiers st')
    (hst : st.Sound r.toConstants) (hst' : st'.Sound r.toConstants) (t : Tower K) :
    st'.siege p t = st.siege p t := by
  have hmap : (st'.soldiers p.opponent).map (shot p t) =
      (st.soldiers p.opponent).map (shot p t) := by
    refine List.ext_getElem? ?_
    intro k
    rw [List.getElem?_map, List.getElem?_map]
    cases hk : (st.soldiers p.opponent)[k]? with
    | none =>
      have hlen := (hst.length_soldiers p.opponent).trans (hst'.length_soldiers p.opponent).symm
      rw [List.getElem?_eq_none_iff] at hk
      rw [List.getElem?_eq_none (hlen ▸ hk)]
    | some s =>
      rw [h.damaged hst hk]
      rfl
  rw [siege, siege, hmap]

end Rounds

/-! ## The towers the soldiers find -/

/-- The id of the first tower that a player builds in an update. -/
def firstBuiltId (st : State K) : PlayerId → ℤ
  | .player1 => st.actorIdIncrement
  | .player2 => st.actorIdIncrement + (st.towerManagers .player1).towersToBuildOffsets.length

/-- The towers that are standing in an update when the soldiers come: those of before and
the new ones, as the requests leave them, but for those that have no hp. -/
def standing (c : Constants K) (st : State K) (q : PlayerId) : List (Tower K) :=
  ((st.towerManagers q).worked c st.map.elementSize (st.firstBuiltId q)).filter fun t => t.hp ≠ 0

omit [LinearOrder K] [FloorRing K] [SquareRoot K] in
theorem TowersUpdated.towers_eq_standing {r : Ruleset K} {st st₁ st₂ : State K}
    (hu₁ : st.TowersUpdated r.toConstants .player1 st₁)
    (hu₂ : st₁.TowersUpdated r.toConstants .player2 st₂) (q : PlayerId) :
    st₂.towers q = st.standing r.toConstants q := by
  cases q with
  | player1 =>
    rw [State.towers, hu₂.other .player1 (by decide), hu₁.manager]
    rfl
  | player2 =>
    rw [State.towers, hu₂.manager]
    simp only [workedTowers, hu₁.other .player2 (by decide), hu₁.elementSize,
      hu₁.actorIdIncrement]
    rfl

theorem Ready.towers_update [IsStrictOrderedRing K] {r : Ruleset K} {st st' : State K}
    (h : st.Ready r) (hupdate : State.update r.toConstants st = .ok st') (q : PlayerId) :
    st'.towers q = (st.standing r.toConstants q).map fun t => t.damage (st.siege q t) := by
  obtain ⟨st₁, st₂, -, hu₁, hu₂, -, hs₂, hrun, -⟩ := h.updateInOrder .player1
  have hstanding := hu₁.towers_eq_standing hu₂ q
  have hsiege : ∀ t, st₂.siege q t = st.siege q t := fun t => by
    rw [siege, siege, hu₂.soldiers, hu₁.soldiers]
  set stA := st₂.actAll r.toConstants (roster r.toConstants [.player1]) with hstA
  have hsA : stA.Sound r.toConstants := hs₂.actAll _
  have hroster : roster r.toConstants [.player1, .player2] =
      roster r.toConstants [.player1] ++ roster r.toConstants [.player2] := by
    simp [roster]
  have hact : st₂.actAll r.toConstants (roster r.toConstants [.player1, .player2]) =
      stA.actAll r.toConstants (roster r.toConstants [.player2]) := by
    rw [hstA, State.actAll, State.actAll, State.actAll, hroster, List.foldl_append]
  have hmanager : st'.towerManagers q =
      (st₂.towerManagers q).mapTowers fun t => t.damage (st₂.siege q t) := by
    rw [← Except.ok.inj (hrun.symm.trans hupdate)]
    show ((st₂.actAll r.toConstants (roster r.toConstants [.player1, .player2])).finishAll
      r.toConstants (roster r.toConstants [.player1, .player2])).towerManagers q = _
    rw [towerManagers_finishAll _ (nodup_roster _ (by decide)), hact]
    cases q with
    | player1 =>
      have hself : stA.towerManagers .player1 = st₂.towerManagers .player1 :=
        hs₂.towerManagers_roster_self .player1
      refine (hsA.towerManagers_roster .player2).trans ?_
      show (stA.towerManagers .player1).mapTowers _ = _
      rw [hself]
      refine TowerManager.mapTowers_congr ?_
      intro t _
      rw [← (hs₂.assaulted .player1).siege_eq hs₂ hsA]
      rfl
    | player2 =>
      rw [hsA.towerManagers_roster_self .player2]
      exact hs₂.towerManagers_roster .player1
  rw [State.towers, hmanager, ← hstanding]
  exact List.map_congr_left fun t _ => by rw [hsiege]

end State

/-! ## The turns of a game -/

section Runs

variable [Field K] [LinearOrder K] [FloorRing K] [SquareRoot K] [IsStrictOrderedRing K]
  {r : Ruleset K} {past : List (Turn K)} {st : State K} {t : Turn K}

/-- The combat of a turn is one in which all strike at the same time, from where the
commands have left them. -/
structure Turn.StrikesAtOnce (r : Ruleset K) (t : Turn K) : Prop where
  /-- The towers that were standing are left, with what the opponent's soldiers together
  have left of their hp. -/
  towers : ∀ q, t.after.towers q =
    (t.commanded.standing r.toConstants q).map fun w => w.damage (t.commanded.siege q w)
  /-- A soldier respawns with all of its hp, does not lose any while it is invulnerable, and
  else loses what the opponent's soldiers together do to it. -/
  soldiers : ∀ q (i : ℕ) s, (t.before.soldiers q)[i]? = some s →
    (t.after.soldiers q)[i]?.map Soldier.hp = some
      (if s.state = .dead 0 then s.maxHp else if s.isInvulnerable then s.hp
        else max 0 (s.hp - t.commanded.onslaught q.opponent i s))

omit [FloorRing K] [IsStrictOrderedRing K] in
theorem Turn.Lives.dealt_eq {p : PlayerId} {i : ℕ} {e : Soldier.TurnEvents K} {s s' : Soldier K}
    (h : t.Lives r p i e s s') (hs : s.Resting r.toConstants) (hstate : s.state ≠ .dead 0) :
    e.dealt = t.commanded.onslaught p.opponent i s := by
  obtain ⟨orders, d, -, hbefore, hu⟩ := h.orders
  have hallowed : ∀ o ∈ orders, o.Allowed s := fun o ho => h.plays.allowed o <| by
    rw [hbefore]
    exact List.mem_append_left _ ho
  obtain ⟨-, target, destination, isDestinationSet, hbody⟩ :=
    Soldier.exists_foldl_happen hallowed hs.orderly
  set u := orders.foldl Soldier.Event.happen s with hudef
  have hfaced : u.asFaced r.toConstants = u := by
    refine if_neg fun hdead => hstate ?_
    rw [← hdead.2]
    exact (congrArg Soldier.state hbody :).symm
  rw [h.dealt u hu, hfaced, State.onslaught, State.onslaught,
    State.blow_congr (show u.position = s.position from (congrArg Soldier.position hbody :))]

omit [FloorRing K] [IsStrictOrderedRing K] in
/-- **The hp of a soldier after a turn.** -/
theorem Turn.Lives.hp_eq {p : PlayerId} {i : ℕ} {e : Soldier.TurnEvents K} {s s' : Soldier K}
    (h : t.Lives r p i e s s') (hs : s.Resting r.toConstants) :
    s'.hp = if s.state = .dead 0 then s.maxHp else if s.isInvulnerable then s.hp
      else max 0 (s.hp - t.commanded.onslaught p.opponent i s) := by
  have hT := r.soldierTotalTurnsToRespawn_pos
  split
  · rename_i hstate
    exact (h.plays.respawns hT hs hstate).1
  · rename_i hstate
    obtain ⟨hhp, hlatest, hinvulnerable, -⟩ := h.plays.hurt_spec hs hstate
    obtain ⟨heq, -⟩ := h.plays.eq_finish hs hT
    rw [heq, Soldier.hp_finish, hinvulnerable, hhp, hlatest, h.dealt_eq hs hstate]

/-- **In every turn of a game the combat is as if all struck at the same time.** -/
theorem Game.strikesAtOnce (h : Game r past st) (ht : t ∈ past) : t.StrikesAtOnce r := by
  induction h with
  | start h => exact absurd ht List.not_mem_nil
  | @turn past t' hgame ht' ih =>
    rcases List.mem_append.mp ht with ht | ht
    · exact ih ht
    · obtain rfl := List.mem_singleton.mp ht
      obtain ⟨hready, -⟩ := ht'.ready hgame.rested
      obtain ⟨-, -, hupdate⟩ := ht'.carriedOut hgame.rested
      refine ⟨hready.towers_update hupdate, ?_⟩
      intro q i s hs
      have hrest := hgame.resting hs
      obtain ⟨e, s', hlife⟩ := ht'.exists_lives hgame.rested hs hrest
      rw [hlife.after, Option.map_some, hlife.hp_eq hrest]

omit [Field K] [LinearOrder K] [FloorRing K] [SquareRoot K] [IsStrictOrderedRing K] in
/-- In the small game player 2 builds tower 4.  In the second turn the soldier of player 1
attacks the tower, and that of player 2 attacks the soldier: the tower falls although the
soldier that brings it down is beaten in the same turn. -/
theorem strikesAtOnce_sample : ∃ (past : List (Turn ℚ)) (st : State ℚ) (t : Turn ℚ),
    Game sampleRules past st ∧ t ∈ past ∧
    (t.before.towers .player2).map (fun w => (w.id, w.hp)) = [(3, 1), (4, 1)] ∧
    (t.after.towers .player2).map (fun w => (w.id, w.hp)) = [(3, 1), (4, 0)] ∧
    (t.before.soldiers .player1).map Soldier.hp = [1] ∧
    (t.after.soldiers .player1).map Soldier.hp = [0] ∧ t.StrikesAtOnce sampleRules := by
  have hrun : ((play sampleRules [bothPlay _ (.quiet _) (.build _ (1, 1))]).toOption.bind fun st₁ =>
      (execute (bothPlay sampleRules (.attackTower _ 0 4) (.attackSoldier _ 1 0))
        st₁).toOption.bind fun ph =>
      (State.update sampleRules.toConstants ph.state).toOption.bind fun st₂ =>
      some ((st₁.towers .player2).map fun w => (w.id, w.hp),
        (st₂.towers .player2).map fun w => (w.id, w.hp), (st₁.soldiers .player1).map Soldier.hp,
        (st₂.soldiers .player1).map Soldier.hp)) =
      some ([(3, 1), (4, 1)], [(3, 1), (4, 0)], [1], [0]) := by
    decide +kernel
  obtain ⟨st₁, hplay, hrun⟩ := exists_of_toOption_bind hrun
  obtain ⟨ph, hph, hrun⟩ := exists_of_toOption_bind hrun
  obtain ⟨st₂, hupdate, hrun⟩ := exists_of_toOption_bind hrun
  simp only [Option.some.injEq, Prod.mk.injEq] at hrun
  obtain ⟨hbuilt, hfallen, halive, hbeaten⟩ := hrun
  obtain ⟨past, -, hgame₁⟩ := game_of_play hplay
  have hgame : Game sampleRules (past ++ [⟨st₁, ph.state, st₂⟩]) st₂ :=
    hgame₁.turn (t := ⟨st₁, ph.state, st₂⟩) ⟨_, ph, hph, rfl, hupdate⟩
  have hmem : (⟨st₁, ph.state, st₂⟩ : Turn ℚ) ∈ past ++ [⟨st₁, ph.state, st₂⟩] :=
    List.mem_append_right _ (List.mem_singleton_self _)
  exact ⟨_, st₂, _, hgame, hmem, hbuilt, hfallen, halive, hbeaten, hgame.strikesAtOnce hmem⟩

end Runs

end Simulator
