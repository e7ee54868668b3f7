import Simulator.State.TowerOrder

/-!
# The order of the players in an update

The soldiers do not see the ids of towers that nobody has as a target, and the ones that an update
hands out are no target yet.  So the two phases of the soldiers do to a state under other ids what
they do to the state itself (`Sound.actAll_rename`), and together with the results on the two
kinds of phases the order of the players decides over the ids of the new towers alone
(`Ready.update_comm`).

## Putting the phases together

An update is three pairs of loops, one loop of each pair for each player.  The order matters to
the towers' phase, but only in the ids, and that difference is a renaming of the state that comes
out of it.  It does not matter to the first phase of the soldiers, if respawning takes two turns
or more, nor to the second.  So it is enough to push the renaming through the phases of the
soldiers.

A pointer names a tower by its id, and a renaming that moved a target would lead the pointer
astray.  Targets are towers that were there before the update, and these keep their ids
(`Ready.targetsFixed`).  No update gives a soldier a target, so that this stays so while the
soldiers act, and an effect acts under the other ids as it acts under the old ones.
-/

namespace Simulator

open Foundation

variable {K : Type}

namespace State

/-! ## Other ids -/

/-- The renaming leaves the towers alone that are targets. -/
def TargetsFixed (f : ℤ → ℤ) (st : State K) : Prop :=
  ∀ p (i : ℕ) s q id, (st.soldiers p)[i]? = some s → s.attackTarget = some (.tower q id) → f id = id

section Rename

variable {f : ℤ → ℤ} {st : State K}

theorem rename_apply {E : Effect K} (hE : ∀ p t, (E.tower p t).rename f = E.tower p (t.rename f)) :
    (st.apply E).rename f = (st.rename f).apply E := by
  refine State.ext rfl rfl rfl (funext ?_) rfl
  intro p
  show ((st.towerManagers p).mapTowers (E.tower p)).mapTowers (Tower.rename f) =
    ((st.towerManagers p).mapTowers (Tower.rename f)).mapTowers (E.tower p)
  rw [TowerManager.mapTowers_mapTowers, TowerManager.mapTowers_mapTowers]
  exact TowerManager.mapTowers_congr fun t _ => hE p t

theorem deref_rename (hf : Function.Injective f) {ptr : ActorPtr}
    (hptr : ∀ q id, ptr = .tower q id → f id = id) : (st.rename f).deref ptr = st.deref ptr := by
  cases ptr with
  | soldier q k => rfl
  | tower q id =>
    have hid : f id = id := hptr q id rfl
    have hiff : ∀ t : Tower K, (t.rename f).id = id ↔ t.id = id := fun t => by
      show f t.id = id ↔ t.id = id
      exact ⟨fun h => hf (h.trans hid.symm), fun h => by rw [h, hid]⟩
    show ((((st.towerManagers q).mapTowers (Tower.rename f)).allocatedTowers).find?
      fun t => t.id = id).map Actor.tower = _
    rw [TowerManager.allocatedTowers_mapTowers, List.find?_map]
    have hfind : ((fun t : Tower K => decide (t.id = id)) ∘ Tower.rename f) =
        fun t : Tower K => decide (t.id = id) := funext fun t => decide_eq_decide.mpr (hiff t)
    rw [hfind, deref]
    cases hmem : (st.towerManagers q).allocatedTowers.find? fun t => decide (t.id = id) with
    | none => rfl
    | some t =>
      have htid : t.id = id := by simpa using List.find?_some hmem
      have hsame : t.rename f = t := by rw [Tower.rename, htid, hid, ← htid]
      rw [Option.map_some, hsame]

variable [Field K] [LinearOrder K] [SquareRoot K]

omit [Field K] [LinearOrder K] [SquareRoot K] in
theorem targetOf_rename (hf : Function.Injective f) (hfixed : st.TargetsFixed f) (p : PlayerId)
    (i : ℕ) : (st.rename f).targetOf p i = st.targetOf p i := by
  show ((st.soldiers p)[i]?.bind fun s => s.attackTarget.bind (st.rename f).deref) =
    (st.soldiers p)[i]?.bind fun s => s.attackTarget.bind st.deref
  cases hs : (st.soldiers p)[i]? with
  | none => rfl
  | some s =>
    show s.attackTarget.bind (st.rename f).deref = s.attackTarget.bind st.deref
    cases hptr : s.attackTarget with
    | none => rfl
    | some ptr =>
      exact deref_rename hf fun q id heq => hfixed p i s q id hs (heq ▸ hptr)

theorem hits_rename (hf : Function.Injective f) (hfixed : st.TargetsFixed f) (p : PlayerId)
    (i : ℕ) : (st.rename f).hits p i = st.hits p i := by
  ext ptr
  unfold hits
  rw [targetOf_rename hf hfixed]
  rfl

theorem kills_rename (hf : Function.Injective f) (hfixed : st.TargetsFixed f) (p : PlayerId)
    (i : ℕ) : (st.rename f).kills p i = st.kills p i := by
  unfold kills
  rw [targetOf_rename hf hfixed]
  rfl

/-- **The update of a soldier under other ids** has the same effect. -/
theorem actEffect_rename (hf : Function.Injective f) (hfixed : st.TargetsFixed f) (c : Constants K)
    (p : PlayerId) (i : ℕ) : (st.rename f).actEffect c p i = st.actEffect c p i := by
  unfold actEffect
  rw [hits_rename hf hfixed, kills_rename hf hfixed, targetOf_rename hf hfixed]

theorem tower_actEffect_rename (hf : Function.Injective f) (hfixed : st.TargetsFixed f)
    (c : Constants K) (p : PlayerId) (i : ℕ) (q : PlayerId) (t : Tower K) :
    ((st.actEffect c p i).tower q t).rename f = (st.actEffect c p i).tower q (t.rename f) := by
  have hhit : ∀ id d, st.hits p i (.tower q id) = some d → f id = id := fun id d hd => by
    obtain ⟨s, -, hs, hptr, -⟩ := exists_of_hits hd
    exact hfixed p i s q id hs hptr
  have hid : (t.rename f).id = f t.id := rfl
  rw [tower_actEffect, tower_actEffect, hid]
  cases hd : st.hits p i (.tower q t.id) with
  | some d =>
    rw [hhit t.id d hd, hd]
    rfl
  | none =>
    cases hd' : st.hits p i (.tower q (f t.id)) with
    | none => rfl
    | some d => rw [hf (hhit _ d hd'), hd] at hd'; cases hd'

end Rename

/-! ## The phases under other ids -/

section Phases

variable [Field K] [LinearOrder K] [FloorRing K] [SquareRoot K] {r : Ruleset K} {st : State K}
  {f : ℤ → ℤ}

theorem TargetsFixed.actEffect (hfixed : st.TargetsFixed f) (h : st.Sound r.toConstants)
    (x : PlayerId × ℕ) : (st.apply (st.actEffect r.toConstants x.1 x.2)).TargetsFixed f := by
  intro p i s' q id hs' hptr
  obtain ⟨s, hs, rfl⟩ := Option.map_eq_some_iff.mp ((getElem?_apply st _ p i).symm.trans hs')
  exact hfixed p i s q id hs (h.attackTarget_actEffect x.1 x.2 hs hptr)

/-- **The first phase under other ids** does what it does under the old ones. -/
theorem Sound.actAll_rename (h : st.Sound r.toConstants) (hf : Function.Injective f)
    (hfixed : st.TargetsFixed f) (l : List (PlayerId × ℕ)) :
    (st.actAll r.toConstants l).rename f = (st.rename f).actAll r.toConstants l := by
  refine foldl_comm_step (k := State.rename f)
    (I := fun (_ : List (PlayerId × ℕ)) (st : State K) =>
      st.Sound r.toConstants ∧ st.TargetsFixed f)
    (fun x _ st h => ⟨h.1.actEffect x.1 x.2, h.2.actEffect h.1 x⟩) ?_ ⟨h, hfixed⟩
  intro x _ st h
  rw [actEffect_rename hf h.2]
  exact rename_apply (tower_actEffect_rename hf h.2 r.toConstants x.1 x.2)

omit [Field K] [LinearOrder K] [FloorRing K] [SquareRoot K] in
theorem finishAll_rename (c : Constants K) (l : List (PlayerId × ℕ)) :
    (st.finishAll c l).rename f = (st.rename f).finishAll c l := by
  refine foldl_comm_step (k := State.rename f)
    (I := fun (_ : List (PlayerId × ℕ)) (_ : State K) => True) (fun _ _ _ _ => trivial) ?_ trivial
  intro x _ st _
  exact rename_apply fun _ _ => rfl

omit [Field K] [LinearOrder K] [FloorRing K] [SquareRoot K] in
/-- **The order of the players in the second phase does not matter**: a late update
touches its own soldier. -/
theorem finishAll_comm (c : Constants K) (p : PlayerId) :
    st.finishAll c (roster c [p, p.opponent]) = st.finishAll c (roster c [p.opponent, p]) := by
  rw [finishAll_eq _ (nodup_roster c (by simp)), finishAll_eq _ (nodup_roster c (by simp))]
  refine apply_congr ?_ (fun _ _ _ => rfl) rfl
  intro q k s _
  have hmem : (q, k) ∈ roster c [p, p.opponent] ↔ (q, k) ∈ roster c [p.opponent, p] := by
    rw [mem_roster, mem_roster, (List.Perm.swap p.opponent p []).mem_iff]
  exact if_congr hmem rfl rfl

end Phases

/-! ## The whole update -/

section Update

variable [Field K] [LinearOrder K] [FloorRing K] [SquareRoot K] {r : Ruleset K} {st : State K}

omit [Field K] [LinearOrder K] [FloorRing K] [SquareRoot K] in
theorem Targeting.attackable {c : Constants K} (h : st.Targeting c)
    (hT : 2 ≤ c.soldierTotalTurnsToRespawn) {st' : State K} (hsoldiers : st'.soldiers = st.soldiers)
    (z : PlayerId × ℕ) : st'.Attackable z := by
  intro q k s u hs hptr hu hdead
  rw [hsoldiers] at hs hu
  have := h.soldier q k s z.1 z.2 u 0 hs hptr hu hdead
  omega

omit [SquareRoot K] in
theorem Ready.targetsFixed (h : st.Ready r) {f : ℤ → ℤ} (hf : ∀ id < st.actorIdIncrement, f id = id)
    {st' : State K} (hsoldiers : st'.soldiers = st.soldiers) : st'.TargetsFixed f := by
  intro p i s q id hs hptr
  rw [hsoldiers] at hs
  obtain ⟨t, ht, rfl⟩ := h.targeting.tower p i s q id hs hptr
  exact hf t.id ((h.sound.manager q).id_lt t (TowerManager.mem_allocatedTowers_of_mem ht))

variable [IsStrictOrderedRing K]

/-- **The order of the players in an update decides over the ids of the new towers**,
and over nothing else, if respawning takes two turns or more. -/
theorem Ready.update_comm (h : st.Ready r) (hT : 2 ≤ r.soldierTotalTurnsToRespawn) :
    ∃ st₁₂ st₂₁, State.updateInOrder r.toConstants [.player1, .player2] st = .ok st₁₂ ∧
      State.updateInOrder r.toConstants [.player2, .player1] st = .ok st₂₁ ∧
      st₂₁ = st₁₂.rename (exchange st.actorIdIncrement
        (st.towerManagers .player1).towersToBuildOffsets.length
        (st.towerManagers .player2).towersToBuildOffsets.length) := by
  obtain ⟨_, st₂, htowers, hu₁, hu₂, -, hs₂, hrun, -⟩ := h.updateInOrder .player1
  obtain ⟨_, st₂', htowers', -, -, -, -, hrun', -⟩ := h.updateInOrder .player2
  obtain ⟨e, he⟩ := h.exists_updates
  obtain rfl := Except.ok.inj (htowers.symm.trans (he.foldlM_updateTowers h .player1))
  obtain rfl := Except.ok.inj (htowers'.symm.trans (he.foldlM_updateTowers h .player2))
  refine ⟨_, _, hrun, hrun', ?_⟩
  have hsoldiers : (st.combine e .player1).soldiers = st.soldiers := rfl
  set f := exchange st.actorIdIncrement (st.towerManagers .player1).towersToBuildOffsets.length
    (st.towerManagers .player2).towersToBuildOffsets.length with hf
  have hfixed : (st.combine e .player1).TargetsFixed f :=
    h.targetsFixed (fun _ hid => exchange_of_lt hid) hsoldiers
  have hattackable := h.targeting.attackable hT hsoldiers
  have hfinish : (st.combine e .player2).actAll r.toConstants
      (roster r.toConstants [.player2, .player1]) =
      ((st.combine e .player1).actAll r.toConstants
        (roster r.toConstants [.player1, .player2])).rename f := by
    rw [he.combine_eq, ← hf, ← hs₂.actAll_rename f.injective hfixed]
    exact congrArg (State.rename f) (hs₂.actAll_comm hattackable .player2)
  show ((st.combine e .player2).actAll r.toConstants
    (roster r.toConstants [.player2, .player1])).finishAll r.toConstants
      (roster r.toConstants [.player2, .player1]) = _
  rw [hfinish, ← finishAll_rename]
  exact congrArg (State.rename f) (finishAll_comm r.toConstants .player2)

end Update

end State

end Simulator
