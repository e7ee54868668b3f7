import Simulator.Foundation.Outcomes
import Simulator.Main.Runs

/-!
# Where a soldier is looked up

`GetSoldierById` checks that an id is that of a soldier, of either team, and then takes its
distance from the first id of one team for an index.  With an id of the other team that is
an index outside the vector, which nothing checks.

`State.LaidOut` is all that the lookup relies on, and holds in every reachable state
(`Reachable.laidOut`).  `getSoldierById_own`, `getSoldierById_foreign` and
`getSoldierById_unknown` say what it comes to for the ids of the team, those of the other
team and all others, and `State.lookups_iff` what that means for the two commands that begin
with a lookup.
-/

namespace Simulator

open Foundation

variable {K : Type}

/-- `std::out_of_range`. -/
def Fault.IsOutOfRange : Fault → Prop
  | .outOfRange _ => True
  | .logicError _ | .undefined => False

/-- One of the ids of the soldiers of player `p`, when a team has `n`. -/
def TeamId (n : ℕ) (p : PlayerId) (actorId : ℤ) : Prop :=
  n * p.index ≤ actorId ∧ actorId < n * p.index + n

instance (n : ℕ) (p : PlayerId) (actorId : ℤ) : Decidable (TeamId n p actorId) :=
  inferInstanceAs (Decidable (_ ∧ _))

theorem teamId_cases (n : ℕ) (p : PlayerId) (actorId : ℤ) :
    TeamId n p actorId ∧ ¬ TeamId n p.opponent actorId ∨
      TeamId n p.opponent actorId ∧ ¬ TeamId n p actorId ∨
      (actorId < 0 ∨ 2 * n ≤ actorId) ∧ ¬ TeamId n p actorId ∧ ¬ TeamId n p.opponent actorId := by
  cases p <;> simp only [TeamId, PlayerId.index, PlayerId.opponent] <;> omega

theorem TeamId.range {n : ℕ} {p : PlayerId} {actorId : ℤ} (h : TeamId n p actorId) :
    0 ≤ actorId ∧ actorId < 2 * n := by
  cases p <;> simp only [TeamId, PlayerId.index] at h <;> omega

namespace State

/-- Both teams have `n` soldiers, numbered from 0 on, player 1's first. -/
structure LaidOut (n : ℕ) (st : State K) : Prop where
  length_soldiers : ∀ p, (st.soldiers p).length = n
  soldier : ∀ p (i : ℕ) s, (st.soldiers p)[i]? = some s → s.id = n * p.index + i ∧ s.playerId = p

/-- The soldier with that id, at its place in the vector of the player that owns it. -/
structure SoldierAt (st : State K) (p : PlayerId) (actorId : ℤ) (i : ℕ) (s : Soldier K) :
    Prop where
  slot : (st.soldiers p)[i]? = some s
  id : s.id = actorId
  owner : s.playerId = p

/-- What an attack of player `p` on an actor id may target: the opponent's soldier or tower
with that id. -/
def TargetAt (st : State K) (p : PlayerId) (actorId : ℤ) (ptr : ActorPtr) : Prop :=
  (∃ j u, st.SoldierAt p.opponent actorId j u ∧ ptr = .soldier p.opponent j) ∨
    ∃ t ∈ st.towers p.opponent, t.id = actorId ∧ ptr = .tower p.opponent t.id

/-! ## What is wanted -/

/-- `GetSoldierById` returns the soldier with that id and owner, or throws `out_of_range`. -/
def FindsHonestly (st : State K) (actorId : ℤ) (p : PlayerId) : Prop :=
  Ends (fun i => ∃ s, st.SoldierAt p actorId i s) Fault.IsOutOfRange (st.getSoldierById actorId p)

/-- `MoveSoldier` moves the soldier with that id and owner, or throws `out_of_range`. -/
def MovesHonestly (st : State K) (p : PlayerId) (soldierId : ℤ) (position : Vector K) : Prop :=
  Ends (fun st' => ∃ i s, st.SoldierAt p soldierId i s ∧ st' = st.setSoldier p i (s.move position))
    Fault.IsOutOfRange (st.moveSoldier p soldierId position)

/-- `AttackActor` has the soldier with that id and owner attack the opponent's actor with the
other id, or throws `out_of_range`. -/
def AttacksHonestly (st : State K) (p : PlayerId) (soldierId actorId : ℤ) : Prop :=
  Ends (fun st' => ∃ i s ptr, st.SoldierAt p soldierId i s ∧ st.TargetAt p actorId ptr ∧
      st' = st.setSoldier p i (s.attack ptr))
    Fault.IsOutOfRange (st.attackActor p soldierId actorId)

/-! ## The lookup -/

variable {n : ℕ} {st : State K} {p : PlayerId} {actorId : ℤ}

/-- **An id of the team** leads to the soldier that has it. -/
theorem getSoldierById_own (h : st.LaidOut n) (hid : TeamId n p actorId) :
    ∃ i s, st.getSoldierById actorId p = .ok i ∧ st.SoldierAt p actorId i s := by
  obtain ⟨i, hi⟩ : ∃ i : ℕ, actorId = n * p.index + i :=
    ⟨(actorId - n * p.index).toNat, by unfold TeamId at hid; omega⟩
  have hlt : i < n := by
    unfold TeamId at hid
    omega
  obtain ⟨s, hslot⟩ : ∃ s, (st.soldiers p)[i]? = some s :=
    ⟨_, List.getElem?_eq_getElem (h.length_soldiers p ▸ hlt)⟩
  obtain ⟨hsid, howner⟩ := h.soldier p i s hslot
  exact ⟨i, s, hi ▸ StateSyncer.getSoldierById_eq h.length_soldiers hlt, hslot, hsid.trans hi.symm,
    howner⟩

/-- **An id of the other team** leads outside the vector. -/
theorem getSoldierById_foreign (h : st.LaidOut n) (hid : TeamId n p.opponent actorId) :
    st.getSoldierById actorId p = .error .undefined := by
  obtain ⟨hlow, hhigh⟩ := hid.range
  have hoff : actorId - n * p.index < 0 ∨ (n : ℤ) ≤ actorId - n * p.index := by
    cases p <;> simp only [TeamId, PlayerId.index, PlayerId.opponent] at hid ⊢ <;> omega
  have hat : vectorAt (st.soldiers p) (actorId - n * p.index) = .error .undefined :=
    vectorAt_of_outside (by rwa [h.length_soldiers])
  simp only [getSoldierById, h.length_soldiers, if_neg (not_lt.mpr hlow),
    if_neg (show ¬ actorId > 2 * n - 1 by omega), hat]
  rfl

/-- **An id of no soldier** is refused. -/
theorem getSoldierById_unknown (h : st.LaidOut n) (hid : actorId < 0 ∨ 2 * n ≤ actorId) :
    ∃ what, st.getSoldierById actorId p = .error (.outOfRange what) := by
  by_cases hneg : actorId < 0
  · exact ⟨_, by rw [getSoldierById, if_pos hneg]⟩
  · have hhigh : actorId > 2 * n - 1 := by omega
    refine ⟨"Invalid actor_id, no such soldier", ?_⟩
    simp only [getSoldierById, h.length_soldiers, if_neg hneg, if_pos hhigh]

/-- **The lookup goes right** except for the ids of the other team. -/
theorem findsHonestly_iff (h : st.LaidOut n) (p : PlayerId) (actorId : ℤ) :
    st.FindsHonestly actorId p ↔ ¬ TeamId n p.opponent actorId := by
  unfold FindsHonestly
  rcases teamId_cases n p actorId with ⟨hown, hnot⟩ | ⟨hforeign, -⟩ | ⟨hunknown, -, hnot⟩
  · obtain ⟨i, s, hget, hs⟩ := getSoldierById_own h hown
    rw [hget]
    exact iff_of_true ⟨s, hs⟩ hnot
  · rw [getSoldierById_foreign h hforeign]
    exact iff_of_false id (not_not.mpr hforeign)
  · obtain ⟨what, hthrow⟩ := getSoldierById_unknown (p := p) h hunknown
    rw [hthrow]
    exact iff_of_true trivial hnot

/-! ## The commands -/

theorem movesHonestly_iff (h : st.LaidOut n) (p : PlayerId) (soldierId : ℤ) (position : Vector K) :
    st.MovesHonestly p soldierId position ↔ ¬ TeamId n p.opponent soldierId := by
  rw [← findsHonestly_iff h]
  constructor
  · intro hmoves
    rw [findsHonestly_iff h]
    intro hforeign
    rw [MovesHonestly, moveSoldier, getSoldierById_foreign h hforeign] at hmoves
    exact Ends.not_bind_error id _ hmoves
  · intro hfinds
    refine hfinds.bind ?_
    intro i hfound
    obtain ⟨s, hs⟩ := hfound
    rw [Ends.bind_ok_iff (vectorAt_of_getElem? hs.slot)]
    exact ⟨i, s, hs, rfl⟩

theorem ends_getTowerById (m : TowerManager K) (towerId : ℤ) :
    Ends (fun t => t ∈ m.towers ∧ t.id = towerId) Fault.IsOutOfRange (m.getTowerById towerId) := by
  unfold TowerManager.getTowerById
  cases hi : TowerManager.towerIndex towerId m.towers with
  | none => trivial
  | some k =>
    obtain ⟨t, ht, hid⟩ := TowerManager.getElem?_of_towerIndex hi
    have hat : vectorAt m.towers (k : ℤ) = .ok t := vectorAt_of_getElem? ht
    simp only [hat]
    exact ⟨List.mem_of_getElem? ht, hid⟩

/-- **An attack that has found its soldier** goes right if the target is not one of the
player's own soldiers: such a target is looked up among the opponent's. -/
theorem attacksHonestly_iff_of_found (h : st.LaidOut n) {soldierId : ℤ} {i : ℕ} {s : Soldier K}
    (hget : st.getSoldierById soldierId p = .ok i) (hs : st.SoldierAt p soldierId i s)
    (actorId : ℤ) : st.AttacksHonestly p soldierId actorId ↔ ¬ TeamId n p actorId := by
  rw [AttacksHonestly, attackActor, Ends.bind_ok_iff hget,
    Ends.bind_ok_iff (vectorAt_of_getElem? hs.slot), h.length_soldiers]
  rcases teamId_cases n p actorId with ⟨hown, -⟩ | ⟨htheirs, hnot⟩ | ⟨hunknown, hnot, -⟩
  · rw [if_pos hown.range, getSoldierById_foreign h (p.opponent_opponent.symm ▸ hown)]
    exact iff_of_false (Ends.not_bind_error id _) (not_not.mpr hown)
  · obtain ⟨j, u, htarget, hu⟩ := getSoldierById_own h htheirs
    rw [if_pos htheirs.range, Ends.bind_ok_iff htarget]
    exact iff_of_true ⟨i, s, _, hs, .inl ⟨j, u, hu, rfl⟩, rfl⟩ hnot
  · rw [if_neg (by omega)]
    refine iff_of_true ((ends_getTowerById _ actorId).bind ?_) hnot
    intro t hfound
    obtain ⟨ht, hid⟩ := hfound
    exact ⟨i, s, _, hs, .inr ⟨t, ht, hid, rfl⟩, rfl⟩

/-- **An attack** goes right if neither of its lookups leaves the vector it is made in. -/
theorem attacksHonestly_iff (h : st.LaidOut n) (p : PlayerId) (soldierId actorId : ℤ) :
    st.AttacksHonestly p soldierId actorId ↔
      ¬ TeamId n p.opponent soldierId ∧ (TeamId n p soldierId → ¬ TeamId n p actorId) := by
  rcases teamId_cases n p soldierId with ⟨hown, hnot⟩ | ⟨hforeign, -⟩ | ⟨hunknown, hnot, hnot'⟩
  · obtain ⟨i, s, hget, hs⟩ := getSoldierById_own h hown
    rw [attacksHonestly_iff_of_found h hget hs]
    simp [hown, hnot]
  · rw [AttacksHonestly, attackActor, getSoldierById_foreign h hforeign]
    exact iff_of_false (Ends.not_bind_error id _) fun hright => hright.1 hforeign
  · obtain ⟨what, hthrow⟩ := getSoldierById_unknown (p := p) h hunknown
    rw [AttacksHonestly, attackActor, hthrow]
    exact iff_of_true trivial ⟨hnot', fun hown => absurd hown hnot⟩

/-! ## The three together -/

/-- **When a soldier is looked up rightly.**  The lookup and a move go right for all ids but
those of the other team's soldiers.  So does an attack, unless it sends a soldier of the
player against another of the same team. -/
theorem lookups_iff (h : st.LaidOut n) (p : PlayerId) (actorId : ℤ) :
    (st.FindsHonestly actorId p ↔ ¬ TeamId n p.opponent actorId) ∧
    (∀ position, st.MovesHonestly p actorId position ↔ ¬ TeamId n p.opponent actorId) ∧
    ∀ targetId, st.AttacksHonestly p actorId targetId ↔
      ¬ TeamId n p.opponent actorId ∧ (TeamId n p actorId → ¬ TeamId n p targetId) :=
  ⟨findsHonestly_iff h p actorId, movesHonestly_iff h p actorId, attacksHonestly_iff h p actorId⟩

end State

section Games

variable [Field K] [LinearOrder K] [FloorRing K] {r : Ruleset K}

theorem State.Sound.laidOut {c : Constants K} {st : State K} (h : st.Sound c) :
    st.LaidOut c.numSoldiers where
  length_soldiers := h.length_soldiers
  soldier := fun p i s hs => ⟨(h.soldier p i s hs).id_eq, (h.soldier p i s hs).playerId_eq⟩

variable [IsStrictOrderedRing K]

/-- The soldiers stay where `BuildState` has put them. -/
theorem Reachable.laidOut [SquareRoot K] {st : State K} (h : Reachable r st) :
    st.LaidOut r.numSoldiers :=
  h.rested.sound.laidOut

theorem exists_laidOut [SquareRoot K] (r : Ruleset K) :
    ∃ st, buildState r.toConstants = .ok st ∧ st.LaidOut r.numSoldiers := by
  obtain ⟨st, hst, -⟩ := exists_buildState r
  exact ⟨st, hst, Reachable.laidOut ⟨[], .start hst⟩⟩

omit [Field K] [LinearOrder K] [FloorRing K] [IsStrictOrderedRing K]

/-- The state at the beginning of a game, with twenty soldiers in a team. -/
theorem lookups_iff_sample : ∃ (st : State ℚ), buildState productionRules.toConstants = .ok st ∧
    st.FindsHonestly 20 .player2 ∧ st.FindsHonestly 40 .player1 ∧
    (∀ position, st.MovesHonestly .player1 19 position) ∧ st.AttacksHonestly .player1 0 20 ∧
    st.AttacksHonestly .player1 0 41 := by
  obtain ⟨st, hst, h⟩ := exists_laidOut productionRules
  refine ⟨st, hst, (State.lookups_iff h .player2 20).1.mpr (by decide),
    (State.lookups_iff h .player1 40).1.mpr (by decide),
    fun position => ((State.lookups_iff h .player1 19).2.1 position).mpr (by decide), ?_, ?_⟩
  · exact ((State.lookups_iff h .player1 0).2.2 20).mpr (by decide)
  · exact ((State.lookups_iff h .player1 0).2.2 41).mpr (by decide)

/-- In the same state the ids of the other team's soldiers are not refused: soldier 20 is
looked up at index 20 of twenty, and soldier 0 at index -20. -/
theorem not_lookups_sample : ∃ (st : State ℚ), buildState productionRules.toConstants = .ok st ∧
    st.LaidOut 20 ∧ st.getSoldierById 20 .player1 = .error .undefined ∧
    ¬ st.FindsHonestly 20 .player1 ∧ ¬ st.FindsHonestly 0 .player2 ∧
    (∀ position, ¬ st.MovesHonestly .player1 20 position) ∧
    ¬ st.AttacksHonestly .player1 20 20 ∧ ¬ st.AttacksHonestly .player1 0 0 := by
  obtain ⟨st, hst, h⟩ := exists_laidOut productionRules
  refine ⟨st, hst, h, State.getSoldierById_foreign h (by decide), ?_, ?_, ?_, ?_,
    ?_⟩
  · intro hfinds
    exact (State.findsHonestly_iff h .player1 20).mp hfinds (by decide)
  · intro hfinds
    exact (State.findsHonestly_iff h .player2 0).mp hfinds (by decide)
  · intro position hmoves
    exact (State.movesHonestly_iff h .player1 20 position).mp hmoves (by decide)
  · intro hattacks
    exact ((State.attacksHonestly_iff h .player1 20 20).mp hattacks).1 (by decide)
  · intro hattacks
    exact ((State.attacksHonestly_iff h .player1 0 0).mp hattacks).2 (by decide) (by decide)

end Games

end Simulator
