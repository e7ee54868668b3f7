import Simulator.Main.Runs
import Simulator.State.AnyOrder
import Simulator.State.UpdateOrder

/-!
# The order of the soldiers' updates

Damage is pending until the late update, and so are moves, which is to make an update
independent of the order in which the soldiers are updated.  It does so for hp, towers
and balances, in every state a game can be in (`InGame.fight_any_order`).  It does not
for positions: whether a soldier goes after its target depends on the damage that is
pending when it is updated (`InGame.position_any_order_iff`).

## Which states

`InGame` are the states in which soldiers can be updated, between two turns, after the commands,
and after the towers' phase, where `State::Update` does it.  Of these it is to be shown that they
are arrayed for the soldiers' phases: sound, with no move pending, no target about to respawn and
balances in their range.  All of this has been proved along the runs of a game, except for the
last, which is about sums (`Game.bounded`).

## The exact condition for positions

A soldier that finds its target finished off gives it up and stays where it is, and otherwise goes
after it when it is out of range.  So an order in which others come first, who finish the target
off, and one in which they come last lead to different positions.  Both orders exist as soon as
there is such a soldier, and that is the only way in which positions can differ; the condition is
one on the state the updates begin in.
-/

namespace Simulator

open Foundation

variable {K : Type} [Field K] [LinearOrder K] [FloorRing K] [SquareRoot K]

/-- The states a game can be in when soldiers are updated: between two turns, after the
commands of a turn, and after the towers' phase of its update, where `State::Update`
does it. -/
inductive InGame (r : Ruleset K) : State K → Prop
  | between {st : State K} (h : Reachable r st) : InGame r st
  | commanded {st : State K} (h : Commanded r st) : InGame r st
  | towersUpdated {st st' : State K} (h : Commanded r st)
      (hu : PlayerId.all.foldlM (State.updateTowers r.toConstants) st = .ok st') : InGame r st'

section Runs

variable [IsStrictOrderedRing K] {r : Ruleset K} {st st' : State K}

omit [SquareRoot K] in
theorem State.Rested.sameButOrders (h : st.Rested r) {input : Input r.toConstants}
    {ph : CommandPhase K} (hrun : execute input st = .ok ph) : st.SameButOrders ph.state := by
  rw [h.state_of_execute hrun]
  exact State.sameButOrders_carryOutAll st _

/-! ## No move is pending -/

omit [Field K] [LinearOrder K] [FloorRing K] [SquareRoot K] [IsStrictOrderedRing K] in
theorem Soldier.isNewPositionSet_finish (c : Constants K) (s : Soldier K) :
    (s.finish c).isNewPositionSet = false := by
  unfold finish
  split <;> rfl

theorem State.Ready.unmoved_update (h : st.Ready r)
    (hupdate : State.update r.toConstants st = .ok st') :
    st'.AllAt fun s => s.isNewPositionSet = false := by
  obtain ⟨_, st₂, -, -, -, -, hs₂, hrun, -⟩ := h.updateInOrder .player1
  obtain rfl := Except.ok.inj (hrun.symm.trans hupdate)
  intro p i s' hs'
  rw [State.getElem?_finishAll _ (State.nodup_roster _ (by simp))] at hs'
  obtain ⟨s, hs, rfl⟩ := Option.map_eq_some_iff.mp hs'
  have hi := (hs₂.actAll _).slot_lt hs
  rw [if_pos (State.mem_roster.mpr ⟨PlayerId.mem_all p, hi⟩)]
  exact s.isNewPositionSet_finish _

theorem Game.unmoved {past : List (Turn K)} (h : Game r past st) :
    st.AllAt fun s => s.isNewPositionSet = false := by
  cases h with
  | start h =>
    intro p i s hs
    rw [soldiers_of_buildState h] at hs
    rw [getElem?_buildSoldiers hs]
    rfl
  | turn h ht =>
    obtain ⟨hready, -⟩ := ht.ready h.rested
    obtain ⟨-, -, -, -, hupdate⟩ := ht
    exact hready.unmoved_update hupdate

/-! ## The balances -/

omit [SquareRoot K] in
theorem State.Ready.bounded_updateTowers (h : st.Ready r)
    (hbounded : st.moneyManager.Bounded r.toConstants)
    (hu : PlayerId.all.foldlM (State.updateTowers r.toConstants) st = .ok st') :
    st'.moneyManager.Bounded r.toConstants := by
  have hround : ∀ {p : PlayerId} {st st' : State K}, st.Sound r.toConstants →
      st.moneyManager.Bounded r.toConstants →
      State.updateTowers r.toConstants st p = .ok st' →
      st'.moneyManager.Bounded r.toConstants := by
    intro p st st' hs hb hu
    unfold State.updateTowers at hu
    split at hu
    · rename_i e he
      obtain rfl := Except.ok.inj hu
      exact TowerEnv.bounded_update (hs.env p).painted hb he
    · cases hu
  obtain ⟨st₁, hu₁, hrest⟩ := bind_eq_ok.mp ((List.foldlM_cons ..).symm.trans hu)
  obtain ⟨st₂, hu₂, hnil⟩ := bind_eq_ok.mp ((List.foldlM_cons ..).symm.trans hrest)
  obtain rfl : st₂ = st' := Except.ok.inj hnil
  obtain ⟨st₁', hu₁', hs₁, -⟩ := h.sound.updateTowers (h.queued .player1)
    (h.targeting.listed .player1)
  obtain rfl := Except.ok.inj (hu₁.symm.trans hu₁')
  exact hround hs₁ (hround h.sound hbounded hu₁) hu₂

omit [IsStrictOrderedRing K] [FloorRing K] in
theorem State.bounded_actAll (c : Constants K) {st : State K} (h : st.moneyManager.Bounded c)
    (l : List (PlayerId × ℕ)) : (st.actAll c l).moneyManager.Bounded c :=
  foldl_invariant (I := fun st : State K => st.moneyManager.Bounded c) (fun st h x _ => by
    rw [moneyManager_apply, money_actEffect]
    cases st.kills x.1 x.2 with
    | none => exact h
    | some a => exact h.rewarded a) h

/-- **The balances of a game keep to their range.** -/
theorem Game.bounded {past : List (Turn K)} (h : Game r past st) :
    st.moneyManager.Bounded r.toConstants := by
  induction h with
  | start h =>
    obtain ⟨st, hst, -, -, hmoney⟩ := exists_buildState r
    obtain rfl := Except.ok.inj (hst.symm.trans h)
    rw [hmoney]
    exact ⟨rfl, fun _ => le_max_left _ _, fun _ =>
      (min_le_right _ _).trans (min_le_left _ _)⟩
  | @turn past t h ht ih =>
    obtain ⟨hready, -⟩ := ht.ready h.rested
    obtain ⟨input, ph, hrun, hstate, hupdate⟩ := ht
    have hbefore : t.commanded.moneyManager = t.before.moneyManager :=
      hstate ▸ (h.rested.sameButOrders hrun).moneyManager
    obtain ⟨_, st₂, htowers, -, -, -, -, hrun₂, -⟩ := hready.updateInOrder .player1
    rw [← Except.ok.inj (hrun₂.symm.trans hupdate),
      State.moneyManager_finishAll _ (State.nodup_roster _ (by simp))]
    exact State.bounded_actAll _ (hready.bounded_updateTowers (hbefore ▸ ih) htowers) _

/-! ## The states in which soldiers are updated -/

omit [SquareRoot K] in
theorem State.Ready.arrayed_of_updateTowers (h : st.Ready r)
    (hT : 2 ≤ r.soldierTotalTurnsToRespawn)
    (hunmoved : st.AllAt fun s => s.isNewPositionSet = false)
    (hbounded : st.moneyManager.Bounded r.toConstants)
    (hu : PlayerId.all.foldlM (State.updateTowers r.toConstants) st = .ok st') :
    st'.Arrayed r := by
  obtain ⟨st₁, st₂, htowers, hu₁, hu₂, -, hs₂⟩ := h.updateTowers .player1
  obtain rfl := Except.ok.inj (htowers.symm.trans hu)
  have hsoldiers : st₂.soldiers = st.soldiers := hu₂.soldiers.trans hu₁.soldiers
  exact ⟨hs₂, h.targeting.attackable hT hsoldiers, fun p i s hs =>
    hunmoved p i s (hsoldiers ▸ hs), h.bounded_updateTowers hbounded hu⟩

theorem Commanded.arrayed (h : Commanded r st) (hT : 2 ≤ r.soldierTotalTurnsToRespawn) :
    st.Arrayed r := by
  have hready := h.ready
  obtain ⟨before, input, ph, ⟨past, hgame⟩, hrun, rfl⟩ := h
  have hsame := hgame.rested.sameButOrders hrun
  refine ⟨hready.sound, hready.targeting.attackable hT rfl, ?_, ?_⟩
  · intro p i s' hs'
    obtain ⟨s, hs, heq⟩ := hsame.exists_getElem? hs'
    have hset : s'.isNewPositionSet = s.isNewPositionSet :=
      (congrArg Soldier.isNewPositionSet heq :)
    exact hset.trans (hgame.unmoved p i s hs)
  · rw [hsame.moneyManager]
    exact hgame.bounded

/-- **In a game the soldiers can be updated**: nobody's target is about to respawn, if
respawning takes two turns or more. -/
theorem InGame.arrayed (h : InGame r st) (hT : 2 ≤ r.soldierTotalTurnsToRespawn) :
    st.Arrayed r := by
  cases h with
  | between h =>
    obtain ⟨past, hgame⟩ := h
    exact ⟨hgame.rested.sound, hgame.rested.targeting.attackable hT rfl, hgame.unmoved,
      hgame.bounded⟩
  | commanded h => exact h.arrayed hT
  | towersUpdated h hu =>
    exact h.ready.arrayed_of_updateTowers hT (h.arrayed hT).unmoved (h.arrayed hT).bounded hu

/-! ## Hp, towers and balances -/

/-- **Hp, towers and balances do not depend on the order of the updates**: in any order
of all soldiers of both players the soldiers' phases return, and leave every soldier
with the same hp, the same towers with the same hp, and every player with the same
balance as in the order of the loops. -/
theorem InGame.fight_any_order (h : InGame r st) (hT : 2 ≤ r.soldierTotalTurnsToRespawn)
    (hfit : r.RewardsFit) {l : List (PlayerId × ℕ)} (hl : l.Perm (State.slots r.toConstants)) :
    ∃ st₁ st₂, st.fight r.toConstants = .ok st₁ ∧ st.fightInOrder r.toConstants l = .ok st₂ ∧
      (∀ p, (st₂.soldiers p).map Soldier.hp = (st₁.soldiers p).map Soldier.hp) ∧
      (∀ p, st₂.towers p = st₁.towers p) ∧
      st₂.moneyManager.playerMoney = st₁.moneyManager.playerMoney := by
  have harrayed := h.arrayed hT
  refine ⟨_, _, harrayed.sound.fight_eq, harrayed.sound.fightInOrder_eq hl,
    harrayed.hp_fought hl (.refl _), ?_, harrayed.playerMoney_fought hfit hl (.refl _)⟩
  intro p
  rw [State.towers, State.towers, harrayed.towerManagers_fought hl (.refl _)]

/-! ## A skirmish -/

omit [Field K] [LinearOrder K] [FloorRing K] [SquareRoot K] [IsStrictOrderedRing K] in
/-- Constants of a small game with two soldiers for each player, which start six apart,
take steps of three and hit at a distance of four. -/
def skirmishRules : Ruleset ℚ :=
  { sampleRules with
    numSoldiers := 2
    soldierSpeed := 3
    soldierAttackRange := 4
    baseTowerPositions := fun
      | .player1 => Vector.ofInt 1 1
      | .player2 => Vector.ofInt 1 7
    respawnPositions := fun
      | .player1 => Vector.ofInt 1 1
      | .player2 => Vector.ofInt 1 7 }

omit [Field K] [LinearOrder K] [FloorRing K] [SquareRoot K] [IsStrictOrderedRing K] in
/-- A copy in which player 1 sends its first soldier half the way. -/
def PlayerState.advance : PlayerState skirmishRules.toConstants :=
  { PlayerState.quiet _ with
    soldiers := fun i => { PlayerState.quietSoldier ℚ with
      id := (i : ℕ)
      destination := if (i : ℕ) = 0 then Vector.ofInt 1 4 else Vector.ofInt (-1) (-1) } }

omit [Field K] [LinearOrder K] [FloorRing K] [SquareRoot K] [IsStrictOrderedRing K] in
/-- A copy in which player 1 sends both of its soldiers against the first of the
other's. -/
def PlayerState.charge : PlayerState skirmishRules.toConstants :=
  { PlayerState.quiet _ with
    soldiers := fun i => { PlayerState.quietSoldier ℚ with
      id := (i : ℕ)
      soldierTarget := 2 } }

omit [Field K] [LinearOrder K] [FloorRing K] [SquareRoot K] [IsStrictOrderedRing K] in
/-- The order of the updates in which the second soldier of player 1 comes first. -/
def secondFirst : List (PlayerId × ℕ) :=
  [(.player1, 1), (.player1, 0), (.player2, 0), (.player2, 1)]

omit [Field K] [LinearOrder K] [FloorRing K] [SquareRoot K] [IsStrictOrderedRing K] in
theorem secondFirst_perm : secondFirst.Perm (State.slots skirmishRules.toConstants) := by
  decide

omit [Field K] [LinearOrder K] [FloorRing K] [SquareRoot K] [IsStrictOrderedRing K] in
/-- The second turn of a skirmish, after its commands: one soldier of player 1 is in
range of its target and kills it, the other is out of range.  It stays where it is when
it comes second, and goes after the target when it comes first. -/
theorem exists_skirmish : ∃ st, Commanded skirmishRules st ∧ ∃ st₁ st₂,
    st.fight skirmishRules.toConstants = .ok st₁ ∧
    st.fightInOrder skirmishRules.toConstants secondFirst = .ok st₂ ∧
    (st₂.soldiers .player2).map Soldier.hp = [0, 1] ∧
    (st₁.soldiers .player1).map Soldier.position = [Vector.ofInt 1 4, Vector.ofInt 1 1] ∧
    (st₂.soldiers .player1).map Soldier.position = [Vector.ofInt 1 4, Vector.ofInt 1 4] := by
  have hrun : ((play skirmishRules [bothPlay _ .advance (.quiet _)]).toOption.bind fun st =>
      (execute (bothPlay skirmishRules .charge (.quiet _)) st).toOption.bind fun ph =>
      (ph.state.fight skirmishRules.toConstants).toOption.bind fun st₁ =>
      (ph.state.fightInOrder skirmishRules.toConstants secondFirst).toOption.bind fun st₂ =>
      some ((st₂.soldiers .player2).map Soldier.hp, (st₁.soldiers .player1).map Soldier.position,
        (st₂.soldiers .player1).map Soldier.position)) =
      some ([0, 1], [Vector.ofInt 1 4, Vector.ofInt 1 1],
        [Vector.ofInt 1 4, Vector.ofInt 1 4]) := by
    decide +kernel
  obtain ⟨st, hplay, hrun⟩ := exists_of_toOption_bind hrun
  obtain ⟨ph, hph, hrun⟩ := exists_of_toOption_bind hrun
  obtain ⟨st₁, h₁, hrun⟩ := exists_of_toOption_bind hrun
  obtain ⟨st₂, h₂, hrun⟩ := exists_of_toOption_bind hrun
  obtain ⟨hhp, hpositions⟩ := Prod.mk.inj (Option.some.inj hrun)
  obtain ⟨hposition, hposition'⟩ := Prod.mk.inj hpositions
  exact ⟨ph.state, ⟨st, _, ph, reachable_of_play hplay, hph, rfl⟩, st₁, st₂, h₁, h₂, hhp,
    hposition, hposition'⟩

omit [Field K] [LinearOrder K] [FloorRing K] [SquareRoot K] [IsStrictOrderedRing K] in
/-- The skirmish leaves the same hp, towers and balances in both orders. -/
theorem fight_any_order_sample : ∃ st st₁ st₂, Commanded skirmishRules st ∧
    st.fight skirmishRules.toConstants = .ok st₁ ∧
    st.fightInOrder skirmishRules.toConstants secondFirst = .ok st₂ ∧
    (st₁.soldiers .player2).map Soldier.hp = [0, 1] ∧
    (∀ p, (st₂.soldiers p).map Soldier.hp = (st₁.soldiers p).map Soldier.hp) ∧
    (∀ p, st₂.towers p = st₁.towers p) ∧
    st₂.moneyManager.playerMoney = st₁.moneyManager.playerMoney := by
  obtain ⟨st, hcommanded, -, st₂, -, h₂, hhp, -⟩ := exists_skirmish
  obtain ⟨st₁, st₂', h₁, h₂', hall, hrest⟩ :=
    (InGame.commanded hcommanded).fight_any_order (by decide) (by decide) secondFirst_perm
  obtain rfl := Except.ok.inj (h₂.symm.trans h₂')
  exact ⟨st, st₁, st₂, hcommanded, h₁, h₂, (hall .player2).symm.trans hhp, hall, hrest⟩

/-! ## Positions -/

/-- **Positions do not depend on the order of the updates exactly if the soldiers do not
finish off, in this phase, what one of them is to take a step after.** -/
theorem InGame.position_any_order_iff (h : InGame r st) (hT : 2 ≤ r.soldierTotalTurnsToRespawn) :
    (∀ l : List (PlayerId × ℕ), l.Perm (State.slots r.toConstants) → ∃ st₁ st₂,
      st.fight r.toConstants = .ok st₁ ∧ st.fightInOrder r.toConstants l = .ok st₂ ∧
        ∀ p, (st₂.soldiers p).map Soldier.position = (st₁.soldiers p).map Soldier.position) ↔
      st.SparesThePursued r.toConstants := by
  have harrayed := h.arrayed hT
  constructor
  · intro hsame
    by_contra hcut
    obtain ⟨l, l', p, hl, hl', hne⟩ := harrayed.exists_position_ne hcut
    have horder : ∀ {l : List (PlayerId × ℕ)}, l.Perm (State.slots r.toConstants) →
        ((st.fought r.toConstants l).soldiers p).map Soldier.position =
          ((st.fought r.toConstants (State.slots r.toConstants)).soldiers p).map
            Soldier.position := fun {l} hl => by
      obtain ⟨st₁, st₂, h₁, h₂, heq⟩ := hsame l hl
      rw [← Except.ok.inj (h₁.symm.trans harrayed.sound.fight_eq),
        ← Except.ok.inj (h₂.symm.trans (harrayed.sound.fightInOrder_eq hl))]
      exact heq p
    exact hne ((horder hl).trans (horder hl').symm)
  · intro hspares l hl
    exact ⟨_, _, harrayed.sound.fight_eq, harrayed.sound.fightInOrder_eq hl,
      harrayed.position_fought hspares hl (.refl _)⟩

omit [Field K] [LinearOrder K] [FloorRing K] [SquareRoot K] [IsStrictOrderedRing K] in
/-- In the skirmish the soldiers finish off what one of them is to take a step after, and
positions depend on the order. -/
theorem position_any_order_iff_sample : ∃ st, InGame skirmishRules st ∧
    ((∀ l : List (PlayerId × ℕ), l.Perm (State.slots skirmishRules.toConstants) → ∃ st₁ st₂,
      st.fight skirmishRules.toConstants = .ok st₁ ∧
      st.fightInOrder skirmishRules.toConstants l = .ok st₂ ∧
        ∀ p, (st₂.soldiers p).map Soldier.position = (st₁.soldiers p).map Soldier.position) ↔
      st.SparesThePursued skirmishRules.toConstants) := by
  obtain ⟨st, hcommanded, -⟩ := exists_skirmish
  exact ⟨st, .commanded hcommanded,
    (InGame.commanded hcommanded).position_any_order_iff (by decide)⟩

omit [Field K] [LinearOrder K] [FloorRing K] [SquareRoot K] [IsStrictOrderedRing K] in
/-- **Positions depend on the order of the updates**: in the skirmish the soldier that is
out of range ends up elsewhere when it is updated first. -/
theorem not_position_any_order_sample : ∃ st l st₁ st₂, InGame skirmishRules st ∧
    2 ≤ skirmishRules.soldierTotalTurnsToRespawn ∧
    l.Perm (State.slots skirmishRules.toConstants) ∧
    st.fight skirmishRules.toConstants = .ok st₁ ∧
    st.fightInOrder skirmishRules.toConstants l = .ok st₂ ∧
    (st₁.soldiers .player1).map Soldier.position = [Vector.ofInt 1 4, Vector.ofInt 1 1] ∧
    (st₂.soldiers .player1).map Soldier.position = [Vector.ofInt 1 4, Vector.ofInt 1 4] := by
  obtain ⟨st, hcommanded, st₁, st₂, h₁, h₂, -, hpositions⟩ := exists_skirmish
  exact ⟨st, secondFirst, st₁, st₂, .commanded hcommanded, by decide, secondFirst_perm, h₁, h₂,
    hpositions⟩

end Runs

end Simulator
