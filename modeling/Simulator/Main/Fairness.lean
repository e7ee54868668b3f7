import Simulator.Main.Runs
import Simulator.State.UpdateOrder

/-!
# Neither player is favoured

`ExecutePlayerCommands` and `State::Update` take player 1 first in all their loops.  A player that
is taken first could be better off: its soldiers could strike first, its builds could be paid for
first, its commands could be checked against a state that the other's have not touched.  Nothing
of the kind happens.

## The commands

With player 2 first in both loops, the commands lead to the same state, and to the same errors for
each player (`Reachable.execute_fair`).  Commands are checked against the copies of the state that
the players have been given and against the state of before the turn, and what a command of one
player does to the state is nothing that a check of the other's commands looks at.

## The update

With player 2 first in all three loops, the update leads to the same state, up to the ids that it
has handed out (`Commanded.update_fair`).  The new towers of the player whose towers are updated
first have the smaller ids, and that is all there is to the order.

Respawning has to take two turns or more for this.  If it takes a single turn, a soldier can be
the target of another and respawn in the middle of the soldiers' phase, and then it matters
whether it is hit before.  The constants of the game say ten.
-/

namespace Simulator

open Foundation

variable {K : Type} [Field K] [LinearOrder K] [FloorRing K] [SquareRoot K]

variable [IsStrictOrderedRing K] {r : Ruleset K}

/-! ## The commands -/

/-- **Executing the commands favours neither player**: with player 2 first in both
loops they lead to the same state, and to the same errors for each player. -/
theorem Reachable.execute_fair {st : State K} (h : Reachable r st)
    (playerStates : PlayerId → PlayerState r.toConstants)
    (skipPlayerCommandsFlags : PlayerId → Bool) :
    ∃ ph ph', StateSyncer.executePlayerCommands playerStates skipPlayerCommandsFlags st = .ok ph ∧
      StateSyncer.executeInOrder [.player2, .player1] playerStates skipPlayerCommandsFlags st =
        .ok ph' ∧
      ph.state = ph'.state ∧
      ∀ p, (ph.errors.filter fun e => e.playerId = p) =
        ph'.errors.filter fun e => e.playerId = p := by
  have hr := h.rested
  obtain ⟨ph, hrun, hstate, herrors⟩ := StateSyncer.executeInOrder_eq hr.sound playerStates
    skipPlayerCommandsFlags hr.room .player1
  obtain ⟨ph', hrun', hstate', herrors'⟩ := StateSyncer.executeInOrder_eq hr.sound playerStates
    skipPlayerCommandsFlags hr.room .player2
  refine ⟨ph, ph', hrun, hrun', ?_, ?_⟩
  · rw [hstate, hstate']
    exact State.carryOutAll_congr (fun p => by
      rw [StateSyncer.verdictsOf_allVerdicts, StateSyncer.verdictsOf_allVerdicts]) st
  · intro p
    rw [herrors, herrors', StateSyncer.filter_loggedErrors, StateSyncer.filter_loggedErrors,
      StateSyncer.verdictsOf_allVerdicts, StateSyncer.verdictsOf_allVerdicts]

omit [Field K] [LinearOrder K] [FloorRing K] [SquareRoot K] [IsStrictOrderedRing K] in
/-- The first turn of the small game, in which player 1 attacks and player 2 gives
an order to a soldier that is not its own. -/
theorem execute_fair_sample : ∃ st, buildState sampleRules.toConstants = .ok st ∧ ∃ ph ph',
    let input := bothPlay sampleRules (.attackSoldier _ 0 1) (.attackSoldier _ 7 0)
    execute input st = .ok ph ∧
      StateSyncer.executeInOrder [.player2, .player1] input.playerStates
        input.skipPlayerCommandsFlags st = .ok ph' ∧
      ph.state = ph'.state ∧
      ∀ p, (ph.errors.filter fun e => e.playerId = p) =
        ph'.errors.filter fun e => e.playerId = p := by
  obtain ⟨st, hst, -⟩ := exists_buildState sampleRules
  exact ⟨st, hst, Reachable.execute_fair ⟨[], .start hst⟩ _ _⟩

/-! ## The update -/

/-- **The update favours neither player**: with player 2 first in all three loops it
leads to the same state, up to the ids that it has handed out. -/
theorem Commanded.update_fair {st : State K} (h : Commanded r st)
    (hturns : 2 ≤ r.soldierTotalTurnsToRespawn) :
    ∃ st₁₂ st₂₁, ∃ f : Equiv.Perm ℤ, State.update r.toConstants st = .ok st₁₂ ∧
      State.updateInOrder r.toConstants [.player2, .player1] st = .ok st₂₁ ∧
      (∀ id < st.actorIdIncrement, f id = id) ∧ st₂₁ = st₁₂.rename f := by
  obtain ⟨st₁₂, st₂₁, hrun, hrun', hrename⟩ := h.ready.update_comm hturns
  exact ⟨st₁₂, st₂₁, _, hrun, hrun', fun _ hid => exchange_of_lt hid, hrename⟩

omit [Field K] [LinearOrder K] [FloorRing K] [SquareRoot K] [IsStrictOrderedRing K] in
/-- The first turn of the small game, in which both players build. -/
theorem update_fair_sample : ∃ st : State ℚ,
    (∀ p, (st.towerManagers p).towersToBuildOffsets.length = 1) ∧ ∃ st₁₂ st₂₁,
      ∃ f : Equiv.Perm ℤ, State.update sampleRules.toConstants st = .ok st₁₂ ∧
        State.updateInOrder sampleRules.toConstants [.player2, .player1] st = .ok st₂₁ ∧
        (∀ id < st.actorIdIncrement, f id = id) ∧ st₂₁ = st₁₂.rename f := by
  have hrun : ((buildState sampleRules.toConstants).toOption.bind fun st₀ =>
      (execute (bothPlay sampleRules (.build _ (1, 1)) (.build _ (1, 1)))
        st₀).toOption.bind fun ph =>
      some (PlayerId.all.map fun p => (ph.state.towerManagers p).towersToBuildOffsets.length)) =
        some [1, 1] := by
    decide +kernel
  obtain ⟨st₀, h₀, hrun⟩ := exists_of_toOption_bind hrun
  obtain ⟨ph, hph, hlengths⟩ := exists_of_toOption_bind hrun
  obtain ⟨h₁, hrest⟩ := List.cons.inj (Option.some.inj hlengths)
  obtain ⟨h₂, -⟩ := List.cons.inj hrest
  have hcommanded : Commanded sampleRules ph.state := ⟨st₀, _, ph, ⟨[], .start h₀⟩, hph, rfl⟩
  refine ⟨ph.state, ?_, hcommanded.update_fair (by decide)⟩
  intro p
  cases p with
  | player1 => exact h₁
  | player2 => exact h₂

end Simulator
