import Simulator.Main.Initial
import Simulator.Syncer.Readiness

/-!
# Reachable states

What a state between two turns satisfies, and what the commands of a turn leave, in
every run of a game: `Reachable.rested` and `Commanded.ready`.  Every turn can be
played to its end whatever the players leave (`Reachable.turn_returns`), and no
target pointer is left dangling by it (`Reachable.targets_live`).

## The induction

The two invariants are about a state, and a turn takes each to the other: the commands of any
players make a rested state ready, and the update makes a ready state rested.  With `BuildState`
as the base case this is an induction along the turns of a game.  It says more than that
invariants are kept, since the calls which make up a turn may throw, and the induction shows that
none of them does.  So there is no game that gets stuck, and statements about all games are not
true for want of games.

## Games on given inputs

`play` runs a game on a list of inputs, by computation, and `game_of_play` says that what it
computes is a game.  That is how statements about all games are looked at in one: a game is played
by the kernel, and what is said of all games is then said of it.
-/

namespace Simulator

open Foundation

variable {K : Type} [Field K] [LinearOrder K] [FloorRing K] [SquareRoot K]

/-! ## Playing a game -/

omit [LinearOrder K] [FloorRing K] [SquareRoot K] [Field K] in
/-- The input of a turn that neither player skips. -/
def bothPlay (r : Ruleset K) (playerState₁ playerState₂ : PlayerState r.toConstants) :
    Input r.toConstants where
  playerStates
    | .player1 => playerState₁
    | .player2 => playerState₂
  skipPlayerCommandsFlags := fun _ => false

/-- One turn on an input. -/
def playTurn (r : Ruleset K) (st : State K) (input : Input r.toConstants) :
    Except Fault (State K) := do
  let ph ← execute input st
  State.update r.toConstants ph.state

/-- A game on a list of inputs. -/
def play (r : Ruleset K) (inputs : List (Input r.toConstants)) : Except Fault (State K) := do
  let st ← buildState r.toConstants
  inputs.foldlM (playTurn r) st

theorem play_concat {r : Ruleset K} {inputs : List (Input r.toConstants)}
    {input : Input r.toConstants} {st st' : State K} (h : play r inputs = .ok st)
    (hturn : playTurn r st input = .ok st') : play r (inputs ++ [input]) = .ok st' := by
  obtain ⟨st₀, h₀, hturns⟩ := bind_eq_ok.mp h
  refine bind_eq_ok.mpr ⟨st₀, h₀, ?_⟩
  rw [List.foldlM_append, hturns, ok_bind, List.foldlM_cons, hturn]
  rfl

/-- What is played is a game, with as many turns as there are inputs. -/
theorem game_of_play {r : Ruleset K} {inputs : List (Input r.toConstants)} {st : State K}
    (h : play r inputs = .ok st) : ∃ past, past.length = inputs.length ∧ Game r past st := by
  obtain ⟨st₀, h₀, hrun⟩ := bind_eq_ok.mp h
  obtain ⟨past, hlength, hgame⟩ := foldlM_queue_invariant
    (I := fun rest st => ∃ past, past.length + rest.length = inputs.length ∧ Game r past st)
    (fun input rest st st' ⟨past, hlength, hgame⟩ hturn => by
      obtain ⟨ph, hph, hupdate⟩ := bind_eq_ok.mp hturn
      refine ⟨past ++ [⟨st, ph.state, st'⟩], ?_, hgame.turn ⟨input, ph, hph, rfl, hupdate⟩⟩
      simp only [List.length_append, List.length_cons, List.length_nil] at hlength ⊢
      omega)
    ⟨[], by simp, .start h₀⟩ hrun
  exact ⟨past, by simpa using hlength, hgame⟩

theorem reachable_of_play {r : Ruleset K} {inputs : List (Input r.toConstants)} {st : State K}
    (h : play r inputs = .ok st) : Reachable r st := by
  obtain ⟨past, -, hgame⟩ := game_of_play h
  exact ⟨past, hgame⟩

/-! ## Every run -/

section Runs

variable [IsStrictOrderedRing K] {r : Ruleset K}

/-- **A turn of a rested state** can be played, and leaves a rested state. -/
theorem State.Rested.turn {st : State K} (h : st.Rested r) (input : Input r.toConstants) :
    ∃ ph st', execute input st = .ok ph ∧ ph.state.Ready r ∧
      State.update r.toConstants ph.state = .ok st' ∧ st'.Rested r := by
  obtain ⟨ph, hrun, hready, -⟩ := StateSyncer.executeInOrder_ready h input.playerStates
    input.skipPlayerCommandsFlags .player1
  obtain ⟨_, _, -, -, -, -, -, hupdate⟩ := hready.updateInOrder .player1
  exact ⟨ph, _, hrun, hready, hupdate.1, hupdate.2.2⟩

omit [SquareRoot K] in
theorem State.Rested.state_of_execute {st : State K} (h : st.Rested r)
    {input : Input r.toConstants} {ph : CommandPhase K} (hrun : execute input st = .ok ph) :
    ph.state = st.carryOutAll (StateSyncer.allVerdicts st input.playerStates
      input.skipPlayerCommandsFlags .player1) := by
  obtain ⟨ph', hrun', -, hstate⟩ := StateSyncer.executeInOrder_ready h input.playerStates
    input.skipPlayerCommandsFlags .player1
  obtain rfl := Except.ok.inj (hrun'.symm.trans hrun)
  exact hstate

theorem Turn.IsPlayed.ready {t : Turn K} (ht : t.IsPlayed r) (h : t.before.Rested r) :
    t.commanded.Ready r ∧ t.after.Rested r := by
  obtain ⟨input, ph, hrun, hstate, hupdate⟩ := ht
  obtain ⟨ph', st', hrun', hready, hupdate', hrested⟩ := h.turn input
  obtain rfl := Except.ok.inj (hrun.symm.trans hrun')
  rw [hstate] at hready hupdate'
  obtain rfl := Except.ok.inj (hupdate.symm.trans hupdate')
  exact ⟨hready, hrested⟩

theorem Turn.IsPlayed.carriedOut {t : Turn K} (ht : t.IsPlayed r) (h : t.before.Rested r) :
    ∃ input : Input r.toConstants,
      t.commanded = t.before.carryOutAll (StateSyncer.allVerdicts t.before input.playerStates
        input.skipPlayerCommandsFlags .player1) ∧
      State.update r.toConstants t.commanded = .ok t.after := by
  obtain ⟨input, ph, hrun, hstate, hupdate⟩ := ht
  exact ⟨input, hstate ▸ h.state_of_execute hrun, hupdate⟩

/-- **Every state between two turns is rested.** -/
theorem Game.rested {past : List (Turn K)} {st : State K} (h : Game r past st) : st.Rested r := by
  induction h with
  | start h =>
    obtain ⟨st, hst, hrested, -⟩ := exists_buildState r
    exact Except.ok.inj (hst.symm.trans h) ▸ hrested
  | turn _ ht ih => exact (ht.ready ih).2

theorem Game.isPlayed {past : List (Turn K)} {st : State K} (h : Game r past st) {t : Turn K}
    (ht : t ∈ past) : t.IsPlayed r ∧ t.before.Rested r := by
  induction h with
  | start => cases ht
  | turn hgame hplayed ih =>
    rcases List.mem_append.mp ht with ht | ht
    · exact ih ht
    · obtain rfl := List.mem_singleton.mp ht
      exact ⟨hplayed, hgame.rested⟩

theorem Reachable.rested {st : State K} (h : Reachable r st) : st.Rested r := by
  obtain ⟨past, hgame⟩ := h
  exact hgame.rested

/-- **Every state between the commands and the update is ready.** -/
theorem Commanded.ready {st : State K} (h : Commanded r st) : st.Ready r := by
  obtain ⟨before, input, ph, hbefore, hrun, rfl⟩ := h
  obtain ⟨ph', st', hrun', hready, -, -⟩ := hbefore.rested.turn input
  obtain rfl := Except.ok.inj (hrun'.symm.trans hrun)
  exact hready

/-- **A turn returns**, from every reachable state and for everything the players may
leave: neither the execution of the commands nor the update throws. -/
theorem Reachable.turn_returns {st : State K} (h : Reachable r st) (input : Input r.toConstants) :
    ∃ ph st', execute input st = .ok ph ∧ State.update r.toConstants ph.state = .ok st' := by
  obtain ⟨ph, st', hrun, -, hupdate, -⟩ := h.rested.turn input
  exact ⟨ph, st', hrun, hupdate⟩

omit [Field K] [LinearOrder K] [FloorRing K] [SquareRoot K] [IsStrictOrderedRing K] in
/-- The first turn of the small game, in which player 1 builds and player 2
attacks. -/
theorem turn_returns_sample : ∃ st, buildState sampleRules.toConstants = .ok st ∧ ∃ ph st',
    execute (bothPlay sampleRules (.build _ (1, 1)) (.attackSoldier _ 1 0)) st = .ok ph ∧
      State.update sampleRules.toConstants ph.state = .ok st' := by
  obtain ⟨st, hst, -⟩ := exists_buildState sampleRules
  exact ⟨st, hst, Reachable.turn_returns ⟨[], .start hst⟩ _⟩

/-- **No target is dangling** after an update: it is a soldier of the opponent, or a
tower the opponent has listed. -/
theorem Reachable.targets_live {st : State K} (h : Reachable r st) {p : PlayerId} {i : ℕ}
    {s : Soldier K} {target : ActorPtr} (hs : (st.soldiers p)[i]? = some s)
    (htarget : s.attackTarget = some target) :
    (∃ j u, (st.soldiers p.opponent)[j]? = some u ∧ target = .soldier p.opponent j) ∨
      ∃ t ∈ st.towers p.opponent, target = .tower p.opponent t.id := by
  have hdes := h.rested.sound.target p i s target hs htarget
  cases target with
  | soldier q j =>
    obtain ⟨rfl, hj⟩ := hdes
    exact .inl ⟨j, _, List.getElem?_eq_getElem hj, rfl⟩
  | tower q id =>
    obtain ⟨rfl, -⟩ := hdes
    obtain ⟨t, ht, rfl⟩ := h.rested.targeting.tower p i s _ id hs htarget
    exact .inr ⟨t, ht, rfl⟩

omit [Field K] [LinearOrder K] [FloorRing K] [SquareRoot K] [IsStrictOrderedRing K] in
/-- In the small game player 2 builds a tower and upgrades it, and player 1 attacks
it: the soldier of player 1 keeps it as its target, and it is listed. -/
theorem targets_live_sample : ∃ st,
    play sampleRules [bothPlay _ (.quiet _) (.build _ (1, 1)),
      bothPlay _ (.quiet _) (.alterTower _ 1 4 true false),
      bothPlay _ (.attackTower _ 0 4) (.quiet _)] = .ok st ∧
    ∃ s ∈ st.soldiers .player1, s.attackTarget = some (.tower .player2 4) ∧
      ∃ t ∈ st.towers .player2, t.id = 4 := by
  set inputs := [bothPlay sampleRules (.quiet _) (.build _ (1, 1)),
    bothPlay sampleRules (.quiet _) (.alterTower _ 1 4 true false),
    bothPlay sampleRules (.attackTower _ 0 4) (.quiet _)] with hinputs
  have hrun : ((play sampleRules inputs).toOption.bind fun st =>
      (st.soldiers .player1)[0]?.bind Soldier.attackTarget) = some (.tower .player2 4) := by
    decide +kernel
  obtain ⟨st, hplay, hsome⟩ := exists_of_toOption_bind hrun
  obtain ⟨s, hs, htarget⟩ := Option.bind_eq_some_iff.mp hsome
  refine ⟨st, hplay, s, List.mem_of_getElem? hs, htarget, ?_⟩
  rcases Reachable.targets_live (reachable_of_play hplay) hs htarget with ⟨j, u, -, h⟩ | ⟨t, ht, h⟩
  · cases h
  · exact ⟨t, ht, (ActorPtr.tower.inj h).2.symm⟩

end Runs

end Simulator
