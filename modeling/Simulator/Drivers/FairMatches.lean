import Simulator.Drivers.Serial

/-!
# Matches come to an end

In every interleaving that is fair to the main driver and to each player, a match comes to
an end, if `play` does.  The main driver can go on because no call of the state syncer fails
in what is left of `play`, and a player can, because no call of its code does.  A player is
its driver with its code: the code has three steps to take, so that the rank of the drivers
counts threefold.

## Two halves

That a match which ends, ends as `play` says, is a matter of safety, and holds of every
interleaving of the match, fair or not.  That it ends is the other half.  It needs fairness, and
it needs that the player drivers are to play at least as many turns as the main driver, since one
that has finished its turns does not answer any more, and without a timer the main driver waits
for it for ever.

Interleavings of a match have no timer that fires and no cancellation, as `play` knows of neither.
An interleaving in which the timer fires may end in many ways, depending on when it does.

## The rank

In every state short of the end there is somebody who has to go on: the player whose flag is set
and for whom the main driver waits, or the main driver itself (`helpful`).  Its steps bring the
rank down, and so do all others or they leave it alone.  What one who has to go on needs in order
to do so is read off the program `play`: if what is left of it comes to a result, then the next
call in it does.
-/

namespace Simulator

open Foundation Function

variable {ι PS G Mem : Type} [DecidableEq ι]

namespace Drivers

variable {cfg : Config ι PS G} {code : ι → Update Mem PS} {memories : ι → Mem}
  {playerStates : ι → PS} {x x' : Played ι PS G Mem}

/-- The steps of the main driver, and of a player. -/
def Move.IsOf (cfg : Config ι PS G) : Option ι → Move ι → Prop
  | none, move => move = .main
  | some p, move =>
    p ∈ cfg.players ∧ (move = .player p ∨ move = .reads p ∨ move = .writes p ∨ move = .returns p)

/-- How far a code is from its return. -/
def Thought.steps : Thought Mem PS → ℕ
  | .resting => 2
  | .decided _ _ _ => 1
  | .answered _ _ => 0

theorem Thought.steps_le (thought : Thought Mem PS) : thought.steps ≤ 2 := by
  cases thought <;> simp [steps]

/-- The steps of the code that is waited for. -/
def Played.codeSteps (x : Played ι PS G Mem) : ℕ :=
  match helpful x.system with
  | some p => (x.minds p).thought.steps
  | none => 0

omit [DecidableEq ι] in
theorem codeSteps_le (x : Played ι PS G Mem) : x.codeSteps ≤ 2 := by
  unfold Played.codeSteps
  split
  · exact Thought.steps_le _
  · exact Nat.zero_le _

/-- How much is left of a match. -/
def Played.rank (cfg : Config ι PS G) (x : Played ι PS G Mem) : ℕ :=
  3 * Drivers.rank cfg x.system + x.codeSteps

omit [DecidableEq ι] in
theorem helpful_eq_some (h : InOrder x) (hsync : InSync cfg x.system) {p : ι}
    (hpc : (x.system.drivers p).pc = .code) : helpful x.system = some p := by
  have hrunning := (hsync.player p).running_of_isBusy (by rw [hpc]; trivial)
  obtain ⟨rest, hwaits⟩ := h.onlyRunning p hrunning
  rcases hwaits with hwaits | hwaits | hwaits <;> simp [helpful, hwaits, hrunning]

omit [DecidableEq ι] in
theorem rank_lt (h : Drivers.rank cfg x'.system < Drivers.rank cfg x.system) :
    x'.rank cfg < x.rank cfg := by
  have hle := codeSteps_le x'
  unfold Played.rank
  omega

theorem rank_of_drivers {count : ℕ → ι → ℤ} {e : Event ι PS} (hsync : InSync cfg x.system)
    (he : e.IsCounted count x.system) (hstep : x.system.step cfg e = some x'.system)
    (hminds : x'.minds = x.minds) :
    x'.rank cfg < x.rank cfg ∨ x'.rank cfg = x.rank cfg ∧
      helpful x'.system = helpful x.system ∧ ¬ e.IsOf cfg (helpful x.system) := by
  rcases Drivers.rank_step hsync he hstep with hless | ⟨hrank, hsame, hother⟩
  · exact .inl (rank_lt hless)
  · refine .inr ⟨?_, hsame, hother⟩
    simp only [Played.rank, hrank, Played.codeSteps, hsame, hminds]

/-- **Every move** brings the end closer, or leaves it to the same one to go on. -/
theorem rank_move {count : ℕ → ι → ℤ} {calls : List (Call ι)} {move : Move ι} (h : InOrder x)
    (hcounted : (counted cfg count).Reachable (x.system, calls))
    (hstep : Moves cfg code x move x') :
    x'.rank cfg < x.rank cfg ∨ x'.rank cfg = x.rank cfg ∧
      helpful x'.system = helpful x.system ∧ ¬ move.IsOf cfg (helpful x.system) := by
  have hsync := ((inductive_onTime cfg count).reachable hcounted).sync
  -- a step of the drivers is one of the same program
  have hdrivers : ∀ {e : Event ι PS}, e.IsCounted count x.system →
      x.system.step cfg e = some x'.system → x'.minds = x.minds →
      (∀ k, move.IsOf cfg k → e.IsOf cfg k) →
      x'.rank cfg < x.rank cfg ∨ x'.rank cfg = x.rank cfg ∧
        helpful x'.system = helpful x.system ∧ ¬ move.IsOf cfg (helpful x.system) := by
    intro e he hstep hminds hof
    refine (rank_of_drivers hsync he hstep hminds).imp_right ?_
    rintro ⟨hrank, hsame, hother⟩
    exact ⟨hrank, hsame, fun hmove => hother (hof _ hmove)⟩
  cases hstep with
  | main hrun =>
    refine hdrivers (e := .main) trivial (by simp [System.step, hrun]) rfl ?_
    intro k hk
    cases k with
    | none => rfl
    | some q => simp [Move.IsOf] at hk
  | @player p d' b' hrun =>
    refine hdrivers (e := .player p) trivial (by simp [System.step, System.playerStep, hrun]) rfl ?_
    intro k hk
    cases k with
    | none => simp [Move.IsOf] at hk
    | some q =>
      simp only [Move.IsOf, Move.player.injEq, reduceCtorEq, or_false] at hk
      exact ⟨hk.1, .inl (by rw [hk.2])⟩
  | @reads p memory playerState n hpc hresting hcode =>
    left
    have hhelpful := helpful_eq_some h hsync hpc
    simp only [Played.rank, Played.codeSteps, hhelpful, update_self, hresting, Thought.steps]
    omega
  | @writes p memory playerState n hpc hdecided =>
    left
    have hhelpful := helpful_eq_some h hsync hpc
    have hflags : ∀ q, (update x.system.buffers p { x.system.buffers p with playerState }
        q).isPlayerRunning = (x.system.buffers q).isPlayerRunning := fun q => by
      by_cases hq : q = p
      · subst hq
        simp
      · simp [hq]
    obtain ⟨hrank, hsame⟩ := rank_congr cfg hflags
    simp only [Played.rank, hrank, Played.codeSteps, hsame, hhelpful, update_self, hdecided,
      Thought.steps]
    omega
  | @returns p memory n hpc hanswered =>
    left
    have hhelpful := helpful_eq_some h hsync hpc
    have hcounts : (Event.codeReturns p n : Event ι PS).IsCounted (fun _ _ => n) x.system := rfl
    have hreturns : x.system.step cfg (.codeReturns p n) = some { x.system with
        drivers := update x.system.drivers p { x.system.drivers p with
          pc := .writeCountToShm n
          calls := (x.system.drivers p).calls + 1 } } := by
      simp [System.step, System.playerStep, PlayerDriver.codeReturns, hpc]
    rcases Drivers.rank_step hsync hcounts hreturns with hless | ⟨-, -, hother⟩
    · exact rank_lt hless
    · rw [hhelpful] at hother
      exact absurd ⟨(turn_lt_of_helpful hcounted hhelpful).1, .inr ⟨n, rfl⟩⟩ hother

/-! ## Somebody can go on -/

/-- The main driver can go on, if the rest of the match comes to something. -/
theorem exists_main_step (hfuture : (x.future cfg code).isSome)
    (hreturned : ∀ ending, x.system.main.pc ≠ .returned ending) :
    ∃ y, MainDriver.step cfg x.system.main x.system.buffers = some y := by
  cases hpc : x.system.main.pc with
  | initRunning rest | playerHead rest =>
    cases rest with
    | nil | cons =>
      simp only [MainDriver.step, hpc]
      exact ⟨_, rfl⟩
  | initPlayerStates | updatePlayerStates =>
    cases hcall : cfg.callees.updatePlayerStates x.system.main.game
        (MainDriver.playerStates x.system.buffers) with
    | ok y =>
      simp only [MainDriver.step, hpc, hcall]
      exact ⟨_, rfl⟩
    | error fault =>
      have hnone : x.board.updatePlayerStates cfg = none := by
        rw [Board.updatePlayerStates,
          show cfg.callees.updatePlayerStates x.board.game x.board.playerStates = _ from hcall]
        rfl
      simp [Played.future, hpc, hnone] at hfuture
  | executePlayerCommands =>
    cases hcall : cfg.callees.executePlayerCommands (MainDriver.playerStates x.system.buffers)
        x.system.main.skipPlayerTurn x.system.main.game with
    | ok game =>
      simp only [MainDriver.step, hpc, hcall]
      exact ⟨_, rfl⟩
    | error fault =>
      have hnone : x.board.executePlayerCommands cfg = none := by
        rw [Board.executePlayerCommands, show cfg.callees.executePlayerCommands
          x.board.playerStates x.board.skipPlayerTurn x.board.game = _ from hcall]
        rfl
      simp [Played.future, hpc, hnone] at hfuture
  | updateMainState =>
    cases hcall : cfg.callees.updateMainState x.system.main.game with
    | ok game =>
      simp only [MainDriver.step, hpc, hcall]
      exact ⟨_, rfl⟩
    | error fault =>
      have hnone : x.board.updateMainState cfg = none := by
        rw [Board.updateMainState, show cfg.callees.updateMainState x.board.game = _ from hcall]
        rfl
      simp [Played.future, hpc, hnone] at hfuture
  | checkLimitGame =>
    simp only [MainDriver.step, hpc]
    split <;> exact ⟨_, rfl⟩
  | returned ending => exact absurd hpc (hreturned ending)
  | initCounter | startTimer | turnHead | waitRunning | waitTimedOut | waitCancel | checkCancel
  | checkLimitTurn | logInstructionCount | checkEnd | getScores | logFinalGameParams | writeGame
  | cancelTimer | clearCancel =>
    simp only [MainDriver.step, hpc]
    exact ⟨_, rfl⟩

/-- A code that is being called can go on. -/
theorem exists_code_step {p : ι} (hround : (x.restOfRound cfg code p).isSome)
    (hrunning : (x.system.buffers p).isPlayerRunning = true)
    (hpc : (x.system.drivers p).pc = .code) :
    ∃ move x', (move = .reads p ∨ move = .writes p ∨ move = .returns p) ∧
      x.step cfg code move = some x' := by
  cases hthought : (x.minds p).thought with
  | resting =>
    rw [restOfRound_eq hrunning (by simp [hpc]) (by simp [hpc]), Mind.restOfRound,
      hthought] at hround
    simp only [Board.playRound, Option.isSome_map] at hround
    obtain ⟨y, hy⟩ := Option.isSome_iff_exists.mp hround
    obtain ⟨x', hx'⟩ : ∃ x', x.step cfg code (.reads p) = some x' := by
      simp only [Played.step, hpc, if_true, Mind.decide, hthought,
        show code p (x.minds p).memory (x.system.buffers p).playerState = some y from hy]
      exact ⟨_, rfl⟩
    exact ⟨.reads p, x', .inl rfl, hx'⟩
  | decided memory playerState n =>
    obtain ⟨x', hx'⟩ : ∃ x', x.step cfg code (.writes p) = some x' := by
      simp only [Played.step, hthought, System.step, System.playerStep, PlayerDriver.codeWrites,
        hpc]
      exact ⟨_, rfl⟩
    exact ⟨.writes p, x', .inr (.inl rfl), hx'⟩
  | answered memory n =>
    obtain ⟨x', hx'⟩ : ∃ x', x.step cfg code (.returns p) = some x' := by
      simp only [Played.step, hthought, System.step, System.playerStep, PlayerDriver.codeReturns,
        hpc]
      exact ⟨_, rfl⟩
    exact ⟨.returns p, x', .inr (.inr rfl), hx'⟩

/-- **Short of the end, the one who has to go on can do so.** -/
theorem exists_move (hplay : (play cfg code memories playerStates).isSome)
    (hturns : ∀ p ∈ cfg.players, cfg.maxNoTurns ≤ cfg.playerMaxNoTurns p)
    (h : (played cfg code memories playerStates).Reachable x)
    (hreturned : ∀ ending, x.system.main.pc ≠ .returned ending) :
    ∃ move x', move.IsOf cfg (helpful x.system) ∧ x.step cfg code move = some x' := by
  have hfuture : (x.future cfg code).isSome := by rwa [future_eq_play h]
  obtain ⟨count, calls, hcounted⟩ := exists_onTime h
  have hontime := (inductive_onTime cfg count).reachable hcounted
  cases hhelpful : helpful x.system with
  | none =>
    obtain ⟨y, hy⟩ := exists_main_step hfuture hreturned
    obtain ⟨x', hx'⟩ : ∃ x', x.step cfg code .main = some x' := by
      simp only [Played.step, System.step, hy]
      exact ⟨_, rfl⟩
    exact ⟨.main, x', rfl, hx'⟩
  | some p =>
    obtain ⟨hp, hlt⟩ := turn_lt_of_helpful hcounted hhelpful
    by_cases hcode : (x.system.drivers p).pc = .code
    · have hrunning := (hontime.sync.player p).running_of_isBusy (by rw [hcode]; trivial)
      obtain ⟨rest, heq⟩ := exists_future_eq cfg code (inOrder_of_reachable h).onlyRunning hrunning
      have hround : (x.restOfRound cfg code p).isSome := by
        cases hround : x.restOfRound cfg code p with
        | none => simp [heq x rfl, hround, restOfTurn] at hfuture
        | some b => rfl
      obtain ⟨move, x', hmove, hstep⟩ := exists_code_step hround hrunning hcode
      exact ⟨move, x', ⟨hp, .inr hmove⟩, hstep⟩
    · have hfinished : (x.system.drivers p).pc ≠ .finished := fun hfinished => by
        have hle := (hontime.player p).finished hfinished
        have hmax := hturns p hp
        simp only at hlt hle
        omega
      obtain ⟨y, hy⟩ := exists_step_of_pc (cfg.playerMaxNoTurns p) (x.system.buffers p) hcode
        hfinished
      obtain ⟨x', hx'⟩ : ∃ x', x.step cfg code (.player p) = some x' := by
        simp only [Played.step, System.step, System.playerStep, hy]
        exact ⟨_, rfl⟩
      exact ⟨.player p, x', ⟨hp, .inl rfl⟩, hx'⟩

/-- When `Run` has returned and the player drivers have finished, nobody can go on. -/
theorem played_step_eq_none {ending : MainDriver.Ending}
    (hreturned : x.system.main.pc = .returned ending)
    (hfinished : ∀ p, (x.system.drivers p).pc = .finished) (move : Move ι) :
    x.step cfg code move = none := by
  refine Option.eq_none_iff_forall_ne_some.mpr ?_
  intro x' hstep
  cases moves_of_step hstep with
  | main hrun => simp [MainDriver.step, hreturned] at hrun
  | player hrun => simp [PlayerDriver.step, hfinished] at hrun
  | reads hpc | writes hpc | returns hpc => simp [hfinished] at hpc

/-! ## Matches -/

/-- **A match does not depend on the interleaving.**  For every number of players, any limits,
and any code of the players: if the main driver returns, then with the ending, the game with
its log, and the results of the players that `play` says; and if `play` comes to an end, so
does the match in every interleaving that is fair to the main driver and to each player, as
long as the player drivers are to play as many turns. -/
theorem match_eq_play (cfg : Config ι PS G) (code : ι → Update Mem PS) (memories : ι → Mem)
    (playerStates : ι → PS) :
    (∀ x, (played cfg code memories playerStates).Reachable x → ∀ ending,
      x.system.main.pc = .returned ending → play cfg code memories playerStates =
        some ⟨ending, x.system.main.game, x.system.main.playerResults⟩) ∧
    ((play cfg code memories playerStates).isSome →
      (∀ p ∈ cfg.players, cfg.maxNoTurns ≤ cfg.playerMaxNoTurns p) →
      ∀ x move, (played cfg code memories playerStates).Run x move →
        (∀ k, (played cfg code memories playerStates).FairTo x move (Move.IsOf cfg k)) →
        ∃ n ending, (x n).system.main.pc = .returned ending) := by
  constructor
  · intro x hx ending hpc
    rw [← future_eq_play hx]
    simp only [Played.future, hpc]
  · intro hplay hturns x move hrun hfair
    refine hrun.eventually (P := Move.IsOf cfg)
      (Q := fun x => ∃ ending, x.system.main.pc = .returned ending)
      (fun x => helpful x.system) (fun x => x.rank cfg) ?_
      (fun x move x' hx _ hstep => .inr ?_) hfair
    · intro x hx hpc
      exact exists_move hplay hturns hx (not_exists.mp hpc)
    · obtain ⟨count, calls, hcounted⟩ := exists_onTime hx
      exact rank_move (inOrder_of_reachable hx) hcounted (moves_of_step hstep)

/-- Codes that count their turns; the second one takes more instructions than a turn allows. -/
def sampleUpdate : PlayerId → Update ℕ Unit
  | .player1, turns, _ => some (turns + 1, (), 7)
  | .player2, turns, _ => some (turns + 1, (), 12)

/-- A turn of a player. -/
def playMoves (p : PlayerId) : List (Move PlayerId) :=
  [.main, .player p, .player p, .player p, .reads p, .writes p, .returns p, .player p, .player p]

/-- A match of one turn. -/
def sampleMoves : List (Move PlayerId) :=
  List.replicate 8 .main ++ playMoves .player1 ++ List.replicate 5 .main ++ playMoves .player2 ++
    List.replicate 15 .main ++ [.player .player1, .player .player2]

omit [DecidableEq ι] in
theorem match_eq_play_sample :
    ∃ x ending, (played sampleConfig sampleUpdate (fun _ => 0) fun _ => ()).Reachable x ∧
      x.system.main.pc = .returned ending ∧
      play sampleConfig sampleUpdate (fun _ => 0) (fun _ => ()) =
        some ⟨ending, x.system.main.game, x.system.main.playerResults⟩ := by
  obtain ⟨hplays, hends⟩ := match_eq_play sampleConfig sampleUpdate (fun _ => 0) fun _ => ()
  have hmoves : (sampleMoves.foldlM (Played.step sampleConfig sampleUpdate)
      ⟨started sampleConfig (), fun _ => ⟨0, .resting⟩⟩).map (fun x => (x.system.main.pc,
        (x.system.drivers .player1).pc, (x.system.drivers .player2).pc)) =
      some (.returned .completed, .finished, .finished) := by
    decide +kernel
  obtain ⟨y, hy, hpc⟩ := Option.map_eq_some_iff.mp hmoves
  simp only [Prod.mk.injEq] at hpc
  obtain ⟨hreturned, hplayer1, hplayer2⟩ := hpc
  have hfinished : ∀ p, (y.system.drivers p).pc = .finished := by
    intro p
    cases p with
    | player1 => exact hplayer1
    | player2 => exact hplayer2
  obtain ⟨x, move, hrun, hfair, -⟩ := TransitionSystem.exists_run_of_reaches
    (T := played sampleConfig sampleUpdate (fun _ => 0) fun _ => ()) (P := Move.IsOf sampleConfig)
    ⟨isStarted_started sampleConfig (), fun _ => rfl, fun _ => rfl⟩
    (TransitionSystem.reaches_of_foldlM hy) .main
    fun _ move _ => played_step_eq_none hreturned hfinished move
  obtain ⟨n, ending, hpc⟩ := hends (by decide +kernel) (fun _ _ => le_rfl) x move hrun hfair
  exact ⟨x n, ending, hrun.reachable n, hpc, hplays _ (hrun.reachable n) ending hpc⟩

end Drivers

end Simulator
