import Simulator.Drivers.GameRules
import Simulator.Foundation.Fairness

/-!
# Games come to an end

With given instruction counts, `Run` returns in every interleaving that is fair to the main
driver and to each player driver.  While the flag of a player is set, it is the player driver
that has to go on, and the code has to return; otherwise it is the main driver.  `rank`
counts the steps that are left, at most, of those who have to go on.

`follows_rules` puts together what a game with given counts comes to.

## Counting down

The steps that are left to the main driver are counted from the turns that are left, the players
whose round is still to come and the place in the round, and in each round the steps of the player
driver to the reset of its flag come on top.  While the main driver waits, its own steps do not
count, as it goes round in its loop; nor do the steps of players that are not waited for, who go
round in theirs.  So every event brings the rank down, or leaves it and leaves it to the same one
to go on (`rank_step`).

That the one who has to go on can do so is the other half (`exists_step_of_helpful`).  The main
driver is stopped by a call that throws only, and `NeverThrows` excludes that; a player driver is
stopped by having finished, and it has a turn left because it was asked for no more turns than it
is to play.
-/

namespace Simulator

open Foundation Function

variable {ι PS G : Type}

namespace Drivers

/-! ## Who has to go on -/

/-- How far a player driver is from resetting its flag. -/
def stepsToReset : PlayerDriver.Pc → ℕ
  | .turnHead | .waitTimedOut => 6
  | .waitRunning => 5
  | .checkTimedOut _ => 4
  | .code => 3
  | .writeCountToShm _ => 2
  | .resetRunning => 1
  | .finished => 0

theorem stepsToReset_le (pc : PlayerDriver.Pc) : stepsToReset pc ≤ 6 := by
  cases pc <;> simp [stepsToReset]

/-- How far the main driver is from the end of its waiting loop for a player. -/
def stepsToWait (s : System ι PS G) (p : ι) (position : ℕ) : ℕ :=
  if (s.buffers p).isPlayerRunning then 4 + stepsToReset (s.drivers p).pc else position

/-- How much is left of the game. -/
def rank (cfg : Config ι PS G) (s : System ι PS G) : ℕ :=
  let turnLength := 20 * cfg.players.length + 10
  let later := (cfg.maxNoTurns - (s.main.turn + 1)) * turnLength
  match s.main.pc with
  | .initRunning rest => (cfg.maxNoTurns - s.main.turn) * turnLength + 13 + 2 * rest.length
  | .initCounter _ rest => (cfg.maxNoTurns - s.main.turn) * turnLength + 14 + 2 * rest.length
  | .initPlayerStates => (cfg.maxNoTurns - s.main.turn) * turnLength + 12
  | .startTimer => (cfg.maxNoTurns - s.main.turn) * turnLength + 11
  | .turnHead => (cfg.maxNoTurns - s.main.turn) * turnLength + 10
  | .playerHead rest => later + 17 + 20 * rest.length
  | .waitRunning p rest => later + 17 + 20 * rest.length + 5 + stepsToWait s p 1
  | .waitTimedOut p rest => later + 17 + 20 * rest.length + 5 + stepsToWait s p 3
  | .waitCancel p rest => later + 17 + 20 * rest.length + 5 + stepsToWait s p 2
  | .checkCancel _ rest => later + 17 + 20 * rest.length + 4
  | .checkLimitGame _ rest => later + 17 + 20 * rest.length + 3
  | .checkLimitTurn _ rest => later + 17 + 20 * rest.length + 2
  | .logInstructionCount _ rest => later + 17 + 20 * rest.length + 1
  | .checkEnd => later + 16
  | .executePlayerCommands => later + 15
  | .updateMainState => later + 14
  | .updatePlayerStates => later + 13
  | .getScores => 9
  | .logFinalGameParams _ => 8
  | .writeGame _ => 7
  | .cancelTimer _ => 6
  | .clearCancel => 5
  | .returned _ => 0

/-- Who has to go on: the player whose flag is set and who is waited for, or the main
driver. -/
def helpful (s : System ι PS G) : Option ι :=
  match s.main.pc with
  | .waitRunning p _ | .waitTimedOut p _ | .waitCancel p _ =>
    if (s.buffers p).isPlayerRunning then some p else none
  | _ => none

/-- The steps of the main driver, and of a player driver with the returns of the code. -/
def Event.IsOf (cfg : Config ι PS G) : Option ι → Event ι PS → Prop
  | none, e => e = .main
  | some p, e => p ∈ cfg.players ∧ (e = .player p ∨ ∃ n, e = .codeReturns p n)

variable [DecidableEq ι] {cfg : Config ι PS G} {count : ℕ → ι → ℤ} {s : System ι PS G} {p : ι}

/-- **A step of the main driver** brings the end closer, unless it waits for a player. -/
theorem rank_main {m' : MainDriver ι G} {buffers' : ι → SharedBuffer PS}
    (hstep : MainDriver.step cfg s.main s.buffers = some (m', buffers')) :
    let s' : System ι PS G := { s with main := m', buffers := buffers' }
    rank cfg s' < rank cfg s ∨
      rank cfg s' = rank cfg s ∧ helpful s' = helpful s ∧ helpful s ≠ none := by
  have hlater : s.main.turn < cfg.maxNoTurns →
      (cfg.maxNoTurns - s.main.turn) * (20 * cfg.players.length + 10) =
        (cfg.maxNoTurns - (s.main.turn + 1)) * (20 * cfg.players.length + 10) +
          (20 * cfg.players.length + 10) := fun hturn => by
    rw [← Nat.succ_mul, Nat.succ_eq_add_one,
      show cfg.maxNoTurns - s.main.turn = cfg.maxNoTurns - (s.main.turn + 1) + 1 by omega]
  cases MainDriver.steps_of_step hstep with
  | initEnd hpc | initRunning hpc | initCounter hpc | initPlayerStates hpc | startTimer hpc
  | turnsEnd hpc | playersEnd hpc | aborted hpc | notAborted hpc | executePlayerCommands hpc
  | updateMainState hpc | updatePlayerStates hpc | getScores hpc | logFinalGameParams hpc
  | writeGame hpc | stopsToClear hpc | stops hpc | clearCancel hpc | cancelled hpc
  | notCancelled hpc | exceedsGame hpc | withinGame hpc | checkLimitTurn hpc
  | logInstructionCount hpc =>
    simp only [rank, hpc, MainDriver.read, List.length_cons, List.length_nil]
    omega
  | turnBegins hpc hturn =>
    have hlater := hlater hturn
    simp only [rank, hpc]
    omega
  | @setRunning p rest hpc =>
    have hreset := stepsToReset_le (s.drivers p).pc
    refine .inl ?_
    simp only [rank, hpc, stepsToWait, update_self, List.length_cons, if_true]
    omega
  | running hpc hrunning =>
    exact .inr ⟨by simp [rank, hpc, stepsToWait, hrunning], by simp [helpful, hpc, hrunning],
      by simp [helpful, hpc, hrunning]⟩
  | notRunning hpc hrunning =>
    refine .inl ?_
    simp only [rank, hpc, stepsToWait, hrunning, Bool.false_eq_true, if_false]
    omega
  | timedOut hpc | cancelSeen hpc =>
    refine .inl ?_
    simp only [rank, hpc, stepsToWait]
    split <;> omega
  | @notTimedOut p rest hpc | @waitOn p rest hpc =>
    cases hrunning : (s.buffers p).isPlayerRunning with
    | false =>
      refine .inl ?_
      simp only [rank, hpc, stepsToWait, hrunning, Bool.false_eq_true, if_false]
      omega
    | true =>
      exact .inr ⟨by simp [rank, hpc, stepsToWait, hrunning], by simp [helpful, hpc, hrunning],
        by simp [helpful, hpc, hrunning]⟩

/-- **A step of a player driver**, or a return of its code: while its flag is set, it comes
closer to resetting it. -/
theorem rank_player {d' : PlayerDriver} {b' : SharedBuffer PS}
    (hcloser : b'.isPlayerRunning = true → (s.buffers p).isPlayerRunning = true ∧
      stepsToReset d'.pc < stepsToReset (s.drivers p).pc) :
    let s' : System ι PS G :=
      { s with drivers := update s.drivers p d', buffers := update s.buffers p b' }
    rank cfg s' < rank cfg s ∨
      rank cfg s' = rank cfg s ∧ helpful s' = helpful s ∧ helpful s ≠ some p := by
  cases hpc : s.main.pc with
  | waitRunning q rest | waitTimedOut q rest | waitCancel q rest =>
    by_cases hq : q = p
    · subst hq
      cases hrunning : (s.buffers q).isPlayerRunning with
      | false =>
        have hidle : b'.isPlayerRunning = false := Bool.eq_false_of_not_eq_true fun hset => by
          simp [hrunning] at hcloser
          simp [hcloser] at hset
        exact .inr ⟨by simp [rank, hpc, stepsToWait, hrunning, hidle],
          by simp [helpful, hpc, hrunning, hidle], by simp [helpful, hpc, hrunning]⟩
      | true =>
        refine .inl ?_
        simp only [rank, hpc, stepsToWait, update_self, hrunning, if_true]
        split
        · have := (hcloser ‹_›).2
          omega
        · omega
    · refine .inr ⟨by simp [rank, hpc, stepsToWait, hq], by simp [helpful, hpc, hq], ?_⟩
      simp only [helpful, hpc]
      split <;> simp [hq]
  | initRunning | initCounter | initPlayerStates | startTimer | turnHead | playerHead
  | checkCancel | checkLimitGame | checkLimitTurn | logInstructionCount | checkEnd
  | executePlayerCommands | updateMainState | updatePlayerStates | getScores
  | logFinalGameParams | writeGame | cancelTimer | clearCancel | returned =>
    exact .inr ⟨by simp only [rank, hpc], by simp only [helpful, hpc], by simp [helpful, hpc]⟩

theorem stepsToReset_lt {maxNoTurns : ℕ} {d d' : PlayerDriver} {b b' : SharedBuffer PS}
    (hstep : PlayerDriver.step maxNoTurns d b = some (d', b')) (hset : b'.isPlayerRunning = true) :
    b.isPlayerRunning = true ∧ stepsToReset d'.pc < stepsToReset d.pc := by
  cases hpc : d.pc with
  | code | finished => simp [PlayerDriver.step, hpc] at hstep
  | turnHead | waitTimedOut | checkTimedOut =>
    simp only [PlayerDriver.step, hpc, Option.some.injEq, Prod.mk.injEq] at hstep
    obtain ⟨rfl, rfl⟩ := hstep
    refine ⟨hset, ?_⟩
    split <;> simp [stepsToReset]
  | waitRunning =>
    simp only [PlayerDriver.step, hpc, Option.some.injEq, Prod.mk.injEq] at hstep
    obtain ⟨rfl, rfl⟩ := hstep
    exact ⟨hset, by simp [hset, stepsToReset]⟩
  | writeCountToShm n =>
    simp only [PlayerDriver.step, hpc, Option.some.injEq, Prod.mk.injEq] at hstep
    obtain ⟨rfl, rfl⟩ := hstep
    exact ⟨hset, by simp [stepsToReset]⟩
  | resetRunning =>
    simp only [PlayerDriver.step, hpc, Option.some.injEq, Prod.mk.injEq] at hstep
    simp [← hstep.2] at hset

/-! ## Every step counts -/

omit [DecidableEq ι] in
theorem rank_congr (cfg : Config ι PS G) {buffers' : ι → SharedBuffer PS}
    (hsame : ∀ q, (buffers' q).isPlayerRunning = (s.buffers q).isPlayerRunning) :
    rank cfg { s with buffers := buffers' } = rank cfg s ∧
      helpful { s with buffers := buffers' } = helpful s := by
  cases hpc : s.main.pc <;> simp only [rank, helpful, stepsToWait, hpc, hsame, and_self]

omit [DecidableEq ι] in
theorem Event.IsOf.eq_some {e : Event ι PS} {k : Option ι} (h : e.IsOf cfg k)
    (he : e = .player p ∨ ∃ n, e = .codeReturns p n) : k = some p := by
  cases k with
  | none => rcases he with rfl | ⟨n, rfl⟩ <;> simp [Event.IsOf] at h
  | some q =>
    obtain ⟨-, h⟩ := h
    rcases he with rfl | ⟨n, rfl⟩ <;> simp at h <;> rw [h]

/-- **Every event** brings the end closer, or leaves it to the same one to go on. -/
theorem rank_step {e : Event ι PS} {s' : System ι PS G} (hsync : InSync cfg s)
    (hcounted : e.IsCounted count s) (hstep : s.step cfg e = some s') :
    rank cfg s' < rank cfg s ∨
      rank cfg s' = rank cfg s ∧ helpful s' = helpful s ∧ ¬ e.IsOf cfg (helpful s) := by
  cases e with
  | main =>
    obtain ⟨⟨m', buffers'⟩, hrun, rfl⟩ := Option.map_eq_some_iff.mp hstep
    refine (rank_main hrun).imp_right fun ⟨hrank, hsame, hwaits⟩ => ⟨hrank, hsame, ?_⟩
    obtain ⟨p, hp⟩ := Option.ne_none_iff_exists'.mp hwaits
    simp [hp, Event.IsOf]
  | player p =>
    obtain ⟨⟨d', b'⟩, hrun, rfl⟩ := Option.map_eq_some_iff.mp hstep
    exact (rank_player (stepsToReset_lt hrun)).imp_right fun ⟨hrank, hsame, hother⟩ =>
      ⟨hrank, hsame, fun hof => hother (hof.eq_some (.inl rfl))⟩
  | codeWrites p playerState =>
    obtain ⟨⟨d', b'⟩, hrun, rfl⟩ := Option.map_eq_some_iff.mp hstep
    obtain ⟨hpc, rfl, rfl⟩ := PlayerInSync.pc_eq_of_codeWrites hrun
    have hflags : ∀ q, (update s.buffers p { s.buffers p with playerState } q).isPlayerRunning =
        (s.buffers q).isPlayerRunning := fun q => by
      by_cases hq : q = p
      · subst hq
        simp
      · simp [hq]
    obtain ⟨hrank, hsame⟩ := rank_congr cfg hflags
    rw [update_eq_self]
    refine .inr ⟨hrank, hsame, ?_⟩
    intro hof
    cases hk : helpful s with
    | none => simp [hk, Event.IsOf] at hof
    | some q => simp [hk, Event.IsOf] at hof
  | codeReturns p instructionCount =>
    obtain ⟨⟨d', b'⟩, hrun, rfl⟩ := Option.map_eq_some_iff.mp hstep
    obtain ⟨hpc, rfl, rfl⟩ := PlayerInSync.pc_eq_of_codeReturns hrun
    have hcloser := (hsync.player p).running_of_isBusy (by rw [hpc]; trivial)
    exact (rank_player fun _ => ⟨hcloser, by simp [hpc, stepsToReset]⟩).imp_right
      fun ⟨hrank, hsame, hother⟩ =>
        ⟨hrank, hsame, fun hof => hother (hof.eq_some (.inr ⟨_, rfl⟩))⟩
  | mainTimer | playerTimer | cancel | cancelReturns => exact hcounted.elim

/-! ## Somebody can go on -/

/-- `Run` goes by the rules in every interleaving. -/
theorem ruled_of_reachable {x : System ι PS G × List (Call ι)}
    (h : (counted cfg count).Reachable x) : Ruled cfg count x.1.main x.2 := by
  refine (inductive_onTime cfg count).under (I := fun x => Ruled cfg count x.1.main x.2) ?_ ?_ h
  · rintro ⟨s, calls⟩ ⟨hstarted, rfl⟩
    rw [hstarted.main_eq]
    exact ⟨rfl, ⟨nofun, by funext p; simp [MainDriver.start, Config.verdict], by
      simp [MainDriver.start], nofun, fun _ _ => rfl⟩, rfl⟩
  · rintro ⟨s, calls⟩ e x' hontime hruled hstep
    simp only [counted] at hstep
    split at hstep
    · rename_i hcounted
      obtain ⟨s', hs', rfl⟩ := Option.map_eq_some_iff.mp hstep
      cases e with
      | main =>
        obtain ⟨⟨m', buffers'⟩, hrun, rfl⟩ := Option.map_eq_some_iff.mp hs'
        exact hruled.step hontime.notTimedOut hontime.notCancelled
          (fun _ _ hpc => hontime.counter_eq hpc) hrun
      | player | codeWrites | codeReturns =>
        obtain ⟨⟨d', b'⟩, -, rfl⟩ := Option.map_eq_some_iff.mp hs'
        simpa using hruled
      | mainTimer | playerTimer | cancel | cancelReturns => exact hcounted.elim
    · simp at hstep

/-- A step of the drivers with the right count is a step with the calls. -/
theorem exists_step_counted {x : System ι PS G × List (Call ι)} (e : Event ι PS)
    {s' : System ι PS G} (hcounted : e.IsCounted count x.1) (hstep : x.1.step cfg e = some s') :
    ∃ x', (counted cfg count).step x e = some x' := by
  simp only [counted, if_pos hcounted, hstep, Option.map_some]
  exact ⟨_, rfl⟩

/-- No call throws in a game with the given counts. -/
def NeverThrows (cfg : Config ι PS G) (count : ℕ → ι → ℤ) : Prop :=
  ∀ x : System ι PS G × List (Call ι), (counted cfg count).Reachable x →
    (∀ ending, x.1.main.pc ≠ .returned ending) →
      ∃ m' buffers', MainDriver.step cfg x.1.main x.1.buffers = some (m', buffers')

theorem neverThrows_of_returns (h : cfg.callees.Returns) (count : ℕ → ι → ℤ) :
    NeverThrows cfg count := by
  intro x _ hreturned
  cases hpc : x.1.main.pc with
  | initRunning rest | playerHead rest =>
    cases rest with
    | nil | cons =>
      simp only [MainDriver.step, hpc]
      exact ⟨_, _, rfl⟩
  | initPlayerStates | updatePlayerStates =>
    obtain ⟨game, states, hcall⟩ := h.updatePlayerStates x.1.main.game
      (MainDriver.playerStates x.1.buffers)
    simp only [MainDriver.step, hpc, hcall]
    exact ⟨_, _, rfl⟩
  | executePlayerCommands =>
    obtain ⟨game, hcall⟩ := h.executePlayerCommands (MainDriver.playerStates x.1.buffers)
      x.1.main.skipPlayerTurn x.1.main.game
    simp only [MainDriver.step, hpc, hcall]
    exact ⟨_, _, rfl⟩
  | updateMainState =>
    obtain ⟨game, hcall⟩ := h.updateMainState x.1.main.game
    simp only [MainDriver.step, hpc, hcall]
    exact ⟨_, _, rfl⟩
  | checkLimitGame =>
    simp only [MainDriver.step, hpc]
    split <;> exact ⟨_, _, rfl⟩
  | returned ending => exact absurd hpc (hreturned ending)
  | initCounter | startTimer | turnHead | waitRunning | waitTimedOut | waitCancel | checkCancel
  | checkLimitTurn | logInstructionCount | checkEnd | getScores | logFinalGameParams | writeGame
  | cancelTimer | clearCancel =>
    simp only [MainDriver.step, hpc]
    exact ⟨_, _, rfl⟩

/-- When `Run` has returned and the player drivers have finished, nobody can go on. -/
theorem step_eq_none {x : System ι PS G × List (Call ι)} {ending : MainDriver.Ending}
    (hpc : x.1.main.pc = .returned ending) (hfinished : ∀ p, (x.1.drivers p).pc = .finished)
    (k : Option ι) (e : Event ι PS) (h : e.IsOf cfg k) : (counted cfg count).step x e = none := by
  have hstep : x.1.step cfg e = none := by
    cases k with
    | none =>
      obtain rfl : e = .main := h
      simp [System.step, MainDriver.step, hpc]
    | some p =>
      obtain ⟨-, rfl | ⟨n, rfl⟩⟩ := h
      · simp [System.step, System.playerStep, PlayerDriver.step, hfinished p]
      · simp [System.step, System.playerStep, PlayerDriver.codeReturns, hfinished p]
  simp [counted, hstep]

theorem turn_lt_of_helpful {x : System ι PS G × List (Call ι)}
    (h : (counted cfg count).Reachable x) (hp : helpful x.1 = some p) :
    p ∈ cfg.players ∧ (x.1.drivers p).turn < cfg.maxNoTurns := by
  have hontime := (inductive_onTime cfg count).reachable h
  have hruled := ruled_of_reachable h
  have hmain := hontime.sync.main
  have hturn := (hontime.player p).turn
  unfold helpful at hp
  unfold Ruled at hruled
  unfold MainInSync at hmain
  cases hpc : x.1.main.pc with
  | waitRunning q rest | waitTimedOut q rest | waitCancel q rest =>
    simp only [hpc] at hp hruled hmain
    split at hp
    · obtain rfl := Option.some.inj hp
      obtain ⟨hlt, passed, hplayers, -⟩ := hruled
      rw [‹(x.1.buffers q).isPlayerRunning = true›, hmain.1.opened_eq] at hturn
      refine ⟨by rw [hplayers]; simp, ?_⟩
      simp at hturn
      omega
    · simp at hp
  | initRunning | initCounter | initPlayerStates | startTimer | turnHead | playerHead
  | checkCancel | checkLimitGame | checkLimitTurn | logInstructionCount | checkEnd
  | executePlayerCommands | updateMainState | updatePlayerStates | getScores
  | logFinalGameParams | writeGame | cancelTimer | clearCancel | returned =>
    simp [hpc] at hp

omit [DecidableEq ι] in
theorem exists_step_of_pc {d : PlayerDriver} (maxNoTurns : ℕ) (b : SharedBuffer PS)
    (hcode : d.pc ≠ .code) (hfinished : d.pc ≠ .finished) :
    ∃ y, PlayerDriver.step maxNoTurns d b = some y := by
  cases hpc : d.pc with
  | code => exact absurd hpc hcode
  | finished => exact absurd hpc hfinished
  | turnHead | waitRunning | waitTimedOut | checkTimedOut | writeCountToShm | resetRunning =>
    simp only [PlayerDriver.step, hpc]
    exact ⟨_, rfl⟩

/-- **Short of the end, the one who has to go on can do so.** -/
theorem exists_step_of_helpful (hthrows : NeverThrows cfg count)
    (hturns : ∀ p ∈ cfg.players, cfg.maxNoTurns ≤ cfg.playerMaxNoTurns p)
    {x : System ι PS G × List (Call ι)} (h : (counted cfg count).Reachable x)
    (hpc : ∀ ending, x.1.main.pc ≠ .returned ending) :
    ∃ e x', e.IsOf cfg (helpful x.1) ∧ (counted cfg count).step x e = some x' := by
  cases hhelpful : helpful x.1 with
  | none =>
    obtain ⟨m', buffers', hstep⟩ := hthrows x h hpc
    have hmain : x.1.step cfg .main = some { x.1 with main := m', buffers := buffers' } := by
      simp only [System.step, hstep, Option.map_some]
    obtain ⟨x', hx'⟩ := exists_step_counted .main trivial hmain
    exact ⟨_, x', rfl, hx'⟩
  | some p =>
    obtain ⟨hp, hlt⟩ := turn_lt_of_helpful h hhelpful
    have hfinished : (x.1.drivers p).pc ≠ .finished := fun hfinished => by
      have hontime := (inductive_onTime cfg count).reachable h
      have := (hontime.player p).finished hfinished
      have := hturns p hp
      omega
    by_cases hcode : (x.1.drivers p).pc = .code
    · obtain ⟨s', hs'⟩ : ∃ s',
          x.1.step cfg (.codeReturns p (count (x.1.drivers p).calls p)) = some s' := by
        simp only [System.step, System.playerStep, PlayerDriver.codeReturns, hcode, Option.map_some]
        exact ⟨_, rfl⟩
      obtain ⟨x', hx'⟩ := exists_step_counted (.codeReturns p _) rfl hs'
      exact ⟨_, x', ⟨hp, .inr ⟨_, rfl⟩⟩, hx'⟩
    · obtain ⟨s', hs'⟩ : ∃ s', x.1.step cfg (.player p) = some s' := by
        obtain ⟨y, hy⟩ :=
          exists_step_of_pc (cfg.playerMaxNoTurns p) (x.1.buffers p) hcode hfinished
        simp only [System.step, System.playerStep, hy, Option.map_some]
        exact ⟨_, rfl⟩
      obtain ⟨x', hx'⟩ := exists_step_counted (.player p) trivial hs'
      exact ⟨_, x', ⟨hp, .inl rfl⟩, hx'⟩

/-! ## The rules -/

/-- **The game goes by its rules.**  For every number of players and of turns, all limits, and
every table of instruction counts: if no player exceeds the limit of the game in any turn, the
state syncer works once in each turn, with the players skipped that exceed the limit of the
turn, and the players get their scores.  Otherwise only the turns before the first such turn
are executed, and the players that exceed the limit in it are marked.  In both cases the log is
finalised and written once; and `Run` does return, in every fair interleaving. -/
theorem follows_rules (cfg : Config ι PS G) (count : ℕ → ι → ℤ) :
    (∀ x, (counted cfg count).Reachable x → ∀ ending, x.1.main.pc = .returned ending →
      ((∀ i < cfg.maxNoTurns, ¬ cfg.Forfeit count i) → ending = .completed ∧ ∃ scores,
        x.2 = cfg.callsBefore count cfg.maxNoTurns ++
          [.getScores scores, .logFinalGameParams, .writeGame] ∧
        ∀ p ∈ cfg.players, x.1.main.playerResults p = ⟨scores p, .normal⟩) ∧
      ∀ k < cfg.maxNoTurns, cfg.Forfeit count k → (∀ i < k, ¬ cfg.Forfeit count i) →
        ending = .aborted ∧
        x.2 = cfg.callsBefore count k ++ countCalls count k cfg.players ++
          [.logFinalGameParams, .writeGame] ∧
        ∀ p ∈ cfg.players, x.1.main.playerResults p = ⟨0,
          if count k p > cfg.playerInstructionLimitGame then .exceededInstructionLimit
          else .undefined⟩) ∧
    (NeverThrows cfg count → (∀ p ∈ cfg.players, cfg.maxNoTurns ≤ cfg.playerMaxNoTurns p) →
      ∀ s e, (counted cfg count).Run s e →
        (∀ k, (counted cfg count).FairTo s e (Event.IsOf cfg k)) →
        ∃ n ending, (s n).1.main.pc = .returned ending) := by
  constructor
  · intro x hx ending hpc
    have hruled := ruled_of_reachable hx
    simp only [Ruled, hpc] at hruled
    obtain ⟨calls, hcalls, hended⟩ := hruled
    cases ending with
    | cancelled => exact hended.elim
    | aborted =>
      obtain ⟨k, hk, hforfeit, hfirst, hbefore, hresults⟩ := hended
      refine ⟨fun hnone => absurd hforfeit (hnone k hk), ?_⟩
      intro j hj hforfeit' hfirst'
      -- there is one first turn only
      obtain rfl : j = k := by
        rcases lt_trichotomy j k with hlt | heq | hgt
        · exact absurd hforfeit' (hfirst j hlt)
        · exact heq
        · exact absurd hforfeit (hfirst' k hgt)
      refine ⟨rfl, by rw [hcalls, hbefore], ?_⟩
      intro p hp
      rw [hresults]
      simp [Config.verdict, hp]
    | completed =>
      obtain ⟨hnone, scores, hbefore, hresults⟩ := hended
      refine ⟨fun _ => ⟨rfl, scores, ?_, hresults⟩, ?_⟩
      · rw [hcalls, hbefore, List.append_assoc]
        rfl
      · intro k hk hforfeit
        exact absurd hforfeit (hnone k hk)
  · intro hthrows hturns s e hrun hfair
    refine hrun.eventually (P := Event.IsOf cfg)
      (Q := fun x => ∃ ending, x.1.main.pc = .returned ending)
      (fun x => helpful x.1) (fun x => rank cfg x.1) ?_
      (fun x e x' hx _ hstep => .inr ?_) hfair
    · intro x hx hpc
      exact exists_step_of_helpful hthrows hturns hx (not_exists.mp hpc)
    · obtain ⟨hcounted, hstep⟩ := step_counted hstep
      exact rank_step ((inductive_onTime cfg count).reachable hx).sync hcounted hstep

/-! ## Two small games -/

/-- The first player takes 7 instructions, the second one as many as given. -/
def sampleCount (n : ℤ) (_ : ℕ) : PlayerId → ℤ
  | .player1 => 7
  | .player2 => n

/-- A turn with these counts, the end of the game, and the last looks of the player drivers. -/
def sampleEvents (n : ℤ) (steps : ℕ) : List (Event PlayerId Unit) :=
  mainEvents 8 ++ playEvents .player1 7 ++ mainEvents 5 ++ playEvents .player2 n ++
    mainEvents steps ++ [.player .player1, .player .player2]

omit [DecidableEq ι] in
/-- A game that ends with the players done is a fair run. -/
theorem exists_run_of_sampleEvents (n : ℤ) (steps : ℕ) (ending : MainDriver.Ending)
    (h : ((sampleEvents n steps).foldlM (counted sampleConfig (sampleCount n)).step
      (started sampleConfig (), [])).map (fun x => (x.1.main.pc, (x.1.drivers .player1).pc,
        (x.1.drivers .player2).pc)) = some (.returned ending, .finished, .finished)) :
    ∃ s e, (counted sampleConfig (sampleCount n)).Run s e ∧
      ∀ k, (counted sampleConfig (sampleCount n)).FairTo s e (Event.IsOf sampleConfig k) := by
  obtain ⟨x, hx, hpc⟩ := Option.map_eq_some_iff.mp h
  simp only [Prod.mk.injEq] at hpc
  have hfinished : ∀ p, (x.1.drivers p).pc = .finished
    | .player1 => hpc.2.1
    | .player2 => hpc.2.2
  obtain ⟨s, e, hrun, hfair, -⟩ := TransitionSystem.exists_run_of_reaches
    (T := counted sampleConfig (sampleCount n)) ⟨isStarted_started sampleConfig (), rfl⟩
    (TransitionSystem.reaches_of_foldlM hx) .main (step_eq_none hpc.1 hfinished)
  exact ⟨s, e, hrun, hfair⟩

omit [DecidableEq ι] in
/-- The second player exceeds the limit of the turn in one game, that of the game in the
other. -/
theorem follows_rules_sample :
    (∃ x, (counted sampleConfig (sampleCount 12)).Reachable x ∧
      x.1.main.pc = .returned .completed ∧ ∃ scores,
      x.2 = sampleConfig.callsBefore (sampleCount 12) 1 ++
        [.getScores scores, .logFinalGameParams, .writeGame] ∧
      ∀ p ∈ sampleConfig.players, x.1.main.playerResults p = ⟨scores p, .normal⟩) ∧
    ∃ x, (counted sampleConfig (sampleCount 101)).Reachable x ∧
      x.1.main.pc = .returned .aborted ∧
      x.2 = sampleConfig.callsBefore (sampleCount 101) 0 ++
        countCalls (sampleCount 101) 0 sampleConfig.players ++ [.logFinalGameParams, .writeGame] ∧
      ∀ p ∈ sampleConfig.players, x.1.main.playerResults p = ⟨0,
        if sampleCount 101 0 p > 100 then .exceededInstructionLimit else .undefined⟩ := by
  have hreturns : sampleConfig.callees.Returns :=
    ⟨fun _ _ _ => ⟨(), rfl⟩, fun _ => ⟨(), rfl⟩, fun _ states => ⟨(), states, rfl⟩⟩
  constructor
  · obtain ⟨s, e, hrun, hfair⟩ :=
      exists_run_of_sampleEvents 12 15 .completed (by decide +kernel)
    obtain ⟨hrules, hends⟩ := follows_rules sampleConfig (sampleCount 12)
    obtain ⟨i, ending, hpc⟩ := hends (neverThrows_of_returns hreturns _) (fun _ _ => le_rfl) s e
      hrun hfair
    obtain ⟨rfl, hcalls⟩ := (hrules _ (hrun.reachable i) ending hpc).1 (by decide +kernel)
    exact ⟨_, hrun.reachable i, hpc, hcalls⟩
  · obtain ⟨s, e, hrun, hfair⟩ :=
      exists_run_of_sampleEvents 101 9 .aborted (by decide +kernel)
    obtain ⟨hrules, hends⟩ := follows_rules sampleConfig (sampleCount 101)
    obtain ⟨i, ending, hpc⟩ := hends (neverThrows_of_returns hreturns _) (fun _ _ => le_rfl) s e
      hrun hfair
    obtain ⟨rfl, hcalls⟩ := (hrules _ (hrun.reachable i) ending hpc).2 0 (by decide) (by decide)
      (by decide)
    exact ⟨_, hrun.reachable i, hpc, hcalls⟩

end Drivers

end Simulator
