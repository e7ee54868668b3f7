import Simulator.Drivers.Match

/-!
# The interleaving does not matter

However the drivers and the code of the players interleave, a match comes to what `play`
says, if it comes to an end.

`future` says, of any moment of a match, what is left of it: the rest of the program `play`
that belongs to where the main driver is, run from the board as it is.  Where the main driver
waits for a player, it depends on where that player is.  No step changes the future.  For
this it is needed that only the player of the round is running (`OnlyRunning`), which the
handshake sees to as long as no timer fires, and that a code that thinks is being called.
-/

namespace Simulator

open Foundation Function

variable {ι PS G Mem : Type} [DecidableEq ι]

namespace Drivers

variable {cfg : Config ι PS G} {code : ι → Update Mem PS} {memories : ι → Mem}
  {playerStates : ι → PS} {x x' : Played ι PS G Mem}

/-! ## A match is a game with counts -/

theorem calls_le {s s' : System ι PS G} {e : Event ι PS} (hstep : s.step cfg e = some s') (p : ι) :
    (s.drivers p).calls ≤ (s'.drivers p).calls := by
  have hplayer : ∀ {q : ι} {d : PlayerDriver}, (s.drivers q).calls ≤ d.calls →
      (s.drivers p).calls ≤ (update s.drivers q d p).calls := by
    intro q d hle
    by_cases hp : p = q
    · subst hp
      simpa using hle
    · simp [hp]
  cases e with
  | main =>
    obtain ⟨_, -, rfl⟩ := Option.map_eq_some_iff.mp hstep
    exact le_rfl
  | player q =>
    obtain ⟨⟨d', b'⟩, hrun, rfl⟩ := Option.map_eq_some_iff.mp hstep
    refine hplayer ?_
    cases hpc : (s.drivers q).pc with
    | code | finished => simp [PlayerDriver.step, hpc] at hrun
    | turnHead | waitRunning | waitTimedOut | checkTimedOut | writeCountToShm | resetRunning =>
      simp only [PlayerDriver.step, hpc, Option.some.injEq, Prod.mk.injEq] at hrun
      rw [← hrun.1]
  | codeWrites q playerState =>
    obtain ⟨⟨d', b'⟩, hrun, rfl⟩ := Option.map_eq_some_iff.mp hstep
    obtain ⟨-, rfl, -⟩ := PlayerInSync.pc_eq_of_codeWrites hrun
    exact hplayer le_rfl
  | codeReturns q n =>
    obtain ⟨⟨d', b'⟩, hrun, rfl⟩ := Option.map_eq_some_iff.mp hstep
    obtain ⟨-, rfl, -⟩ := PlayerInSync.pc_eq_of_codeReturns hrun
    exact hplayer (Nat.le_succ _)
  | playerTimer q =>
    obtain rfl := Option.some.inj hstep
    exact hplayer le_rfl
  | mainTimer | cancel | cancelReturns =>
    simp only [System.step, Option.ite_none_right_eq_some, Option.some.injEq] at hstep
    obtain ⟨-, rfl⟩ := hstep
    exact le_rfl

theorem exists_reachable_counted {count : ℕ → ι → ℤ} {s s' : System ι PS G} {calls : List (Call ι)}
    {e : Event ι PS} (h : (counted cfg count).Reachable (s, calls)) (he : e.IsCounted count s)
    (hstep : s.step cfg e = some s') : ∃ calls', (counted cfg count).Reachable (s', calls') := by
  have hnext : ∃ calls', (counted cfg count).step (s, calls) e = some (s', calls') := by
    simp only [counted, if_pos he, hstep, Option.map_some]
    exact ⟨_, rfl⟩
  obtain ⟨calls', hnext⟩ := hnext
  exact ⟨calls', h.reaches (.tail .refl hnext)⟩

/-- What a move can be. -/
inductive Moves (cfg : Config ι PS G) (code : ι → Update Mem PS) (x : Played ι PS G Mem) :
    Move ι → Played ι PS G Mem → Prop
  | main {m' : MainDriver ι G} {buffers' : ι → SharedBuffer PS}
    (hstep : MainDriver.step cfg x.system.main x.system.buffers = some (m', buffers')) :
    Moves cfg code x .main { x with system := { x.system with main := m', buffers := buffers' } }
  | player {p : ι} {d' : PlayerDriver} {b' : SharedBuffer PS}
    (hstep : PlayerDriver.step (cfg.playerMaxNoTurns p) (x.system.drivers p) (x.system.buffers p) =
      some (d', b')) :
    Moves cfg code x (.player p) { x with
      system := { x.system with
        drivers := update x.system.drivers p d'
        buffers := update x.system.buffers p b' } }
  | reads {p : ι} {memory : Mem} {playerState : PS} {instructionCount : ℤ}
    (hpc : (x.system.drivers p).pc = .code) (hresting : (x.minds p).thought = .resting)
    (hcode : code p (x.minds p).memory (x.system.buffers p).playerState =
      some (memory, playerState, instructionCount)) :
    Moves cfg code x (.reads p) { x with
      minds := update x.minds p
        { x.minds p with thought := .decided memory playerState instructionCount } }
  | writes {p : ι} {memory : Mem} {playerState : PS} {instructionCount : ℤ}
    (hpc : (x.system.drivers p).pc = .code)
    (hdecided : (x.minds p).thought = .decided memory playerState instructionCount) :
    Moves cfg code x (.writes p)
      ⟨{ x.system with
          buffers := update x.system.buffers p { x.system.buffers p with playerState } },
        update x.minds p { x.minds p with thought := .answered memory instructionCount }⟩
  | returns {p : ι} {memory : Mem} {instructionCount : ℤ}
    (hpc : (x.system.drivers p).pc = .code)
    (hanswered : (x.minds p).thought = .answered memory instructionCount) :
    Moves cfg code x (.returns p)
      ⟨{ x.system with
          drivers := update x.system.drivers p { x.system.drivers p with
            pc := .writeCountToShm instructionCount
            calls := (x.system.drivers p).calls + 1 } },
        update x.minds p ⟨memory, .resting⟩⟩

/-- A move is one of these. -/
theorem moves_of_step {move : Move ι} (h : x.step cfg code move = some x') :
    Moves cfg code x move x' := by
  cases move with
  | main =>
    obtain ⟨s', hs', rfl⟩ := Option.map_eq_some_iff.mp h
    obtain ⟨⟨m', buffers'⟩, hrun, rfl⟩ := Option.map_eq_some_iff.mp hs'
    exact .main hrun
  | player p =>
    obtain ⟨s', hs', rfl⟩ := Option.map_eq_some_iff.mp h
    obtain ⟨⟨d', b'⟩, hrun, rfl⟩ := Option.map_eq_some_iff.mp hs'
    exact .player hrun
  | reads p =>
    simp only [Played.step, Option.ite_none_right_eq_some, Option.map_eq_some_iff] at h
    obtain ⟨hpc, mind, hmind, rfl⟩ := h
    cases hthought : (x.minds p).thought with
    | resting =>
      simp only [Mind.decide, hthought, Option.map_eq_some_iff] at hmind
      obtain ⟨⟨memory, playerState, n⟩, hcode, rfl⟩ := hmind
      exact .reads hpc hthought hcode
    | decided | answered => simp [Mind.decide, hthought] at hmind
  | writes p =>
    cases hthought : (x.minds p).thought with
    | decided memory playerState n =>
      simp only [Played.step, hthought, Option.map_eq_some_iff] at h
      obtain ⟨s', hs', rfl⟩ := h
      obtain ⟨⟨d', b'⟩, hrun, rfl⟩ := Option.map_eq_some_iff.mp hs'
      obtain ⟨hpc, rfl, rfl⟩ := PlayerInSync.pc_eq_of_codeWrites hrun
      rw [update_eq_self]
      exact .writes hpc hthought
    | resting | answered => simp [Played.step, hthought] at h
  | returns p =>
    cases hthought : (x.minds p).thought with
    | answered memory n =>
      simp only [Played.step, hthought, Option.map_eq_some_iff] at h
      obtain ⟨s', hs', rfl⟩ := h
      obtain ⟨⟨d', b'⟩, hrun, rfl⟩ := Option.map_eq_some_iff.mp hs'
      obtain ⟨hpc, rfl, rfl⟩ := PlayerInSync.pc_eq_of_codeReturns hrun
      rw [update_eq_self]
      exact .returns hpc hthought
    | resting | decided => simp [Played.step, hthought] at h

/-- The count of the last turn may be chosen afterwards: it is reachable with every table that
agrees with what the players have returned so far. -/
theorem exists_counted (h : (played cfg code memories playerStates).Reachable x) :
    ∃ count : ℕ → ι → ℤ, ∀ count' : ℕ → ι → ℤ,
      (∀ p, ∀ i < (x.system.drivers p).calls, count' i p = count i p) →
        ∃ calls, (counted cfg count').Reachable (x.system, calls) := by
  obtain ⟨x₀, ⟨hinit, -⟩, hrun⟩ := h
  induction hrun with
  | refl => exact ⟨fun _ _ => 0, fun _ _ => ⟨[], _, ⟨hinit, rfl⟩, .refl⟩⟩
  | @tail x x' move _ hstep ih =>
    obtain ⟨count, hcount⟩ := ih
    -- a step of the drivers that is counted with every table
    have hother : ∀ e : Event ι PS, x.system.step cfg e = some x'.system →
        (∀ count' : ℕ → ι → ℤ, e.IsCounted count' x.system) →
        ∃ count : ℕ → ι → ℤ, ∀ count' : ℕ → ι → ℤ,
          (∀ p, ∀ i < (x'.system.drivers p).calls, count' i p = count i p) →
            ∃ calls, (counted cfg count').Reachable (x'.system, calls) := by
      intro e he hcounted
      refine ⟨count, ?_⟩
      intro count' hagree
      obtain ⟨calls, hreachable⟩ := hcount count' fun p i hi =>
        hagree p i (Nat.lt_of_lt_of_le hi (calls_le he p))
      exact exists_reachable_counted hreachable (hcounted count') he
    cases moves_of_step hstep with
    | main hrun => exact hother .main (by simp [System.step, hrun]) fun _ => trivial
    | @player p d' b' hrun =>
      exact hother (.player p) (by simp [System.step, System.playerStep, hrun]) fun _ => trivial
    | reads => exact ⟨count, hcount⟩
    | @writes p memory playerState n hpc hdecided =>
      refine hother (.codeWrites p playerState) ?_ fun _ => trivial
      simp [System.step, System.playerStep, PlayerDriver.codeWrites, hpc]
    | @returns p memory n hpc hanswered =>
      have he : x.system.step cfg (.codeReturns p n) = some { x.system with
          drivers := update x.system.drivers p { x.system.drivers p with
            pc := .writeCountToShm n, calls := (x.system.drivers p).calls + 1 } } := by
        simp [System.step, System.playerStep, PlayerDriver.codeReturns, hpc]
      -- the table has the count that was returned
      refine ⟨fun i q => if q = p ∧ i = (x.system.drivers p).calls then n else count i q, ?_⟩
      intro count' hagree
      obtain ⟨calls, hreachable⟩ := hcount count' fun q i hi => by
        refine (hagree q i (Nat.lt_of_lt_of_le hi (calls_le he q))).trans (if_neg ?_)
        rintro ⟨rfl, rfl⟩
        exact absurd hi (Nat.lt_irrefl _)
      refine exists_reachable_counted hreachable (e := .codeReturns p n) ?_ he
      exact ((hagree p (x.system.drivers p).calls (by simp)).trans (if_pos ⟨rfl, rfl⟩)).symm

/-- The drivers are on time. -/
theorem exists_onTime (h : (played cfg code memories playerStates).Reachable x) :
    ∃ count calls, (counted cfg count).Reachable (x.system, calls) := by
  obtain ⟨count, hcount⟩ := exists_counted h
  obtain ⟨calls, hreachable⟩ := hcount count fun _ _ _ => rfl
  exact ⟨count, calls, hreachable⟩

/-! ## Who is running -/

/-- A player whose flag is set is the one that the main driver waits for. -/
def OnlyRunning (s : System ι PS G) : Prop :=
  ∀ p, (s.buffers p).isPlayerRunning = true → ∃ rest, s.main.pc = .waitRunning p rest ∨
    s.main.pc = .waitTimedOut p rest ∨ s.main.pc = .waitCancel p rest

/-- A code that thinks is being called. -/
def Attentive (x : Played ι PS G Mem) : Prop :=
  ∀ p, (x.system.drivers p).pc ≠ .code → (x.minds p).thought = .resting

omit [DecidableEq ι] in
/-- Where the main driver does not wait, nobody is running. -/
theorem OnlyRunning.idle {s : System ι PS G} (h : OnlyRunning s)
    (hpc : ∀ p rest, s.main.pc ≠ .waitRunning p rest ∧ s.main.pc ≠ .waitTimedOut p rest ∧
      s.main.pc ≠ .waitCancel p rest) (p : ι) : (s.buffers p).isPlayerRunning = false := by
  refine Bool.eq_false_of_not_eq_true ?_
  intro hrunning
  obtain ⟨rest, hwaits⟩ := h p hrunning
  obtain ⟨hrunning, htimedOut, hcancel⟩ := hpc p rest
  rcases hwaits with hwaits | hwaits | hwaits
  · exact hrunning hwaits
  · exact htimedOut hwaits
  · exact hcancel hwaits

omit [DecidableEq ι] in
theorem OnlyRunning.congr {s s' : System ι PS G} (h : OnlyRunning s)
    (hmain : s'.main.pc = s.main.pc)
    (hbuffers : ∀ p, (s'.buffers p).isPlayerRunning = true → (s.buffers p).isPlayerRunning = true) :
    OnlyRunning s' := by
  intro p hrunning
  rw [hmain]
  exact h p (hbuffers p hrunning)

theorem OnlyRunning.step {s : System ι PS G} {m' : MainDriver ι G}
    {buffers' : ι → SharedBuffer PS} (h : OnlyRunning s) (htimedOut : s.main.isGameTimedOut = false)
    (hcancel : s.main.cancel = false)
    (hstep : MainDriver.step cfg s.main s.buffers = some (m', buffers')) :
    OnlyRunning { s with main := m', buffers := buffers' } := by
  have hidle := h.idle
  have hquiet : (∀ p, (buffers' p).isPlayerRunning = false) →
      OnlyRunning { s with main := m', buffers := buffers' } := fun hquiet p hrunning => by
    rw [show (buffers' p).isPlayerRunning = false from hquiet p] at hrunning
    simp at hrunning
  cases MainDriver.steps_of_step hstep with
  | initEnd hpc | startTimer hpc | turnBegins hpc | turnsEnd hpc | playersEnd hpc
  | exceedsGame hpc | withinGame hpc | checkLimitTurn hpc | logInstructionCount hpc | aborted hpc
  | notAborted hpc | executePlayerCommands hpc | updateMainState hpc | getScores hpc
  | logFinalGameParams hpc | writeGame hpc | stopsToClear hpc | stops hpc | clearCancel hpc
  | notCancelled hpc | initPlayerStates hpc | updatePlayerStates hpc =>
    exact hquiet (hidle (by simp [hpc]))
  | @initRunning p rest hpc =>
    refine hquiet ?_
    intro q
    by_cases hq : q = p
    · subst hq
      simp
    · simpa [hq] using hidle (by simp [hpc]) q
  | @initCounter p rest hpc =>
    refine hquiet ?_
    intro q
    by_cases hq : q = p
    · subst hq
      simpa using hidle (by simp [hpc]) q
    · simpa [hq] using hidle (by simp [hpc]) q
  | @setRunning p rest hpc =>
    intro q hrunning
    by_cases hq : q = p
    · subst hq
      exact ⟨rest, .inl rfl⟩
    · have hrunning : (s.buffers q).isPlayerRunning = true := by simpa [hq] using hrunning
      rw [hidle (by simp [hpc]) q] at hrunning
      simp at hrunning
  | @running p rest hpc | @notTimedOut p rest hpc | @waitOn p rest hpc =>
    intro q hrunning
    obtain ⟨rest', hwaits⟩ := h q hrunning
    simp only [hpc, MainDriver.Pc.waitRunning.injEq, MainDriver.Pc.waitTimedOut.injEq,
      MainDriver.Pc.waitCancel.injEq, reduceCtorEq, or_false, false_or] at hwaits
    obtain ⟨rfl, rfl⟩ := hwaits
    exact ⟨rest, by simp⟩
  | @notRunning p rest hpc hnotRunning =>
    refine hquiet fun q => Bool.eq_false_of_not_eq_true ?_
    intro hrunning
    obtain ⟨rest', hwaits⟩ := h q hrunning
    simp only [hpc, MainDriver.Pc.waitRunning.injEq, reduceCtorEq, or_false] at hwaits
    obtain ⟨rfl, -⟩ := hwaits
    simp [hnotRunning] at hrunning
  | timedOut hpc htimedOut' => simp [htimedOut] at htimedOut'
  | cancelSeen hpc hcancel' | cancelled hpc hcancel' => simp [hcancel] at hcancel'

/-- What is needed of a match besides that it is on time. -/
structure InOrder (x : Played ι PS G Mem) : Prop where
  onlyRunning : OnlyRunning x.system
  attentive : Attentive x

theorem InOrder.step {count : ℕ → ι → ℤ} {move : Move ι} (h : InOrder x)
    (hontime : OnTime cfg count x.system) (hstep : x.step cfg code move = some x') :
    InOrder x' := by
  obtain ⟨honly, hattentive⟩ := h
  cases moves_of_step hstep with
  | main hrun =>
    exact ⟨honly.step hontime.notTimedOut hontime.notCancelled hrun, hattentive⟩
  | @player p d' b' hrun =>
    refine ⟨honly.congr rfl ?_, ?_⟩
    · intro q hrunning
      by_cases hqp : q = p
      · subst hqp
        exact (stepsToReset_lt hrun (by simpa using hrunning)).1
      · simpa [hqp] using hrunning
    · intro q hq
      by_cases hqp : q = p
      · subst hqp
        refine hattentive q ?_
        intro hcode
        simp [PlayerDriver.step, hcode] at hrun
      · exact hattentive q (by simpa [hqp] using hq)
  | @reads p memory playerState n hpc hresting hcode =>
    refine ⟨honly, ?_⟩
    intro q hq
    have hqp : q ≠ p := fun heq => hq (heq ▸ hpc)
    simpa [hqp] using hattentive q hq
  | @writes p memory playerState n hpc hdecided =>
    refine ⟨honly.congr rfl ?_, ?_⟩
    · intro q hrunning
      by_cases hqp : q = p
      · subst hqp
        simpa using hrunning
      · simpa [hqp] using hrunning
    · intro q hq
      have hqp : q ≠ p := fun heq => hq (heq ▸ hpc)
      simpa [hqp] using hattentive q hq
  | @returns p memory n hpc hanswered =>
    refine ⟨honly, ?_⟩
    intro q hq
    by_cases hqp : q = p
    · subst hqp
      simp
    · simpa [hqp] using hattentive q (by simpa [hqp] using hq)

theorem inOrder_of_reachable (h : (played cfg code memories playerStates).Reachable x) :
    InOrder x := by
  obtain ⟨x₀, ⟨hinit, hminds, hstates⟩, hrun⟩ := h
  have hx₀ : (played cfg code memories playerStates).Reachable x₀ :=
    ⟨x₀, ⟨hinit, hminds, hstates⟩, .refl⟩
  induction hrun with
  | refl =>
    refine ⟨?_, fun p _ => by rw [hminds p]⟩
    intro p hrunning
    simp [hinit.isPlayerRunning_eq p] at hrunning
  | tail hprev hstep ih =>
    obtain ⟨count, calls, hcounted⟩ := exists_onTime (hx₀.reaches hprev)
    exact ih.step ((inductive_onTime cfg count).reachable hcounted) hstep

/-! ## What is left of a match -/

/-- The board as it is. -/
def Played.board (x : Played ι PS G Mem) : Board ι PS G Mem where
  game := x.system.main.game
  memories := fun p => (x.minds p).memory
  playerStates := fun p => (x.system.buffers p).playerState
  skipPlayerTurn := x.system.main.skipPlayerTurn
  playerResults := x.system.main.playerResults
  instructionCountExceeded := x.system.main.instructionCountExceeded

/-- What is left of a round that a player has begun. -/
def Mind.restOfRound (cfg : Config ι PS G) (code : ι → Update Mem PS) (p : ι)
    (mind : Mind Mem PS) (b : Board ι PS G Mem) : Option (Board ι PS G Mem) :=
  match mind.thought with
  | .resting => b.playRound cfg code p
  | .decided memory playerState n => some ((b.answer p (memory, playerState)).judge cfg p n)
  | .answered memory n => some ((b.answer p (memory, b.playerStates p)).judge cfg p n)

/-- What is left of the round of a player, up to where its count has been logged. -/
def Played.restOfRound (cfg : Config ι PS G) (code : ι → Update Mem PS) (x : Played ι PS G Mem)
    (p : ι) : Option (Board ι PS G Mem) :=
  if (x.system.buffers p).isPlayerRunning then
    match (x.system.drivers p).pc with
    | .turnHead | .waitRunning | .waitTimedOut | .checkTimedOut _ | .code | .finished =>
      (x.minds p).restOfRound cfg code p x.board
    | .writeCountToShm n => some (x.board.judge cfg p n)
    | .resetRunning => some (x.board.judge cfg p (x.system.buffers p).instructionCounter)
  else some (x.board.judge cfg p (x.system.buffers p).instructionCounter)

/-- What is left of the turn, and of the turns after it. -/
def restOfTurn (cfg : Config ι PS G) (code : ι → Update Mem PS) (turn : ℕ) (rest : List ι)
    (b : Option (Board ι PS G Mem)) : Option (MatchResult ι G) :=
  (b.bind (Board.playRounds cfg code rest)).bind
    (Board.endTurn cfg (Board.playTurns cfg code (cfg.maxNoTurns - (turn + 1))))

/-- **What is left of a match.** -/
def Played.future (cfg : Config ι PS G) (code : ι → Update Mem PS) (x : Played ι PS G Mem) :
    Option (MatchResult ι G) :=
  let m := x.system.main
  let b := x.board
  match m.pc with
  | .initRunning _ | .initCounter _ _ | .initPlayerStates =>
    (b.updatePlayerStates cfg).bind (Board.playTurns cfg code (cfg.maxNoTurns - m.turn))
  | .startTimer | .turnHead => b.playTurns cfg code (cfg.maxNoTurns - m.turn)
  | .playerHead rest => restOfTurn cfg code m.turn rest (some b)
  | .waitRunning p rest | .waitTimedOut p rest | .waitCancel p rest | .checkCancel p rest
  | .checkLimitGame p rest => restOfTurn cfg code m.turn rest (x.restOfRound cfg code p)
  | .checkLimitTurn p rest =>
    let count := (x.system.buffers p).instructionCounter
    restOfTurn cfg code m.turn rest (some ((b.setSkip cfg p count).log cfg p count))
  | .logInstructionCount p rest =>
    restOfTurn cfg code m.turn rest
      (some (b.log cfg p (x.system.buffers p).instructionCounter))
  | .checkEnd => restOfTurn cfg code m.turn [] (some b)
  | .executePlayerCommands => (b.executePlayerCommands cfg).bind fun b =>
      (b.updateMainState cfg).bind fun b => (b.updatePlayerStates cfg).bind
        (Board.playTurns cfg code (cfg.maxNoTurns - (m.turn + 1)))
  | .updateMainState => (b.updateMainState cfg).bind fun b => (b.updatePlayerStates cfg).bind
      (Board.playTurns cfg code (cfg.maxNoTurns - (m.turn + 1)))
  | .updatePlayerStates => (b.updatePlayerStates cfg).bind
      (Board.playTurns cfg code (cfg.maxNoTurns - (m.turn + 1)))
  | .getScores => some ((b.complete cfg).finish cfg .completed)
  | .logFinalGameParams ending => some (b.finish cfg ending)
  | .writeGame ending => some ⟨ending, cfg.callees.writeGame m.game, m.playerResults⟩
  | .cancelTimer ending | .returned ending => some ⟨ending, m.game, m.playerResults⟩
  | .clearCancel => some ⟨.cancelled, m.game, m.playerResults⟩

omit [DecidableEq ι] in
theorem Board.executePlayerCommands_eq {b : Board ι PS G Mem} {game : G}
    (h : cfg.callees.executePlayerCommands b.playerStates b.skipPlayerTurn b.game = .ok game) :
    b.executePlayerCommands cfg = some { b with game } := by
  rw [Board.executePlayerCommands, h]
  rfl

omit [DecidableEq ι] in
theorem Board.updateMainState_eq {b : Board ι PS G Mem} {game : G}
    (h : cfg.callees.updateMainState b.game = .ok game) :
    b.updateMainState cfg = some { b with game } := by
  rw [Board.updateMainState, h]
  rfl

omit [DecidableEq ι] in
theorem Board.updatePlayerStates_eq {b : Board ι PS G Mem} {game : G} {states : ι → PS}
    (h : cfg.callees.updatePlayerStates b.game b.playerStates = .ok (game, states)) :
    b.updatePlayerStates cfg = some { b with game, playerStates := states } := by
  rw [Board.updatePlayerStates, h]
  rfl

/-- A store that leaves the copies of the state alone. -/
theorem playerStates_update (buffers : ι → SharedBuffer PS) (p : ι) {b : SharedBuffer PS}
    (h : b.playerState = (buffers p).playerState) :
    (fun q => (update buffers p b q).playerState) = fun q => (buffers q).playerState := by
  ext q
  by_cases hq : q = p
  · subst hq
    simpa using h
  · simp [hq]

/-- The player has not written its count. -/
theorem restOfRound_eq {p : ι} (hrunning : (x.system.buffers p).isPlayerRunning = true)
    (hwrite : ∀ n, (x.system.drivers p).pc ≠ .writeCountToShm n)
    (hreset : (x.system.drivers p).pc ≠ .resetRunning) :
    x.restOfRound cfg code p = (x.minds p).restOfRound cfg code p x.board := by
  rw [Played.restOfRound, if_pos hrunning]
  cases hpc : (x.system.drivers p).pc with
  | writeCountToShm n => exact absurd hpc (hwrite n)
  | resetRunning => exact absurd hpc hreset
  | turnHead | waitRunning | waitTimedOut | checkTimedOut | code | finished => rfl

/-- The player has not begun its round. -/
theorem restOfRound_eq_playRound {p : ι} (hrunning : (x.system.buffers p).isPlayerRunning = true)
    (hquiet : ¬ (x.system.drivers p).pc.IsBusy) (hresting : (x.minds p).thought = .resting) :
    x.restOfRound cfg code p = x.board.playRound cfg code p := by
  rw [restOfRound_eq hrunning, Mind.restOfRound, hresting]
  · exact fun n hpc => hquiet (by rw [hpc]; trivial)
  · exact fun hpc => hquiet (by rw [hpc]; trivial)

/-- **A step of the main driver** does what is next. -/
theorem future_main {m' : MainDriver ι G} {buffers' : ι → SharedBuffer PS} (h : InOrder x)
    (hsync : InSync cfg x.system) (htimedOut : x.system.main.isGameTimedOut = false)
    (hcancel : x.system.main.cancel = false)
    (hstep : MainDriver.step cfg x.system.main x.system.buffers = some (m', buffers')) :
    Played.future cfg code { x with system := { x.system with main := m', buffers := buffers' } } =
      x.future cfg code := by
  cases MainDriver.steps_of_step hstep with
  | initEnd hpc | startTimer hpc | playersEnd hpc | running hpc | notTimedOut hpc | waitOn hpc
  | notRunning hpc | timedOut hpc | cancelSeen hpc | notCancelled hpc
  | getScores hpc | logFinalGameParams hpc | checkLimitTurn hpc | logInstructionCount hpc =>
    simp only [Played.future, hpc]
    rfl
  | stopsToClear hpc | writeGame hpc | stops hpc | clearCancel hpc =>
    simp only [Played.future, hpc]
  | cancelled hpc hcancel' => simp [hcancel] at hcancel'
  | @initRunning p rest hpc =>
    have hstates := playerStates_update x.system.buffers p
      (b := { x.system.buffers p with isPlayerRunning := false }) rfl
    simp only [Played.future, hpc, Played.board, hstates]
  | @initCounter p rest hpc =>
    have hstates := playerStates_update x.system.buffers p
      (b := { x.system.buffers p with instructionCounter := 0 }) rfl
    simp only [Played.future, hpc, Played.board, hstates]
  | @initPlayerStates game states hpc hcall =>
    simp only [Played.future, hpc, Board.updatePlayerStates_eq (b := x.board) hcall]
    rfl
  | turnBegins hpc hturn =>
    simp only [Played.future, hpc]
    rw [show cfg.maxNoTurns - x.system.main.turn =
      cfg.maxNoTurns - (x.system.main.turn + 1) + 1 by omega]
    rfl
  | turnsEnd hpc hturn =>
    simp only [Played.future, hpc]
    rw [show cfg.maxNoTurns - x.system.main.turn = 0 by omega]
    rfl
  | @setRunning p rest hpc =>
    have hidle := h.onlyRunning.idle (by simp [hpc]) p
    have hplayer := hsync.player p
    have hstates := playerStates_update x.system.buffers p
      (b := { x.system.buffers p with isPlayerRunning := true }) rfl
    simp only [Played.future, hpc]
    rw [restOfRound_eq_playRound]
    · simp only [Played.board, hstates]
      rfl
    · simp
    · exact (hplayer.of_not_running hidle).1
    · exact h.attentive p (hplayer.pc_ne_code hidle)
  | @exceedsGame p rest hpc hcount =>
    have hidle := h.onlyRunning.idle (by simp [hpc]) p
    simp only [Played.future, hpc, Played.restOfRound, hidle, Board.judge, if_pos hcount]
    rfl
  | @withinGame p rest hpc hcount =>
    have hidle := h.onlyRunning.idle (by simp [hpc]) p
    simp only [Played.future, hpc, Played.restOfRound, hidle, Board.judge, if_neg hcount]
    rfl
  | aborted hpc hover =>
    have hexceeded := hover.resolve_right (by simp [htimedOut])
    simp only [Played.future, hpc, restOfTurn, Board.playRounds, Board.endTurn, Option.bind_some,
      show x.board.instructionCountExceeded = true from hexceeded, if_true]
    rfl
  | notAborted hpc hexceeded =>
    simp only [Played.future, hpc, restOfTurn, Board.playRounds, Board.endTurn, Option.bind_some,
      show x.board.instructionCountExceeded = false from hexceeded]
    rfl
  | executePlayerCommands hpc hcall =>
    simp only [Played.future, hpc, Board.executePlayerCommands_eq (b := x.board) hcall]
    rfl
  | updateMainState hpc hcall =>
    simp only [Played.future, hpc, Board.updateMainState_eq (b := x.board) hcall]
    rfl
  | updatePlayerStates hpc hcall =>
    simp only [Played.future, hpc, Board.updatePlayerStates_eq (b := x.board) hcall]
    rfl

/-! ## The steps of the players -/

/-- While a player is running, the rest of its round is what is next. -/
theorem exists_future_eq (cfg : Config ι PS G) (code : ι → Update Mem PS)
    (h : OnlyRunning x.system) {p : ι}
    (hrunning : (x.system.buffers p).isPlayerRunning = true) :
    ∃ rest, ∀ x' : Played ι PS G Mem, x'.system.main = x.system.main →
      x'.future cfg code =
        restOfTurn cfg code x.system.main.turn rest (x'.restOfRound cfg code p) := by
  obtain ⟨rest, hwaits⟩ := h p hrunning
  refine ⟨rest, ?_⟩
  intro x' hmain
  rcases hwaits with hpc | hpc | hpc <;> simp only [Played.future, hmain, hpc]

theorem future_congr (hmain : x'.system.main = x.system.main) (hboard : x'.board = x.board)
    (hbuffers : x'.system.buffers = x.system.buffers)
    (hround : ∀ p, x'.restOfRound cfg code p = x.restOfRound cfg code p) :
    x'.future cfg code = x.future cfg code := by
  simp only [Played.future, hmain, hboard, hbuffers, hround]

omit [DecidableEq ι] in
theorem board_congr (hmain : x'.system.main = x.system.main)
    (hmemories : ∀ q, (x'.minds q).memory = (x.minds q).memory)
    (hstates : ∀ q, (x'.system.buffers q).playerState = (x.system.buffers q).playerState) :
    x'.board = x.board := by
  simp only [Played.board, hmain, hmemories, hstates]

/-- **A step of a player driver** does what is next of its round, or nothing. -/
theorem future_player {p : ι} {d' : PlayerDriver} {b' : SharedBuffer PS} (h : InOrder x)
    (hplayer : PlayerInSync (x.system.main.opened p) (x.system.drivers p) (x.system.buffers p))
    (hstep : PlayerDriver.step (cfg.playerMaxNoTurns p) (x.system.drivers p) (x.system.buffers p) =
      some (d', b'))
    (hmain : x'.system.main = x.system.main)
    (hdrivers : x'.system.drivers = update x.system.drivers p d')
    (hbuffers : x'.system.buffers = update x.system.buffers p b') (hminds : x'.minds = x.minds) :
    x'.future cfg code = x.future cfg code := by
  have hboard : x'.board = x.board := by
    have hstate : b'.playerState = (x.system.buffers p).playerState := by
      cases hpc : (x.system.drivers p).pc with
      | code | finished => simp [PlayerDriver.step, hpc] at hstep
      | turnHead | waitRunning | waitTimedOut | checkTimedOut | writeCountToShm | resetRunning =>
        simp only [PlayerDriver.step, hpc, Option.some.injEq, Prod.mk.injEq] at hstep
        rw [← hstep.2]
    refine board_congr hmain (fun q => by rw [hminds]) ?_
    intro q
    rw [hbuffers]
    exact congrFun (playerStates_update x.system.buffers p hstate) q
  cases hrunning : (x.system.buffers p).isPlayerRunning with
  | false =>
    -- a player that is not running waits, and its buffer is left alone
    obtain ⟨hquiet, -⟩ := hplayer.of_not_running hrunning
    obtain rfl : b' = x.system.buffers p := by
      cases hpc : (x.system.drivers p).pc with
      | code | finished => simp [PlayerDriver.step, hpc] at hstep
      | turnHead | waitRunning | waitTimedOut | checkTimedOut =>
        simp only [PlayerDriver.step, hpc, Option.some.injEq, Prod.mk.injEq] at hstep
        exact hstep.2.symm
      | writeCountToShm | resetRunning => exact absurd (by rw [hpc]; trivial) hquiet
    rw [update_eq_self] at hbuffers
    refine future_congr hmain hboard hbuffers ?_
    intro q
    simp only [Played.restOfRound, hboard, hbuffers, hdrivers, hminds]
    by_cases hq : q = p
    · subst hq
      simp [hrunning]
    · simp [hq]
  | true =>
    obtain ⟨rest, hfuture⟩ := exists_future_eq cfg code h.onlyRunning hrunning
    rw [hfuture x rfl, hfuture x' hmain]
    congr 1
    cases hpc : (x.system.drivers p).pc with
    | code | finished => simp [PlayerDriver.step, hpc] at hstep
    | turnHead | waitRunning | waitTimedOut | checkTimedOut =>
      simp only [PlayerDriver.step, hpc, Option.some.injEq, Prod.mk.injEq] at hstep
      obtain ⟨rfl, rfl⟩ := hstep
      rw [restOfRound_eq hrunning (by simp [hpc]) (by simp [hpc]), restOfRound_eq, hboard, hminds]
      · simpa [hbuffers] using hrunning
      · intro n
        simp only [hdrivers, update_self]
        split <;> simp
      · simp only [hdrivers, update_self]
        split <;> simp
    | writeCountToShm n =>
      simp only [PlayerDriver.step, hpc, Option.some.injEq, Prod.mk.injEq] at hstep
      obtain ⟨rfl, rfl⟩ := hstep
      simp only [Played.restOfRound, hboard, hbuffers, hdrivers, update_self, hrunning, hpc,
        if_true]
    | resetRunning =>
      simp only [PlayerDriver.step, hpc, Option.some.injEq, Prod.mk.injEq] at hstep
      obtain ⟨rfl, rfl⟩ := hstep
      simp only [Played.restOfRound, hboard, hbuffers, hdrivers, update_self, hrunning, hpc]
      rfl

theorem future_reads {p : ι} {memory : Mem} {playerState : PS} {n : ℤ}
    (hpc : (x.system.drivers p).pc = .code) (hresting : (x.minds p).thought = .resting)
    (hcode : code p (x.minds p).memory (x.system.buffers p).playerState =
      some (memory, playerState, n))
    (hminds : x'.minds =
      update x.minds p { x.minds p with thought := .decided memory playerState n })
    (hsystem : x'.system = x.system) (hrunning : (x.system.buffers p).isPlayerRunning = true) :
    x'.restOfRound cfg code p = x.restOfRound cfg code p := by
  have hboard : x'.board = x.board := by
    refine board_congr (by rw [hsystem]) ?_ (fun q => by rw [hsystem])
    intro q
    by_cases hq : q = p
    · subst hq
      simp [hminds]
    · simp [hminds, hq]
  rw [restOfRound_eq hrunning (by simp [hpc]) (by simp [hpc]),
    restOfRound_eq (by rwa [hsystem]) (by simp [hsystem, hpc]) (by simp [hsystem, hpc]), hboard]
  simp only [Mind.restOfRound, hminds, update_self, hresting, Board.playRound]
  rw [show code p (x.board.memories p) (x.board.playerStates p) = _ from hcode]
  rfl

theorem future_writes {p : ι} {memory : Mem} {playerState : PS} {n : ℤ}
    (hpc : (x.system.drivers p).pc = .code)
    (hdecided : (x.minds p).thought = .decided memory playerState n)
    (hminds : x'.minds = update x.minds p { x.minds p with thought := .answered memory n })
    (hmain : x'.system.main = x.system.main) (hdrivers : x'.system.drivers = x.system.drivers)
    (hbuffers : x'.system.buffers =
      update x.system.buffers p { x.system.buffers p with playerState })
    (hrunning : (x.system.buffers p).isPlayerRunning = true) :
    x'.restOfRound cfg code p = x.restOfRound cfg code p := by
  rw [restOfRound_eq hrunning (by simp [hpc]) (by simp [hpc]),
    restOfRound_eq (by simpa [hbuffers] using hrunning) (by simp [hdrivers, hpc])
      (by simp [hdrivers, hpc])]
  simp only [Mind.restOfRound, hminds, update_self, hdecided]
  congr 2
  simp only [Board.answer, Played.board, hmain, hminds, hbuffers, update_self]
  congr 1
  · ext q
    by_cases hq : q = p
    · subst hq
      simp
    · simp [hq]
  · ext q
    by_cases hq : q = p
    · subst hq
      simp
    · simp [hq]

theorem future_returns {p : ι} {memory : Mem} {n : ℤ} {d' : PlayerDriver}
    (hpc : (x.system.drivers p).pc = .code)
    (hanswered : (x.minds p).thought = .answered memory n) (hd' : d'.pc = .writeCountToShm n)
    (hminds : x'.minds = update x.minds p ⟨memory, .resting⟩)
    (hmain : x'.system.main = x.system.main)
    (hdrivers : x'.system.drivers = update x.system.drivers p d')
    (hbuffers : x'.system.buffers = x.system.buffers)
    (hrunning : (x.system.buffers p).isPlayerRunning = true) :
    x'.restOfRound cfg code p = x.restOfRound cfg code p := by
  rw [restOfRound_eq hrunning (by simp [hpc]) (by simp [hpc])]
  simp only [Played.restOfRound, Mind.restOfRound, hbuffers, hrunning, hdrivers, update_self, hd',
    hanswered, if_true]
  congr 2
  simp only [Board.answer, Played.board, hmain, hminds, hbuffers, update_eq_self]
  congr 1
  ext q
  by_cases hq : q = p
  · subst hq
    simp
  · simp [hq]

/-- **No step changes the future.** -/
theorem future_step {count : ℕ → ι → ℤ} {move : Move ι} (h : InOrder x)
    (hontime : OnTime cfg count x.system) (hstep : x.step cfg code move = some x') :
    x'.future cfg code = x.future cfg code := by
  have hsync := hontime.sync
  -- the steps of a code are steps of the round that the main driver waits for
  have hround : ∀ {p : ι} {y : Played ι PS G Mem}, (x.system.drivers p).pc = .code →
      y.system.main = x.system.main →
      ((x.system.buffers p).isPlayerRunning = true →
        y.restOfRound cfg code p = x.restOfRound cfg code p) →
      y.future cfg code = x.future cfg code := by
    intro p y hpc hmain hround
    have hrunning := (hsync.player p).running_of_isBusy (by rw [hpc]; trivial)
    obtain ⟨rest, hfuture⟩ := exists_future_eq cfg code h.onlyRunning hrunning
    rw [hfuture x rfl, hfuture y hmain, hround hrunning]
  cases moves_of_step hstep with
  | main hrun => exact future_main h hsync hontime.notTimedOut hontime.notCancelled hrun
  | player hrun => exact future_player h (hsync.player _) hrun rfl rfl rfl rfl
  | reads hpc hresting hcode =>
    exact hround hpc rfl (future_reads hpc hresting hcode rfl rfl)
  | writes hpc hdecided =>
    exact hround hpc rfl (future_writes hpc hdecided rfl rfl rfl rfl)
  | returns hpc hanswered =>
    exact hround hpc rfl (future_returns hpc hanswered rfl rfl rfl rfl rfl)

/-- **In every interleaving, what is left of a match is what is left of `play`.** -/
theorem future_eq_play (h : (played cfg code memories playerStates).Reachable x) :
    x.future cfg code = play cfg code memories playerStates := by
  obtain ⟨x₀, ⟨hinit, hminds, hstates⟩, hrun⟩ := h
  have hx₀ : (played cfg code memories playerStates).Reachable x₀ :=
    ⟨x₀, ⟨hinit, hminds, hstates⟩, .refl⟩
  induction hrun with
  | refl =>
    have hboard : x₀.board = board cfg memories playerStates := by
      simp only [Played.board, hinit.main_eq, hminds, hstates]
      rfl
    simp only [Played.future, hboard, hinit.main_eq]
    rfl
  | tail hprev hstep ih =>
    have hreachable := hx₀.reaches hprev
    obtain ⟨count, calls, hcounted⟩ := exists_onTime hreachable
    exact (future_step (inOrder_of_reachable hreachable)
      ((inductive_onTime cfg count).reachable hcounted) hstep).trans ih

end Drivers

end Simulator
