import Simulator.Drivers.CountedRuns

/-!
# The rules of a game

What `Run` does in a game with given instruction counts.  `Ruled` says what has been called
and what the local variables hold, depending on where `Run` is: the turns before are
complete, and of the turn it is in, the players that had their round are `passed`.

The flags are kept from turn to turn, but each turn sets the skip flag of every player anew
or ends the game, and the results are not touched before the game is over.

## What the table decides

In every turn the counts of the table say who is skipped (`Config.skips`) and whether the turn is
forfeit, because some player exceeds the limit of the game (`Config.Forfeit`).  So the whole
course of a game can be read off the table: the calls of a turn (`Config.turnCalls`), the calls
before a turn (`Config.callsBefore`), and the results at the end of a forfeit turn
(`Config.verdict`), in which all players that exceeded the limit are blamed, not only the first.

## The proof

`Ruled` is kept by every step, and a step is in one of three groups.  Those of a player's round
move the player to the ones that have passed; those at the two ends of a turn exchange what is
known of all players for the next turn or for one of the exits; and those on the way out only add
calls.  Each step that does more than to move on has a lemma with the state it leaves written out,
and `Ruled.step` puts them together.
-/

namespace Simulator

open Foundation Function

variable {ι PS G : Type}

namespace Drivers

/-! ## What a table of counts asks for -/

/-- Some player exceeds the limit of the game in turn `i`. -/
def Config.Forfeit (cfg : Config ι PS G) (count : ℕ → ι → ℤ) (i : ℕ) : Prop :=
  ∃ p ∈ cfg.players, count i p > cfg.playerInstructionLimitGame

instance (cfg : Config ι PS G) (count : ℕ → ι → ℤ) (i : ℕ) : Decidable (cfg.Forfeit count i) :=
  inferInstanceAs (Decidable (∃ p ∈ cfg.players, count i p > cfg.playerInstructionLimitGame))

/-- The counts of some players, as they are logged in turn `i`. -/
def countCalls (count : ℕ → ι → ℤ) (i : ℕ) (ps : List ι) : List (Call ι) :=
  ps.map fun p => .logInstructionCount p (count i p)

variable [DecidableEq ι]

/-- The players that are skipped in turn `i`. -/
def Config.skips (cfg : Config ι PS G) (count : ℕ → ι → ℤ) (i : ℕ) (p : ι) : Bool :=
  p ∈ cfg.players ∧ count i p > cfg.playerInstructionLimitTurn

/-- The calls of turn `i`. -/
def Config.turnCalls (cfg : Config ι PS G) (count : ℕ → ι → ℤ) (i : ℕ) : List (Call ι) :=
  countCalls count i cfg.players ++
    [.executePlayerCommands (cfg.skips count i), .updateMainState, .updatePlayerStates]

/-- The calls before turn `n`; the first one is made by `Start`. -/
def Config.callsBefore (cfg : Config ι PS G) (count : ℕ → ι → ℤ) (n : ℕ) : List (Call ι) :=
  .updatePlayerStates :: (List.range n).flatMap (cfg.turnCalls count)

/-- The results when some players have had their round in turn `i`. -/
def Config.verdict (cfg : Config ι PS G) (count : ℕ → ι → ℤ) (i : ℕ) (passed : List ι) (p : ι) :
    PlayerResult where
  score := 0
  status := if p ∈ passed ∧ count i p > cfg.playerInstructionLimitGame
    then .exceededInstructionLimit else .undefined

/-! ## Where `Run` is -/

/-- `Run` is in a turn, or between two turns if nobody has passed. -/
structure InTurn (cfg : Config ι PS G) (count : ℕ → ι → ℤ) (m : MainDriver ι G)
    (passed : List ι) : Prop where
  earlier : ∀ i < m.turn, ¬ cfg.Forfeit count i
  results : m.playerResults = cfg.verdict count m.turn passed
  exceeded : m.instructionCountExceeded = true ↔
    ∃ p ∈ passed, count m.turn p > cfg.playerInstructionLimitGame
  skip : ∀ p ∈ passed, ¬ count m.turn p > cfg.playerInstructionLimitGame →
    m.skipPlayerTurn p = cfg.skips count m.turn p
  others : ∀ p ∉ cfg.players, m.skipPlayerTurn p = false

/-- `Run` is on one of its exits, before it finalises the log. -/
def Ended (cfg : Config ι PS G) (count : ℕ → ι → ℤ) (m : MainDriver ι G)
    (ending : MainDriver.Ending) (calls : List (Call ι)) : Prop :=
  match ending with
  | .cancelled => False
  | .aborted => ∃ k < cfg.maxNoTurns, cfg.Forfeit count k ∧ (∀ i < k, ¬ cfg.Forfeit count i) ∧
      calls = cfg.callsBefore count k ++ countCalls count k cfg.players ∧
      m.playerResults = cfg.verdict count k cfg.players
  | .completed => (∀ i < cfg.maxNoTurns, ¬ cfg.Forfeit count i) ∧ ∃ scores,
      calls = cfg.callsBefore count cfg.maxNoTurns ++ [.getScores scores] ∧
      ∀ p ∈ cfg.players, m.playerResults p = ⟨scores p, .normal⟩

/-- **What `Run` has done**, depending on where it is. -/
def Ruled (cfg : Config ι PS G) (count : ℕ → ι → ℤ) (m : MainDriver ι G)
    (calls : List (Call ι)) : Prop :=
  match m.pc with
  | .initRunning _ | .initCounter _ _ | .initPlayerStates =>
    m.turn = 0 ∧ InTurn cfg count m [] ∧ calls = []
  | .startTimer => m.turn = 0 ∧ InTurn cfg count m [] ∧ calls = cfg.callsBefore count 0
  | .turnHead => m.turn ≤ cfg.maxNoTurns ∧ InTurn cfg count m [] ∧
      calls = cfg.callsBefore count m.turn
  | .playerHead rest => m.turn < cfg.maxNoTurns ∧ ∃ passed, cfg.players = passed ++ rest ∧
      InTurn cfg count m passed ∧
      calls = cfg.callsBefore count m.turn ++ countCalls count m.turn passed
  | .waitRunning p rest | .waitTimedOut p rest | .waitCancel p rest | .checkCancel p rest
  | .checkLimitGame p rest => m.turn < cfg.maxNoTurns ∧ ∃ passed,
      cfg.players = passed ++ p :: rest ∧ InTurn cfg count m passed ∧
      calls = cfg.callsBefore count m.turn ++ countCalls count m.turn passed
  | .checkLimitTurn p rest => m.turn < cfg.maxNoTurns ∧
      ¬ count m.turn p > cfg.playerInstructionLimitGame ∧ ∃ passed,
      cfg.players = passed ++ p :: rest ∧ InTurn cfg count m passed ∧
      calls = cfg.callsBefore count m.turn ++ countCalls count m.turn passed
  | .logInstructionCount p rest => m.turn < cfg.maxNoTurns ∧ ∃ passed,
      cfg.players = passed ++ p :: rest ∧ InTurn cfg count m (passed ++ [p]) ∧
      calls = cfg.callsBefore count m.turn ++ countCalls count m.turn passed
  | .checkEnd => m.turn < cfg.maxNoTurns ∧ InTurn cfg count m cfg.players ∧
      calls = cfg.callsBefore count m.turn ++ countCalls count m.turn cfg.players
  | .executePlayerCommands => (m.turn < cfg.maxNoTurns ∧ ¬ cfg.Forfeit count m.turn) ∧
      InTurn cfg count m cfg.players ∧
      calls = cfg.callsBefore count m.turn ++ countCalls count m.turn cfg.players
  | .updateMainState => (m.turn < cfg.maxNoTurns ∧ ¬ cfg.Forfeit count m.turn) ∧
      InTurn cfg count m cfg.players ∧
      calls = cfg.callsBefore count m.turn ++ countCalls count m.turn cfg.players ++
        [.executePlayerCommands (cfg.skips count m.turn)]
  | .updatePlayerStates => (m.turn < cfg.maxNoTurns ∧ ¬ cfg.Forfeit count m.turn) ∧
      InTurn cfg count m cfg.players ∧
      calls = cfg.callsBefore count m.turn ++ countCalls count m.turn cfg.players ++
        [.executePlayerCommands (cfg.skips count m.turn), .updateMainState]
  | .getScores => (∀ i < cfg.maxNoTurns, ¬ cfg.Forfeit count i) ∧
      calls = cfg.callsBefore count cfg.maxNoTurns
  | .logFinalGameParams ending => Ended cfg count m ending calls
  | .writeGame ending => ∃ calls', calls = calls' ++ [.logFinalGameParams] ∧
      Ended cfg count m ending calls'
  | .cancelTimer ending | .returned ending => ∃ calls',
      calls = calls' ++ [.logFinalGameParams, .writeGame] ∧ Ended cfg count m ending calls'
  | .clearCancel => False

/-! ## A step of `Run` -/

variable {cfg : Config ι PS G} {count : ℕ → ι → ℤ} {m m' : MainDriver ι G}
  {buffers buffers' : ι → SharedBuffer PS} {p : ι} {rest passed : List ι} {calls : List (Call ι)}

theorem callsBefore_succ (cfg : Config ι PS G) (count : ℕ → ι → ℤ) (n : ℕ) :
    cfg.callsBefore count (n + 1) = cfg.callsBefore count n ++ cfg.turnCalls count n := by
  simp [Config.callsBefore, List.range_succ]

/-- A turn in which nobody exceeds the limit of the game judges nobody. -/
theorem verdict_of_not_forfeit {k : ℕ} (h : ¬ cfg.Forfeit count k) (i : ℕ) :
    cfg.verdict count k cfg.players = cfg.verdict count i [] := by
  ext p
  have hnot : ¬ (p ∈ cfg.players ∧ count k p > cfg.playerInstructionLimitGame) := fun hp =>
    h ⟨p, hp⟩
  simp [Config.verdict, hnot]

omit [DecidableEq ι] in
theorem countCalls_append (count : ℕ → ι → ℤ) (i : ℕ) (passed : List ι) (p : ι) :
    countCalls count i (passed ++ [p]) =
      countCalls count i passed ++ [.logInstructionCount p (count i p)] := by
  simp [countCalls]

/-- What a turn has come to depends on few of the variables. -/
theorem InTurn.congr (h : InTurn cfg count m passed) (hturn : m'.turn = m.turn)
    (hresults : m'.playerResults = m.playerResults)
    (hexceeded : m'.instructionCountExceeded = m.instructionCountExceeded)
    (hskip : m'.skipPlayerTurn = m.skipPlayerTurn) : InTurn cfg count m' passed where
  earlier := by rw [hturn]; exact h.earlier
  results := by rw [hturn, hresults]; exact h.results
  exceeded := by rw [hturn, hexceeded]; exact h.exceeded
  skip := by rw [hturn, hskip]; exact h.skip
  others := by rw [hskip]; exact h.others

/-- The round of a player within the limit of the game. -/
theorem InTurn.pass (h : InTurn cfg count m passed) (hp : p ∈ cfg.players)
    (hwithin : ¬ count m.turn p > cfg.playerInstructionLimitGame) :
    InTurn cfg count { m with
      skipPlayerTurn := update m.skipPlayerTurn p
        (decide (count m.turn p > cfg.playerInstructionLimitTurn)) } (passed ++ [p]) where
  earlier := h.earlier
  results := by
    show m.playerResults = _
    rw [h.results]
    ext q
    by_cases hq : q = p
    · subst hq
      simp [Config.verdict, hwithin]
    · simp [Config.verdict, hq]
  exceeded := by
    rw [h.exceeded]
    simp only [List.mem_append, List.mem_singleton, or_and_right, exists_or, exists_eq_left,
      hwithin, or_false]
  skip q hq hle := by
    by_cases hqp : q = p
    · subst hqp
      simp [Config.skips, hp]
    · show update m.skipPlayerTurn p _ q = _
      rw [update_of_ne hqp]
      exact h.skip q ((List.mem_append.mp hq).resolve_right (by simpa using hqp)) hle
  others q hq := by
    have hqp : q ≠ p := fun heq => hq (heq ▸ hp)
    show update m.skipPlayerTurn p _ q = false
    rw [update_of_ne hqp]
    exact h.others q hq

/-- The round of a player beyond it. -/
theorem InTurn.exceed (h : InTurn cfg count m passed)
    (hbeyond : count m.turn p > cfg.playerInstructionLimitGame) :
    InTurn cfg count { m with
      playerResults := update m.playerResults p
        { m.playerResults p with status := .exceededInstructionLimit }
      instructionCountExceeded := true } (passed ++ [p]) where
  earlier := h.earlier
  results := by
    show update m.playerResults p _ = _
    rw [h.results]
    ext q
    by_cases hq : q = p
    · subst hq
      simp [Config.verdict, hbeyond]
    · simp [Config.verdict, hq]
  exceeded := iff_of_true rfl ⟨p, by simp, hbeyond⟩
  skip q hq hle := by
    have hqp : q ≠ p := fun heq => hle (heq ▸ hbeyond)
    exact h.skip q ((List.mem_append.mp hq).resolve_right (by simpa using hqp)) hle
  others := h.others

/-- The flags with which the commands are executed. -/
theorem InTurn.skip_eq (h : InTurn cfg count m cfg.players) (hwithin : ¬ cfg.Forfeit count m.turn) :
    m.skipPlayerTurn = cfg.skips count m.turn := by
  ext p
  by_cases hp : p ∈ cfg.players
  · exact h.skip p hp fun hbeyond => hwithin ⟨p, hp, hbeyond⟩
  · rw [h.others p hp]
    simp [Config.skips, hp]

/-- The turn is over. -/
theorem InTurn.next (h : InTurn cfg count m cfg.players) (hwithin : ¬ cfg.Forfeit count m.turn) :
    InTurn cfg count { m with turn := m.turn + 1 } [] where
  earlier i hi := by
    rcases Nat.lt_succ_iff_lt_or_eq.mp hi with hi | rfl
    · exact h.earlier i hi
    · exact hwithin
  results := h.results.trans (verdict_of_not_forfeit hwithin _)
  exceeded := iff_of_false (fun hexceeded => hwithin (h.exceeded.mp hexceeded)) (by simp)
  skip _ hq := absurd hq (by simp)
  others := h.others

/-! ## The steps of a player's round

A player has its round between `playerHead` and the logging of its count.  The count is read
three times, and each time it is the one of the table.  The round puts the player behind the
ones that are `passed`, either by `InTurn.exceed` or by `InTurn.pass`; the call that logs the
count comes after that.
-/

section Round

variable {buffer : SharedBuffer PS}

theorem Ruled.exceedsGame (h : Ruled cfg count m calls) (hpc : m.pc = .checkLimitGame p rest)
    (hbeyond : count m.turn p > cfg.playerInstructionLimitGame) :
    Ruled cfg count { m.read p buffer with
      pc := .logInstructionCount p rest
      playerResults := update m.playerResults p
        { m.playerResults p with status := .exceededInstructionLimit }
      instructionCountExceeded := true } calls := by
  unfold Ruled at h
  simp only [hpc] at h
  obtain ⟨hturn, passed, hplayers, hin, rfl⟩ := h
  have hin' := hin.exceed hbeyond
  exact ⟨hturn, passed, hplayers, hin'.congr rfl rfl rfl rfl, rfl⟩

theorem Ruled.withinGame (h : Ruled cfg count m calls) (hpc : m.pc = .checkLimitGame p rest)
    (hwithin : ¬ count m.turn p > cfg.playerInstructionLimitGame) :
    Ruled cfg count { m.read p buffer with pc := .checkLimitTurn p rest } calls := by
  unfold Ruled at h
  simp only [hpc] at h
  obtain ⟨hturn, passed, hplayers, hin, rfl⟩ := h
  exact ⟨hturn, hwithin, passed, hplayers, hin.congr rfl rfl rfl rfl, rfl⟩

theorem Ruled.checkLimitTurn (h : Ruled cfg count m calls) (hpc : m.pc = .checkLimitTurn p rest) :
    Ruled cfg count { m.read p buffer with
      pc := .logInstructionCount p rest
      skipPlayerTurn := update m.skipPlayerTurn p
        (decide (count m.turn p > cfg.playerInstructionLimitTurn)) } calls := by
  unfold Ruled at h
  simp only [hpc] at h
  obtain ⟨hturn, hwithin, passed, hplayers, hin, rfl⟩ := h
  have hin' := hin.pass (p := p) (by rw [hplayers]; simp) hwithin
  exact ⟨hturn, passed, hplayers, hin'.congr rfl rfl rfl rfl, rfl⟩

theorem Ruled.logInstructionCount (h : Ruled cfg count m calls)
    (hpc : m.pc = .logInstructionCount p rest) (game : G) :
    Ruled cfg count { m.read p buffer with pc := .playerHead rest, game }
      (calls ++ [.logInstructionCount p (count m.turn p)]) := by
  unfold Ruled at h
  simp only [hpc] at h
  obtain ⟨hturn, passed, hplayers, hin, rfl⟩ := h
  refine ⟨hturn, passed ++ [p], by rw [hplayers, List.append_assoc]; rfl,
    hin.congr rfl rfl rfl rfl, ?_⟩
  rw [countCalls_append, List.append_assoc]
  rfl

end Round

/-! ## The steps of a turn

When every player has had its round, `InTurn` says of all of them whether the turn is forfeit,
and the flags with which the commands are executed are the ones the table asks for.  A turn that
is not forfeit ends with the players' states, and the next one starts with nobody `passed`.
-/

theorem Ruled.startTimer (h : Ruled cfg count m calls) (hpc : m.pc = .startTimer) :
    Ruled cfg count { m with pc := .turnHead, isGameTimedOut := false, isTimerRunning := true }
      calls := by
  unfold Ruled at h
  simp only [hpc] at h
  obtain ⟨hturn, hin, rfl⟩ := h
  refine ⟨hturn ▸ Nat.zero_le _, hin.congr rfl rfl rfl rfl, ?_⟩
  show _ = cfg.callsBefore count m.turn
  rw [hturn]

theorem Ruled.turnBegins (h : Ruled cfg count m calls) (hpc : m.pc = .turnHead)
    (hturn : m.turn < cfg.maxNoTurns) :
    Ruled cfg count { m with pc := .playerHead cfg.players } calls := by
  unfold Ruled at h
  simp only [hpc] at h
  obtain ⟨-, hin, rfl⟩ := h
  exact ⟨hturn, [], rfl, hin.congr rfl rfl rfl rfl, by simp [countCalls]⟩

theorem Ruled.playersEnd (h : Ruled cfg count m calls) (hpc : m.pc = .playerHead []) :
    Ruled cfg count { m with pc := .checkEnd } calls := by
  unfold Ruled at h
  simp only [hpc] at h
  obtain ⟨hturn, passed, hplayers, hin, rfl⟩ := h
  rw [List.append_nil] at hplayers
  exact ⟨hturn, hplayers ▸ hin.congr rfl rfl rfl rfl, by rw [hplayers]⟩

theorem Ruled.turnsEnd (h : Ruled cfg count m calls) (hpc : m.pc = .turnHead)
    (hturn : ¬ m.turn < cfg.maxNoTurns) : Ruled cfg count { m with pc := .getScores } calls := by
  unfold Ruled at h
  simp only [hpc] at h
  obtain ⟨hle, hin, rfl⟩ := h
  have hlast : m.turn = cfg.maxNoTurns := le_antisymm hle (not_lt.mp hturn)
  exact ⟨fun i hi => hin.earlier i (hlast ▸ hi), by rw [hlast]⟩

theorem Ruled.aborted (h : Ruled cfg count m calls) (hpc : m.pc = .checkEnd)
    (hexceeded : m.instructionCountExceeded = true) :
    Ruled cfg count { m with pc := .logFinalGameParams .aborted } calls := by
  unfold Ruled at h
  simp only [hpc] at h
  obtain ⟨hturn, hin, rfl⟩ := h
  exact ⟨m.turn, hturn, hin.exceeded.mp hexceeded, hin.earlier, rfl, hin.results⟩

theorem Ruled.notAborted (h : Ruled cfg count m calls) (hpc : m.pc = .checkEnd)
    (hexceeded : m.instructionCountExceeded = false) :
    Ruled cfg count { m with pc := .executePlayerCommands } calls := by
  unfold Ruled at h
  simp only [hpc] at h
  obtain ⟨hturn, hin, rfl⟩ := h
  have hwithin : ¬ cfg.Forfeit count m.turn := fun hforfeit => by
    simp [hin.exceeded.mpr hforfeit] at hexceeded
  exact ⟨⟨hturn, hwithin⟩, hin.congr rfl rfl rfl rfl, rfl⟩

theorem Ruled.executePlayerCommands (h : Ruled cfg count m calls)
    (hpc : m.pc = .executePlayerCommands) (game : G) :
    Ruled cfg count { m with pc := .updateMainState, game }
      (calls ++ [.executePlayerCommands m.skipPlayerTurn]) := by
  unfold Ruled at h
  simp only [hpc] at h
  obtain ⟨hturn, hin, rfl⟩ := h
  refine ⟨hturn, hin.congr rfl rfl rfl rfl, ?_⟩
  rw [hin.skip_eq hturn.2]

theorem Ruled.updateMainState (h : Ruled cfg count m calls) (hpc : m.pc = .updateMainState)
    (game : G) :
    Ruled cfg count { m with pc := .updatePlayerStates, game } (calls ++ [.updateMainState]) := by
  unfold Ruled at h
  simp only [hpc] at h
  obtain ⟨hturn, hin, rfl⟩ := h
  refine ⟨hturn, hin.congr rfl rfl rfl rfl, ?_⟩
  simp

theorem Ruled.updatePlayerStates (h : Ruled cfg count m calls)
    (hpc : m.pc = .updatePlayerStates) (game : G) :
    Ruled cfg count { m with pc := .turnHead, turn := m.turn + 1, game }
      (calls ++ [.updatePlayerStates]) := by
  unfold Ruled at h
  simp only [hpc] at h
  obtain ⟨hturn, hin, rfl⟩ := h
  have hin' := hin.next hturn.2
  refine ⟨hturn.1, hin'.congr rfl rfl rfl rfl, ?_⟩
  show _ = cfg.callsBefore count (m.turn + 1)
  simp [callsBefore_succ, Config.turnCalls]

/-! ## The steps on the way out -/

theorem Ruled.getScores (h : Ruled cfg count m calls) (hpc : m.pc = .getScores)
    (scores : ι → ℤ) :
    Ruled cfg count { m with
      pc := .logFinalGameParams .completed
      playerResults := fun p =>
        if p ∈ cfg.players then ⟨scores p, .normal⟩ else m.playerResults p }
      (calls ++ [.getScores scores]) := by
  unfold Ruled at h
  simp only [hpc] at h
  obtain ⟨hnone, rfl⟩ := h
  exact ⟨hnone, scores, rfl, fun p hp => if_pos hp⟩

theorem Ruled.writeGame {ending : MainDriver.Ending} (h : Ruled cfg count m calls)
    (hpc : m.pc = .writeGame ending) (game : G) :
    Ruled cfg count { m with pc := .cancelTimer ending, game } (calls ++ [.writeGame]) := by
  unfold Ruled at h
  simp only [hpc] at h
  obtain ⟨calls', rfl, hended⟩ := h
  exact ⟨calls', by simp, hended⟩

/-- **A step of `Run`** goes by the rules. -/
theorem Ruled.step (h : Ruled cfg count m calls) (htimedOut : m.isGameTimedOut = false)
    (hcancel : m.cancel = false)
    (hcounter : ∀ p rest, m.pc = .checkLimitGame p rest ∨ m.pc = .checkLimitTurn p rest ∨
      m.pc = .logInstructionCount p rest → (buffers p).instructionCounter = count m.turn p)
    (hstep : MainDriver.step cfg m buffers = some (m', buffers')) :
    Ruled cfg count m' (calls ++ m.calls cfg buffers) := by
  have hruled := h
  unfold Ruled at h
  cases MainDriver.steps_of_step hstep with
  | initEnd hpc | initRunning hpc | initCounter hpc =>
    simp only [hpc] at h
    simp only [MainDriver.calls, hpc, List.append_nil]
    exact ⟨h.1, h.2.1.congr rfl rfl rfl rfl, h.2.2⟩
  | initPlayerStates hpc =>
    simp only [hpc] at h
    obtain ⟨hturn, hin, rfl⟩ := h
    simp only [MainDriver.calls, hpc]
    exact ⟨hturn, hin.congr rfl rfl rfl rfl, rfl⟩
  | startTimer hpc =>
    simpa only [MainDriver.calls, hpc, List.append_nil] using hruled.startTimer hpc
  | turnBegins hpc hturn =>
    simpa only [MainDriver.calls, hpc, List.append_nil] using hruled.turnBegins hpc hturn
  | turnsEnd hpc hturn =>
    simpa only [MainDriver.calls, hpc, List.append_nil] using hruled.turnsEnd hpc hturn
  | playersEnd hpc =>
    simpa only [MainDriver.calls, hpc, List.append_nil] using hruled.playersEnd hpc
  -- on the way to the limits only the place changes
  | setRunning hpc | running hpc | notRunning hpc | timedOut hpc | notTimedOut hpc
  | cancelSeen hpc | waitOn hpc | notCancelled hpc =>
    simp only [hpc] at h
    obtain ⟨hturn, passed, hplayers, hin, rfl⟩ := h
    simp only [MainDriver.calls, hpc, List.append_nil]
    exact ⟨hturn, passed, hplayers, hin.congr rfl rfl rfl rfl, rfl⟩
  | cancelled hpc hseen => simp [hcancel] at hseen
  | exceedsGame hpc hcount =>
    rw [hcounter _ _ (.inl hpc)] at hcount
    simpa only [MainDriver.calls, hpc, List.append_nil] using hruled.exceedsGame hpc hcount
  | withinGame hpc hcount =>
    rw [hcounter _ _ (.inl hpc)] at hcount
    simpa only [MainDriver.calls, hpc, List.append_nil] using hruled.withinGame hpc hcount
  | checkLimitTurn hpc =>
    simpa only [MainDriver.calls, hpc, List.append_nil, hcounter _ _ (.inr (.inl hpc))]
      using hruled.checkLimitTurn hpc
  | logInstructionCount hpc =>
    simpa only [MainDriver.calls, hpc, hcounter _ _ (.inr (.inr hpc))]
      using hruled.logInstructionCount hpc _
  | aborted hpc hover =>
    have hexceeded := hover.resolve_right (by simp [htimedOut])
    simpa only [MainDriver.calls, hpc, List.append_nil] using hruled.aborted hpc hexceeded
  | notAborted hpc hexceeded =>
    simpa only [MainDriver.calls, hpc, List.append_nil] using hruled.notAborted hpc hexceeded
  | executePlayerCommands hpc =>
    simpa only [MainDriver.calls, hpc] using hruled.executePlayerCommands hpc _
  | updateMainState hpc =>
    simpa only [MainDriver.calls, hpc] using hruled.updateMainState hpc _
  | updatePlayerStates hpc =>
    simpa only [MainDriver.calls, hpc] using hruled.updatePlayerStates hpc _
  | getScores hpc =>
    simpa only [MainDriver.calls, hpc] using hruled.getScores hpc _
  | logFinalGameParams hpc =>
    simp only [hpc] at h
    simp only [MainDriver.calls, hpc]
    exact ⟨calls, rfl, h⟩
  | writeGame hpc =>
    simpa only [MainDriver.calls, hpc] using hruled.writeGame hpc _
  | stopsToClear hpc =>
    simp only [hpc] at h
    obtain ⟨_, _, hended⟩ := h
    exact hended.elim
  | stops hpc =>
    simp only [hpc] at h
    simp only [MainDriver.calls, hpc, List.append_nil]
    exact h
  | clearCancel hpc => simp [hpc] at h

end Drivers

end Simulator
