import Simulator.Drivers.Game
import Simulator.Drivers.Handshake

/-!
# The log of an aborted game

When a player exceeds the instruction limit of the game, the game is aborted at the end of
the turn, and the last frame of the log is meant to carry the player's count.  The main
driver does have the count logged.  But the logger keeps it for the next frame, which is
made when the players' states are updated, and an aborted game does not get there.

So the last frame is that of the turn before, in which nobody exceeded the limit, or the
first frame, which is made before anybody has counted anything: `LogInSync`.  What the
main driver knows of the players who exceeded the limit is `BlameInSync`.

## Two invariants

A player is blamed when the counter that was read exceeds the limit, and the status in its result
says so from then on.  That nobody is blamed wrongly is an invariant of its own, which needs
nothing of the logger.  The other invariant follows a count from the counter to the frame.  Where
`Run` compares a count, the count is within the limit or the game is going to be aborted; so is
what has been logged for the next frame; and a frame is only made in a turn that was not aborted.

Both are kept by what other threads do, as the timer can abort a game and does so without touching
the log.

## The exception

A frame that carries no count of a player carries a zero, and the first frame carries zeros.  So
the last frame does have the count of an aborted game if that count is zero and the first turn was
aborted: the limit of the game is negative then.
-/

namespace Simulator

open Foundation Function

/-- The count that a frame carries for a player. -/
def Proto.GameState.instructionCount (frame : Proto.GameState) (p : PlayerId) : Option ℤ :=
  frame.instructionCounts[p.index.toNat]?

/-! ## Who is to blame -/

namespace MainDriver

variable {ι : Type}

/-- The players whose count has not been compared yet in this turn. -/
def Pc.uncompared : Pc ι → List ι
  | .playerHead rest | .checkLimitTurn _ rest | .logInstructionCount _ rest => rest
  | .waitRunning p rest | .waitTimedOut p rest | .waitCancel p rest | .checkCancel p rest
  | .checkLimitGame p rest => p :: rest
  | _ => []

/-- The turn has not begun, or has been found to be in order. -/
def Pc.IsBetween : Pc ι → Prop
  | .initRunning _ | .initCounter _ _ | .initPlayerStates | .startTimer | .turnHead
  | .executePlayerCommands | .updateMainState | .updatePlayerStates => True
  | _ => False

end MainDriver

namespace Drivers

section Blame

variable {ι PS G : Type} {cfg : Config ι PS G} {m m' : MainDriver ι G}
  {buffers buffers' : ι → SharedBuffer PS} {p q : ι}

/-- The count of player `p` was compared with the limit of the game, and exceeded it. -/
def Exceeds (cfg : Config ι PS G) (m : MainDriver ι G) (p : ι) : Prop :=
  ∃ count, (m.reads p).head? = some count ∧ cfg.playerInstructionLimitGame < count

/-- Whoever is blamed has exceeded the limit in this turn. -/
structure BlameInSync (cfg : Config ι PS G) (m : MainDriver ι G) : Prop where
  blamed : ∀ p, (m.playerResults p).status = .exceededInstructionLimit →
    m.instructionCountExceeded = true ∧ Exceeds cfg m p
  uncompared : ∀ p ∈ m.pc.uncompared, (m.playerResults p).status ≠ .exceededInstructionLimit
  between : m.pc.IsBetween → m.instructionCountExceeded = false

variable [DecidableEq ι]

theorem Exceeds.read (h : Exceeds cfg m p) (b : SharedBuffer PS) : Exceeds cfg (m.read q b) p := by
  obtain ⟨count, hhead, hlt⟩ := h
  refine ⟨count, ?_, hlt⟩
  by_cases hqp : p = q
  · subst hqp
    simp [MainDriver.read, List.head?_append, hhead]
  · simpa [MainDriver.read, hqp] using hhead

/-- **A step of the main driver** blames only who exceeds the limit. -/
theorem BlameInSync.step (h : BlameInSync cfg m) (hsync : MainInSync cfg m buffers)
    (hstep : MainDriver.step cfg m buffers = some (m', buffers')) : BlameInSync cfg m' := by
  obtain ⟨hblamed, huncompared, hbetween⟩ := h
  cases MainDriver.steps_of_step hstep with
  | initEnd hpc | initRunning hpc | initCounter hpc | initPlayerStates hpc | startTimer hpc
  | executePlayerCommands hpc | updateMainState hpc | updatePlayerStates hpc =>
    rw [hpc] at hbetween
    exact ⟨hblamed, List.forall_mem_nil _, fun _ => hbetween trivial⟩
  | turnBegins hpc =>
    rw [hpc] at hbetween
    -- no turn was aborted so far, so that nobody is blamed
    refine ⟨hblamed, ?_, False.elim⟩
    intro p _ hp
    have hexceeded := (hblamed p hp).1
    simp [hbetween trivial] at hexceeded
  | @setRunning p rest hpc =>
    rw [hpc] at huncompared
    refine ⟨?_, huncompared, False.elim⟩
    intro q hq
    have hqp : q ≠ p := by
      rintro rfl
      exact huncompared q (List.mem_cons_self ..) hq
    obtain ⟨hexceeded, count, hhead, hlt⟩ := hblamed q hq
    exact ⟨hexceeded, count, by simpa [hqp] using hhead, hlt⟩
  | running hpc | notRunning hpc | timedOut hpc | notTimedOut hpc | cancelSeen hpc | waitOn hpc
  | notCancelled hpc =>
    rw [hpc] at huncompared
    exact ⟨hblamed, huncompared, False.elim⟩
  | @exceedsGame p rest hpc hcount =>
    rw [hpc] at huncompared
    simp only [MainInSync, hpc] at hsync
    obtain ⟨⟨hround, hreads⟩, -⟩ := hsync
    refine ⟨fun q hq => ⟨rfl, ?_⟩, ?_, False.elim⟩
    · by_cases hqp : q = p
      · subst hqp
        exact ⟨_, by simp [MainDriver.read, hreads], hcount⟩
      · have hq : (m.playerResults q).status = .exceededInstructionLimit := by
          simpa [MainDriver.read, hqp] using hq
        exact (hblamed q hq).2.read (buffers p)
    · intro q hq
      have hqp : q ≠ p := fun heq => (List.nodup_cons.mp hround.nodup).1 (heq ▸ hq)
      simpa [MainDriver.read, hqp] using huncompared q (List.mem_cons_of_mem _ hq)
  | @withinGame p rest hpc =>
    rw [hpc] at huncompared
    refine ⟨?_, fun q hq => huncompared q (List.mem_cons_of_mem _ hq), False.elim⟩
    intro q hq
    obtain ⟨hexceeded, hexceeds⟩ := hblamed q hq
    exact ⟨hexceeded, hexceeds.read (buffers p)⟩
  | @checkLimitTurn p rest hpc | @logInstructionCount p rest hpc =>
    rw [hpc] at huncompared
    refine ⟨?_, huncompared, False.elim⟩
    intro q hq
    obtain ⟨hexceeded, hexceeds⟩ := hblamed q hq
    exact ⟨hexceeded, hexceeds.read (buffers p)⟩
  | notAborted hpc hexceeded => exact ⟨hblamed, List.forall_mem_nil _, fun _ => hexceeded⟩
  | getScores =>
    refine ⟨fun q hq => hblamed q ?_, List.forall_mem_nil _, False.elim⟩
    dsimp only at hq
    split at hq
    · simp at hq
    · exact hq
  | turnsEnd | playersEnd | cancelled | aborted | logFinalGameParams | writeGame | stopsToClear
  | stops | clearCancel => exact ⟨hblamed, List.forall_mem_nil _, False.elim⟩

omit [DecidableEq ι] in
theorem blameInSync_of_isStarted {s : System ι PS G} (h : IsStarted cfg s) :
    BlameInSync cfg s.main := by
  rw [h.main_eq]
  exact ⟨nofun, nofun, fun _ => rfl⟩

/-- Nobody is blamed wrongly, in any interleaving. -/
theorem blameInSync_of_reachable {s : System ι PS G} (h : (system cfg).Reachable s) :
    BlameInSync cfg s.main := by
  refine (inductive_inSync cfg).under (I := fun s => BlameInSync cfg s.main)
    (fun s h => blameInSync_of_isStarted h) ?_ h
  intro s e s' hsync hs hstep
  obtain ⟨-, m', buffers', hrun, rfl⟩ | ⟨-, _, _, -, hmain⟩ := System.step_cases hstep
  · exact hs.step hsync.main hrun
  · rw [hmain]
    exact ⟨hs.blamed, hs.uncompared, hs.between⟩

end Blame

end Drivers

/-! ## The counts of a frame -/

variable {K : Type}

namespace Logger

/-- The errors of the commands leave the counts as they are. -/
theorem instructionCounts_logErrors (errors : List LoggedError) (l : Logger) :
    (errors.foldl (fun l e => l.logError e.playerId e.errorType e.message) l).instructionCounts =
      l.instructionCounts :=
  foldl_invariant (I := fun l' : Logger => l'.instructionCounts = l.instructionCounts)
    (fun l' hl' e _ => (logError_eq l' e.playerId e.errorType e.message).2.2.2.trans hl') rfl

variable [Field K] [LinearOrder K] [FloorRing K]

theorem diffTowers_eq (st : State K) (ps : List PlayerId) (l : Logger × List Proto.Tower) :
    (ps.foldl (diffTowers st) l).1.instructionCounts = l.1.instructionCounts ∧
      (ps.foldl (diffTowers st) l).1.logs = l.1.logs := by
  induction ps generalizing l with
  | nil => exact ⟨rfl, rfl⟩
  | cons p ps ih => exact ih (diffTowers st l p)

theorem logFirstTurn_eq {c : Constants K} {st : State K} {l l' : Logger} {towers : List Proto.Tower}
    (h : logFirstTurn c st l = .ok (l', towers)) :
    l'.instructionCounts = l.instructionCounts ∧ l'.logs.states = l.logs.states := by
  unfold logFirstTurn at h
  cases hs : st.soldiers .player1 with
  | nil => simp [hs, bind, Except.bind] at h
  | cons s ss =>
    simp only [hs, ok_bind, pure_eq_ok, Except.ok.injEq, Prod.mk.injEq] at h
    obtain ⟨rfl, -⟩ := h
    exact ⟨rfl, rfl⟩

/-- **A frame carries the counts since the last one**, and the logger begins anew. -/
theorem logState_eq {c : Constants K} {l l' : Logger} {st : State K}
    (h : logState c l st = .ok l') : l'.instructionCounts = (fun _ => 0) ∧
      ∃ frame, l'.logs.states = l.logs.states ++ [frame] ∧
        frame.instructionCounts = PlayerId.all.map l.instructionCounts := by
  obtain ⟨l₁, towers, hcounts, hstates, h⟩ : ∃ l₁ towers,
      l₁.instructionCounts = l.instructionCounts ∧ l₁.logs.states = l.logs.states ∧
        logAllTurns st l₁ towers = .ok l' := by
    unfold logState at h
    dsimp only at h
    split at h
    · obtain ⟨⟨l₁, towers⟩, hfirst, h⟩ := bind_eq_ok.mp h
      obtain ⟨hcounts, hstates⟩ := logFirstTurn_eq hfirst
      exact ⟨l₁, towers, hcounts, hstates, h⟩
    · let l₁ : Logger := { l with turnCount := l.turnCount + 1 }
      obtain ⟨hcounts, hlogs⟩ := diffTowers_eq st PlayerId.all (l₁, [])
      exact ⟨_, _, hcounts, congrArg Proto.Game.states hlogs, h⟩
  obtain ⟨soldiers, -, h⟩ := bind_eq_ok.mp h
  obtain rfl := Except.ok.inj h
  exact ⟨rfl, _, congrArg (· ++ _) hstates, congrArg (PlayerId.all.map ·) hcounts⟩

end Logger

theorem PlayerId.getElem?_map_all (counts : PlayerId → ℤ) (p : PlayerId) :
    (PlayerId.all.map counts)[p.index.toNat]? = some (counts p) := by
  cases p <;> rfl

namespace Drivers

/-! ## What is in the log -/

section Log

variable {c : Constants K} {limit : ℤ} {m m' : MainDriver PlayerId (Simulation K)}
  {p : PlayerId}

/-- The last frame is the first one, or that of a turn in which nobody exceeded the limit. -/
def LastFrame (limit : ℤ) (turn : ℕ) (log : Proto.Game) : Prop :=
  ∃ frame, log.states.getLast? = some frame ∧ ∀ p, ∃ count,
    frame.instructionCount p = some count ∧ if turn = 0 then count = 0 else count ≤ limit

/-- The logged count of player `p` is within the limit, or the game is going to be aborted. -/
def Within (limit : ℤ) (m : MainDriver PlayerId (Simulation K)) (p : PlayerId) : Prop :=
  m.instructionCountExceeded = true ∨ m.isGameTimedOut = true ∨
    m.game.logger.instructionCounts p ≤ limit

/-- The count of player `p` was within the limit when it was compared, or the game is going
to be aborted. -/
def Compared (limit : ℤ) (m : MainDriver PlayerId (Simulation K)) (p : PlayerId) : Prop :=
  m.instructionCountExceeded = true ∨ m.isGameTimedOut = true ∨ ∃ count ∈ m.reads p, count ≤ limit

/-- **What the logger has**, depending on where the main driver is. -/
def LogInSync (limit : ℤ) (m : MainDriver PlayerId (Simulation K)) : Prop :=
  match m.pc with
  | .initRunning _ | .initCounter _ _ | .initPlayerStates =>
    m.turn = 0 ∧ ∀ p, m.game.logger.instructionCounts p = 0
  | .playerHead rest => LastFrame limit m.turn m.game.logger.logs ∧ ∀ p ∉ rest, Within limit m p
  | .waitRunning p rest | .waitTimedOut p rest | .waitCancel p rest | .checkCancel p rest
  | .checkLimitGame p rest =>
    LastFrame limit m.turn m.game.logger.logs ∧ ∀ q ∉ p :: rest, Within limit m q
  | .checkLimitTurn p rest | .logInstructionCount p rest =>
    LastFrame limit m.turn m.game.logger.logs ∧ (∀ q ∉ p :: rest, Within limit m q) ∧
      Compared limit m p
  | .checkEnd => LastFrame limit m.turn m.game.logger.logs ∧ ∀ p, Within limit m p
  | .executePlayerCommands | .updateMainState | .updatePlayerStates =>
    ∀ p, m.game.logger.instructionCounts p ≤ limit
  | .startTimer | .turnHead | .getScores | .logFinalGameParams _ | .writeGame _ | .cancelTimer _
  | .clearCancel | .returned _ => LastFrame limit m.turn m.game.logger.logs

theorem Within.elsewhere {isGameTimedOut : Bool} (cancel : Bool) (h : Within limit m p)
    (ht : m.isGameTimedOut = true → isGameTimedOut = true) :
    Within limit { m with isGameTimedOut, cancel } p :=
  h.imp id (Or.imp ht id)

theorem LogInSync.elsewhere {isGameTimedOut cancel : Bool} (h : LogInSync limit m)
    (ht : m.isGameTimedOut = true → isGameTimedOut = true) :
    LogInSync limit { m with isGameTimedOut, cancel } := by
  unfold LogInSync at h ⊢
  cases hpc : m.pc <;> simp only [hpc] at h ⊢
  case playerHead => exact ⟨h.1, fun p hp => (h.2 p hp).elsewhere cancel ht⟩
  case checkEnd => exact ⟨h.1, fun p => (h.2 p).elsewhere cancel ht⟩
  case waitRunning | waitTimedOut | waitCancel | checkCancel | checkLimitGame =>
    exact ⟨h.1, fun q hq => (h.2 q hq).elsewhere cancel ht⟩
  case checkLimitTurn | logInstructionCount =>
    exact ⟨h.1, fun q hq => (h.2.1 q hq).elsewhere cancel ht, h.2.2.imp id (Or.imp ht id)⟩
  all_goals exact h

variable [Field K] [LinearOrder K] [FloorRing K]

/-- The frame that the update of the players' states makes. -/
theorem lastFrame_of_updatePlayerStates {g g' : Simulation K}
    {playerStates playerStates' : PlayerId → PlayerState c} {turn : ℕ}
    (h : Simulation.updatePlayerStates c g playerStates = .ok (g', playerStates'))
    (hcounts : ∀ p, if turn = 0 then g.logger.instructionCounts p = 0
      else g.logger.instructionCounts p ≤ limit) : LastFrame limit turn g'.logger.logs := by
  obtain ⟨l, hlog, rfl⟩ := Simulation.exists_of_updatePlayerStates h
  obtain ⟨-, frame, hstates, hframe⟩ := Logger.logState_eq hlog
  refine ⟨frame, by rw [hstates, List.getLast?_concat], fun p => ⟨_, ?_, hcounts p⟩⟩
  rw [Proto.GameState.instructionCount, hframe, PlayerId.getElem?_map_all]

variable {cfg : Config PlayerId (PlayerState c) (Simulation K)}
  {buffers buffers' : PlayerId → SharedBuffer (PlayerState c)}

/-- **A step of the main driver** logs counts as it should. -/
theorem LogInSync.step [SquareRoot K] (h : LogInSync cfg.playerInstructionLimitGame m)
    (hplayers : cfg.players = PlayerId.all) (hcallees : cfg.callees = Simulation.callees c)
    (hsync : MainInSync cfg m buffers)
    (hstep : MainDriver.step cfg m buffers = some (m', buffers')) :
    LogInSync cfg.playerInstructionLimitGame m' := by
  unfold LogInSync at h
  cases MainDriver.steps_of_step hstep with
  | initEnd hpc | initRunning hpc | initCounter hpc | startTimer hpc | turnsEnd hpc | setRunning hpc
  | running hpc | notRunning hpc | timedOut hpc | notTimedOut hpc | cancelSeen hpc | waitOn hpc
  | notCancelled hpc | getScores hpc | stopsToClear hpc | stops hpc | clearCancel hpc =>
    simp only [hpc] at h
    exact h
  | initPlayerStates hpc hcall =>
    simp only [hpc] at h
    rw [hcallees] at hcall
    exact lastFrame_of_updatePlayerStates hcall fun p => by rw [if_pos h.1]; exact h.2 p
  | turnBegins hpc =>
    simp only [hpc] at h
    exact ⟨h, fun p hp => absurd (PlayerId.mem_all p) (hplayers ▸ hp)⟩
  | playersEnd hpc =>
    simp only [hpc] at h
    exact ⟨h.1, fun p => h.2 p List.not_mem_nil⟩
  | cancelled hpc | aborted hpc =>
    simp only [hpc] at h
    exact h.1
  | exceedsGame hpc =>
    simp only [hpc] at h
    exact ⟨h.1, fun q _ => .inl rfl, .inl rfl⟩
  | @withinGame p rest hpc hcount =>
    simp only [hpc] at h
    have hread : (buffers p).instructionCounter ∈ (m.read p (buffers p)).reads p := by
      simp [MainDriver.read]
    exact ⟨h.1, h.2, .inr (.inr ⟨_, hread, not_lt.mp hcount⟩)⟩
  | checkLimitTurn hpc =>
    simp only [hpc] at h
    refine ⟨h.1, h.2.1, h.2.2.imp id (Or.imp id ?_)⟩
    rintro ⟨count, hread, hle⟩
    exact ⟨count, by simp [MainDriver.read, hread], hle⟩
  | @logInstructionCount p rest hpc =>
    simp only [hpc] at h
    simp only [MainInSync, hpc] at hsync
    rw [hcallees]
    refine ⟨h.1, ?_⟩
    intro q hq
    by_cases hqp : q = p
    · subst hqp
      -- what was compared is what is logged, unless the timer has fired
      obtain hexceeded | htimedOut | ⟨count, hread, hle⟩ := h.2.2
      · exact .inl hexceeded
      · exact .inr (.inl htimedOut)
      · obtain hserved | htimedOut := hsync.2
        · refine .inr (.inr ?_)
          rw [hserved.2.2.2 count hread] at hle
          simpa [Simulation.callees, Simulation.logInstructionCount,
            Logger.logInstructionCount] using hle
        · exact .inr (.inl htimedOut)
    · refine (h.2.1 q (by simp [hqp, hq])).imp id (Or.imp id ?_)
      intro hle
      simpa [Simulation.callees, Simulation.logInstructionCount, Logger.logInstructionCount,
        hqp] using hle
  | notAborted hpc hexceeded htimedOut =>
    simp only [hpc] at h
    intro p
    simpa [Within, hexceeded, htimedOut] using h.2 p
  | executePlayerCommands hpc hcall =>
    simp only [hpc] at h
    rw [hcallees] at hcall
    obtain ⟨ph, -, rfl⟩ := Simulation.exists_of_executePlayerCommands hcall
    intro p
    show (ph.errors.foldl _ m.game.logger).instructionCounts p ≤ _
    rw [Logger.instructionCounts_logErrors]
    exact h p
  | updateMainState hpc hcall =>
    simp only [hpc] at h
    rw [hcallees] at hcall
    obtain ⟨st, -, rfl⟩ := Simulation.exists_of_updateMainState hcall
    exact h
  | updatePlayerStates hpc hcall =>
    simp only [hpc] at h
    rw [hcallees] at hcall
    exact lastFrame_of_updatePlayerStates hcall fun p => by
      rw [if_neg m.turn.succ_ne_zero]
      exact h p
  | logFinalGameParams hpc | writeGame hpc =>
    simp only [hpc] at h
    rw [hcallees]
    exact h

theorem logInSync_of_reachable [SquareRoot K] {s : System PlayerId (PlayerState c) (Simulation K)}
    {st : State K} {maxNoTurns : ℕ} {playerMaxNoTurns : PlayerId → ℕ} {limitTurn : ℤ}
    (h : (system (gameConfig c st maxNoTurns playerMaxNoTurns limitTurn limit)).Reachable s) :
    LogInSync limit s.main := by
  refine (inductive_inSync _).under (I := fun s => LogInSync limit s.main) ?_ ?_ h
  · intro s hs
    rw [hs.main_eq]
    exact ⟨rfl, fun _ => rfl⟩
  · intro s e s' hsync hs hstep
    obtain ⟨-, m', buffers', hrun, rfl⟩ | ⟨-, _, _, ht, hmain⟩ := System.step_cases hstep
    · exact hs.step rfl rfl hsync.main hrun
    · rw [hmain]
      exact hs.elsewhere ht

/-! ## The log file -/

/-- The game is written once, when the log is complete. -/
def FileInSync (m : MainDriver PlayerId (Simulation K)) : Prop :=
  match m.pc with
  | .cancelTimer _ | .clearCancel | .returned _ => m.game.logFile = [m.game.logger.logs]
  | _ => m.game.logFile = []

theorem FileInSync.step [SquareRoot K] (h : FileInSync m)
    (hcallees : cfg.callees = Simulation.callees c)
    (hstep : MainDriver.step cfg m buffers = some (m', buffers')) : FileInSync m' := by
  unfold FileInSync at h
  cases MainDriver.steps_of_step hstep with
  | initPlayerStates hpc hcall | updatePlayerStates hpc hcall =>
    simp only [hpc] at h
    rw [hcallees] at hcall
    obtain ⟨l, -, rfl⟩ := Simulation.exists_of_updatePlayerStates hcall
    exact h
  | executePlayerCommands hpc hcall =>
    simp only [hpc] at h
    rw [hcallees] at hcall
    obtain ⟨ph, -, rfl⟩ := Simulation.exists_of_executePlayerCommands hcall
    exact h
  | updateMainState hpc hcall =>
    simp only [hpc] at h
    rw [hcallees] at hcall
    obtain ⟨st, -, rfl⟩ := Simulation.exists_of_updateMainState hcall
    exact h
  | logInstructionCount hpc | logFinalGameParams hpc =>
    simp only [hpc] at h
    rw [hcallees]
    exact h
  | writeGame hpc =>
    simp only [hpc] at h
    rw [hcallees]
    show m.game.logFile ++ [m.game.logger.logs] = [m.game.logger.logs]
    rw [h, List.nil_append]
  | initEnd hpc | initRunning hpc | initCounter hpc | startTimer hpc | turnBegins hpc | turnsEnd hpc
  | playersEnd hpc | setRunning hpc | running hpc | notRunning hpc | timedOut hpc | notTimedOut hpc
  | cancelSeen hpc | waitOn hpc | cancelled hpc | notCancelled hpc | exceedsGame hpc
  | withinGame hpc | checkLimitTurn hpc | aborted hpc | notAborted hpc | getScores hpc
  | stopsToClear hpc | stops hpc | clearCancel hpc =>
    simp only [hpc] at h
    exact h

theorem inductive_fileInSync [SquareRoot K] (st : State K) (maxNoTurns : ℕ)
    (playerMaxNoTurns : PlayerId → ℕ) (limitTurn : ℤ) :
    (system (gameConfig c st maxNoTurns playerMaxNoTurns limitTurn limit)).Inductive
      fun s => FileInSync s.main := by
  constructor
  · intro s h
    rw [h.main_eq]
    rfl
  · intro s e s' h hstep
    obtain ⟨-, m', buffers', hrun, rfl⟩ | ⟨-, _, _, -, hmain⟩ := System.step_cases hstep
    · exact h.step rfl hrun
    · rw [hmain]
      exact h

/-! ## The last frame of an aborted game -/

/-- The last frame of the log carries the count for player `p`. -/
def Carries (log : Proto.Game) (p : PlayerId) (count : ℤ) : Prop :=
  ∃ frame, log.states.getLast? = some frame ∧ frame.instructionCount p = some count

/-- **When the last frame carries the count that aborted the game.**  It does so only if
the first turn was aborted, for a count of `0`. -/
theorem carries_iff_of_aborted [SquareRoot K]
    {s : System PlayerId (PlayerState c) (Simulation K)} {st : State K} {maxNoTurns : ℕ}
    {playerMaxNoTurns : PlayerId → ℕ} {limitTurn : ℤ}
    (h : (system (gameConfig c st maxNoTurns playerMaxNoTurns limitTurn limit)).Reachable s)
    (hpc : s.main.pc = .returned .aborted)
    (hstatus : (s.main.playerResults p).status = .exceededInstructionLimit) :
    ∃ count log, (s.main.reads p).head? = some count ∧ limit < count ∧
      s.main.game.logFile = [log] ∧ (Carries log p count ↔ s.main.turn = 0 ∧ count = 0) := by
  obtain ⟨-, count, hhead, hlt⟩ := (blameInSync_of_reachable h).blamed p hstatus
  have hfile := (inductive_fileInSync st maxNoTurns playerMaxNoTurns limitTurn).reachable h
  have hlog := logInSync_of_reachable h
  simp only [FileInSync, LogInSync, hpc] at hfile hlog
  obtain ⟨frame, hlast, hcounts⟩ := hlog
  obtain ⟨logged, hlogged, hbound⟩ := hcounts p
  refine ⟨count, _, hhead, hlt, hfile, ?_⟩
  have hcarries : Carries s.main.game.logger.logs p count ↔ logged = count := by
    constructor
    · rintro ⟨frame', hlast', hcount⟩
      obtain rfl := Option.some.inj (hlast.symm.trans hlast')
      exact Option.some.inj (hlogged.symm.trans hcount)
    · rintro rfl
      exact ⟨frame, hlast, hlogged⟩
  rw [hcarries]
  by_cases hturn : s.main.turn = 0
  · rw [if_pos hturn] at hbound
    rw [hbound]
    exact ⟨fun heq => ⟨hturn, heq.symm⟩, fun h => h.2.symm⟩
  · rw [if_neg hturn] at hbound
    have hlt : limit < count := hlt
    exact ⟨fun heq => absurd hbound (by omega), fun h => absurd h.1 hturn⟩

end Log

/-- The small game, with a limit of 100 instructions. -/
def sampleGameConfig (st : State ℚ) :
    Config PlayerId (PlayerState sampleRules.toConstants) (Simulation ℚ) :=
  gameConfig sampleRules.toConstants st 3 (fun _ => 3) 10 100

/-- Player 1 exceeds the limit in the first turn. -/
def abortEvents {PS : Type} : List (Event PlayerId PS) :=
  mainEvents 8 ++ playEvents .player1 101 ++ mainEvents 4 ++ playEvents .player2 8 ++ mainEvents 10

set_option synthInstance.maxSize 400 in
theorem exists_aborted_sample : ∃ (st : State ℚ)
    (s : System PlayerId (PlayerState sampleRules.toConstants) (Simulation ℚ)),
    buildState sampleRules.toConstants = .ok st ∧ (system (sampleGameConfig st)).Reachable s ∧
    s.main.pc = .returned .aborted ∧
    (s.main.playerResults .player1).status = .exceededInstructionLimit ∧ s.main.turn = 0 ∧
    (s.main.reads .player1).head? = some 101 ∧
    s.main.game.logFile.map (fun log => log.states.map Proto.GameState.instructionCounts) =
      [[[0, 0]]] := by
  have hrun : ((buildState sampleRules.toConstants).toOption.bind fun st : State ℚ =>
      (abortEvents.foldlM (System.step (sampleGameConfig st))
        (started (sampleGameConfig st) (.quiet sampleRules.toConstants))).bind fun s =>
      some (s.main.pc, (s.main.playerResults .player1).status, s.main.turn,
        (s.main.reads .player1).head?, s.main.game.logFile.map
          fun log => log.states.map Proto.GameState.instructionCounts)) =
      some (.returned .aborted, .exceededInstructionLimit, 0, some 101, [[[0, 0]]]) := by
    decide +kernel
  obtain ⟨st, hst, hrun⟩ := exists_of_toOption_bind hrun
  obtain ⟨s, hs, hrun⟩ := Option.bind_eq_some_iff.mp hrun
  simp only [Option.some.injEq, Prod.mk.injEq] at hrun
  exact ⟨st, s, hst, reachable_of_foldlM hs, hrun⟩

/-- The count of player 1 is not in the last frame. -/
theorem carries_iff_of_aborted_sample : ∃ (st : State ℚ)
    (s : System PlayerId (PlayerState sampleRules.toConstants) (Simulation ℚ)) (log : Proto.Game),
    buildState sampleRules.toConstants = .ok st ∧ (system (sampleGameConfig st)).Reachable s ∧
    s.main.pc = .returned .aborted ∧ s.main.game.logFile = [log] ∧
    (Carries log .player1 101 ↔ s.main.turn = 0 ∧ (101 : ℤ) = 0) := by
  obtain ⟨st, s, hst, hreachable, hpc, hstatus, -, hhead, -⟩ := exists_aborted_sample
  obtain ⟨count, log, hcount, -, hfile, hiff⟩ := carries_iff_of_aborted hreachable hpc hstatus
  obtain rfl := Option.some.inj (hhead.symm.trans hcount)
  exact ⟨st, s, log, hst, hreachable, hpc, hfile, hiff⟩

/-- **The count that aborts a game may be in no frame.** -/
theorem not_carries_sample : ∃ st : State ℚ, buildState sampleRules.toConstants = .ok st ∧
    ¬ ∀ s, (system (sampleGameConfig st)).Reachable s → s.main.pc = .returned .aborted →
      ∀ p count, (s.main.playerResults p).status = .exceededInstructionLimit →
        (s.main.reads p).head? = some count → ∃ log ∈ s.main.game.logFile, Carries log p count := by
  obtain ⟨st, s, hst, hreachable, hpc, hstatus, -, hhead, hframes⟩ := exists_aborted_sample
  refine ⟨st, hst, ?_⟩
  intro h
  obtain ⟨log, hlog, frame, hlast, hcount⟩ := h s hreachable hpc .player1 101 hstatus hhead
  have hmem : log.states.map Proto.GameState.instructionCounts ∈
      s.main.game.logFile.map fun log => log.states.map Proto.GameState.instructionCounts :=
    List.mem_map_of_mem hlog
  rw [hframes, List.mem_singleton] at hmem
  have hcounts : frame.instructionCounts ∈ log.states.map Proto.GameState.instructionCounts :=
    List.mem_map_of_mem (List.mem_of_getLast? hlast)
  rw [hmem, List.mem_singleton] at hcounts
  simp [Proto.GameState.instructionCount, hcounts, PlayerId.index] at hcount

end Drivers

end Simulator
