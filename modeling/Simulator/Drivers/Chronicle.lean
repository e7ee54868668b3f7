import Simulator.Drivers.Transcript
import Simulator.Main.Snapshots

/-!
# The log is the history of the game

Whatever the players do and however the game ends, the file that the main driver writes
tells the game that was played.  It has a frame for the initial state and one for each turn
that was played to its end; the frames show these states; and the errors in a frame are those
of the commands that were refused in its turn.

## Which game

A turn is played on an input: the copies of the state that the players have edited, and the
flags that say whose commands are skipped.  The main driver reads both when it executes the
commands of a turn, and the players write the copies anew for the next turn, so the inputs of
a game cannot be read off the state that the drivers end in.  They are put on record:
`executed` is what one step reads, and `recorded` is the system of the drivers with the record
of it.  The theorem is about every record, that is, about every interleaving, and a log that
left out the errors of a refused command would not satisfy it.

## What the logger has been told

The calls that the logger gets are not in the state either.  `Told` says that the logger is
what some calls have made of it, cut into one piece for each frame, and that each piece
belongs to a turn and to the input of the turn; what the next frame will have is counted
apart.  It is kept by each of the three ways in which the main driver uses the logger:
`Told.call` and `Told.logErrors` for calls that make no frame, `Told.frame` for the one that
does.

`Chronicled` is the invariant of the main driver.  In the middle of a turn the state of the
simulation is ahead of the log, by the commands or by the whole turn, and the record is ahead
by one input; in front of a turn, and at the end, all three agree.  A game that is aborted or
cancelled ends in front of a turn, which is why nothing is lost with the turn that was under
way.
-/

namespace Simulator

open Foundation

variable {K : Type}

/-- The texts of the errors that the commands of a turn have made. -/
def CommandPhase.errorTexts (ph : CommandPhase K) (p : PlayerId) : List String :=
  ph.errors.filterMap fun e =>
    if e.playerId = p then some (Logger.fullMessage e.errorType e.message) else none

variable [Field K] [LinearOrder K] [FloorRing K]

namespace Drivers

open Logger

section Told

variable [SquareRoot K]

/-- The turn was played on the input, and the commands in it have made the errors. -/
def PlayedWith (r : Ruleset K) (t : Turn K) (input : Input r.toConstants)
    (texts : PlayerId → List String) : Prop :=
  ∃ ph : CommandPhase K, execute input t.before = .ok ph ∧ ph.state = t.commanded ∧
    State.update r.toConstants t.commanded = .ok t.after ∧ texts = ph.errorTexts

/-- What the logger has been told of a game: the initial state, the turns that were played,
and what waits for the next frame. -/
structure Told (r : Ruleset K) (st₀ : State K) (limitTurn limitGame : ℤ)
    (past : List (Turn K × Input r.toConstants)) (texts : PlayerId → List String) (l : Logger) :
    Prop where
  soldiers : st₀.soldiers .player1 ≠ []
  run : ∃ (first : Entry K) (entries : List (Entry K)) (rest : List (Logger.Call K)),
    first.state = st₀ ∧ (Logger.errorTexts first.calls = fun _ => []) ∧
    List.Forall₂ (fun x e => e.state = x.1.after ∧
      PlayedWith r x.1 x.2 (Logger.errorTexts e.calls)) past entries ∧
    (∀ call ∈ rest, call.isState = false) ∧ Logger.errorTexts rest = texts ∧
    Logger.run r.toConstants (transcript (first :: entries) ++ rest) (start limitTurn limitGame) =
      .ok l

variable {r : Ruleset K} {st₀ : State K} {limitTurn limitGame : ℤ}
  {past : List (Turn K × Input r.toConstants)}
  {texts : PlayerId → List String} {l l' : Logger}

/-- **The logger is told something that makes no frame.** -/
theorem Told.call (h : Told r st₀ limitTurn limitGame past texts l) (call : Logger.Call K)
    (hcall : call.isState = false) (hrun : Logger.call r.toConstants l call = .ok l') :
    Told r st₀ limitTurn limitGame past (fun p => texts p ++ Logger.errorTexts [call] p) l' := by
  obtain ⟨hsoldiers, first, entries, rest, hfirst, hnone, hpast, hrest, rfl, hl⟩ := h
  refine ⟨hsoldiers, first, entries, rest ++ [call], hfirst, hnone, hpast, ?_,
    funext fun p => Logger.errorTexts_append rest [call] p, ?_⟩
  · intro call' hcall'
    rcases List.mem_append.mp hcall' with hold | hnew
    · exact hrest call' hold
    · exact List.mem_singleton.mp hnew ▸ hcall
  · rw [← List.append_assoc, Logger.run, List.foldlM_append, ← Logger.run, hl, ok_bind,
      List.foldlM_cons, hrun]
    rfl

/-- **The errors of the commands** are told one after the other. -/
theorem Told.logErrors (h : Told r st₀ limitTurn limitGame past texts l)
    (errors : List LoggedError) : Told r st₀ limitTurn limitGame past
      (fun p => texts p ++ errors.filterMap fun e =>
        if e.playerId = p then some (fullMessage e.errorType e.message) else none)
      (errors.foldl (fun l e => l.logError e.playerId e.errorType e.message) l) := by
  induction errors generalizing texts l with
  | nil => simpa using h
  | cons e errors ih =>
    have hstep := ih (h.call (.error e.playerId e.errorType e.message) rfl rfl)
    rw [List.foldl_cons]
    convert hstep using 2
    rename_i p
    rw [List.append_assoc]
    refine congrArg (texts p ++ ·) ?_
    by_cases hp : e.playerId = p
    · simp [Logger.errorTexts, hp]
    · simp [Logger.errorTexts, hp]

/-- **The first frame.** -/
theorem told_first (h : logState r.toConstants (start limitTurn limitGame) st₀ = .ok l) :
    Told r st₀ limitTurn limitGame [] (fun _ => []) l := by
  have hrun : Logger.run r.toConstants (transcript [⟨[], st₀, nofun⟩] ++ [])
      (start limitTurn limitGame) = .ok l := bind_eq_ok.mpr ⟨l, h, rfl⟩
  refine ⟨?_, ⟨[], st₀, nofun⟩, [], [], rfl, rfl, .nil, nofun, rfl, hrun⟩
  intro hnil
  unfold logState at h
  obtain ⟨_, hfirst, -⟩ := bind_eq_ok.mp (show (logFirstTurn r.toConstants st₀
    { start limitTurn limitGame with turnCount := 1 } >>= _) = _ from h)
  simp [logFirstTurn, hnil, bind, Except.bind] at hfirst

/-- **The frame of a turn.** -/
theorem Told.frame (h : Told r st₀ limitTurn limitGame past texts l) {t : Turn K}
    {input : Input r.toConstants} (ht : PlayedWith r t input texts)
    (hlog : logState r.toConstants l t.after = .ok l') :
    Told r st₀ limitTurn limitGame (past ++ [(t, input)]) (fun _ => []) l' := by
  obtain ⟨hsoldiers, first, entries, rest, hfirst, hnone, hpast, hrest, rfl, hl⟩ := h
  refine ⟨hsoldiers, first, entries ++ [⟨rest, t.after, hrest⟩], [], hfirst, hnone,
    List.rel_append hpast (.cons ⟨rfl, ht⟩ .nil), nofun, rfl, ?_⟩
  rw [List.append_nil, ← List.cons_append, transcript_concat, Logger.run, List.foldlM_append,
    ← Logger.run, hl, ok_bind, List.foldlM_cons]
  exact bind_eq_ok.mpr ⟨l', hlog, rfl⟩

end Told

/-! ## The main driver -/

section Chronicled

/-- The input that a step of the main driver reads, if it executes commands. -/
def commandsInput {c : Constants K} (m : MainDriver PlayerId (Simulation K))
    (buffers : PlayerId → SharedBuffer (PlayerState c)) : List (Input c) :=
  match m.pc with
  | .executePlayerCommands => [⟨MainDriver.playerStates buffers, m.skipPlayerTurn⟩]
  | _ => []

/-- The input of the commands that an event executes. -/
def executed {c : Constants K} (s : System PlayerId (PlayerState c) (Simulation K)) :
    Event PlayerId (PlayerState c) → List (Input c)
  | .main => commandsInput s.main s.buffers
  | _ => []

variable [SquareRoot K]

/-- The drivers, with a record of the inputs whose commands were executed. -/
def recorded {c : Constants K} (cfg : Config PlayerId (PlayerState c) (Simulation K)) :
    TransitionSystem (System PlayerId (PlayerState c) (Simulation K) × List (Input c))
      (Event PlayerId (PlayerState c)) :=
  (system cfg).recording executed

/-- **What the logger has been told**, depending on where the main driver is, when it has
executed the commands of the given inputs. -/
def Chronicled (r : Ruleset K) (st₀ : State K) (limitTurn limitGame : ℤ)
    (m : MainDriver PlayerId (Simulation K)) (inputs : List (Input r.toConstants)) : Prop :=
  match m.pc with
  | .initRunning _ | .initCounter _ _ | .initPlayerStates =>
    m.game.state = st₀ ∧ m.game.logger = start limitTurn limitGame ∧ m.turn = 0 ∧ inputs = []
  | .updateMainState => ∃ past before input ph, inputs = past.map Prod.snd ++ [input] ∧
    Game r (past.map Prod.fst) before ∧ past.length = m.turn ∧ execute input before = .ok ph ∧
      ph.state = m.game.state ∧ Told r st₀ limitTurn limitGame past ph.errorTexts m.game.logger
  | .updatePlayerStates => ∃ past t input texts, inputs = past.map Prod.snd ++ [input] ∧
    Game r (past.map Prod.fst) t.before ∧ past.length = m.turn ∧ PlayedWith r t input texts ∧
      t.after = m.game.state ∧ Told r st₀ limitTurn limitGame past texts m.game.logger
  | .writeGame _ | .cancelTimer _ | .clearCancel | .returned _ => ∃ past l,
    inputs = past.map Prod.snd ∧ Game r (past.map Prod.fst) m.game.state ∧
      past.length = m.turn ∧ m.game.logger = l.logFinalGameParams ∧
        Told r st₀ limitTurn limitGame past (fun _ => []) l
  | _ => ∃ past, inputs = past.map Prod.snd ∧ Game r (past.map Prod.fst) m.game.state ∧
    past.length = m.turn ∧ Told r st₀ limitTurn limitGame past (fun _ => []) m.game.logger

variable {r : Ruleset K} {st₀ : State K} {limitTurn limitGame : ℤ}
  {cfg : Config PlayerId (PlayerState r.toConstants) (Simulation K)}
  {m m' : MainDriver PlayerId (Simulation K)} {inputs : List (Input r.toConstants)}
  {buffers buffers' : PlayerId → SharedBuffer (PlayerState r.toConstants)}

omit [Field K] [LinearOrder K] [FloorRing K] [SquareRoot K] in
/-- Every step but one leaves the record as it is. -/
theorem commandsInput_eq_nil (hpc : m.pc ≠ .executePlayerCommands) :
    commandsInput m buffers = [] := by
  unfold commandsInput
  split
  · exact absurd ‹_› hpc
  · rfl

/-- **A step of the main driver** tells the logger what happens. -/
theorem Chronicled.step (h : Chronicled r st₀ limitTurn limitGame m inputs)
    (hst₀ : buildState r.toConstants = .ok st₀)
    (hcallees : cfg.callees = Simulation.callees r.toConstants)
    (hstep : MainDriver.step cfg m buffers = some (m', buffers')) :
    Chronicled r st₀ limitTurn limitGame m' (inputs ++ commandsInput m buffers) := by
  unfold Chronicled at h
  cases MainDriver.steps_of_step hstep with
  | executePlayerCommands hpc hcall =>
    simp only [hpc] at h
    obtain ⟨past, rfl, hgame, hlength, htold⟩ := h
    rw [hcallees] at hcall
    obtain ⟨ph, hph, rfl⟩ := Simulation.exists_of_executePlayerCommands hcall
    have hinput : commandsInput m buffers =
        [⟨MainDriver.playerStates buffers, m.skipPlayerTurn⟩] := by
      simp only [commandsInput, hpc]
    rw [hinput]
    exact ⟨past, m.game.state, _, ph, rfl, hgame, hlength, hph, rfl, htold.logErrors ph.errors⟩
  | initPlayerStates hpc hcall =>
    rw [commandsInput_eq_nil (by simp [hpc]), List.append_nil]
    simp only [hpc] at h
    obtain ⟨hstate, hlogger, hturn, rfl⟩ := h
    rw [hcallees] at hcall
    obtain ⟨l, hlog, rfl⟩ := Simulation.exists_of_updatePlayerStates hcall
    rw [hlogger, hstate] at hlog
    exact ⟨[], rfl, hstate ▸ .start hst₀, hturn.symm, told_first hlog⟩
  | logInstructionCount hpc =>
    rw [commandsInput_eq_nil (by simp [hpc]), List.append_nil]
    simp only [hpc] at h
    obtain ⟨past, hinputs, hgame, hlength, htold⟩ := h
    rw [hcallees]
    exact ⟨past, hinputs, hgame, hlength, htold.call (.instructionCount _ _) rfl rfl⟩
  | updateMainState hpc hcall =>
    rw [commandsInput_eq_nil (by simp [hpc]), List.append_nil]
    simp only [hpc] at h
    obtain ⟨past, before, input, ph, hinputs, hgame, hlength, hph, hstate, htold⟩ := h
    rw [hcallees] at hcall
    obtain ⟨st, hst, rfl⟩ := Simulation.exists_of_updateMainState hcall
    exact ⟨past, ⟨before, m.game.state, st⟩, input, ph.errorTexts, hinputs, hgame, hlength,
      ⟨ph, hph, hstate, hst, rfl⟩, rfl, htold⟩
  | updatePlayerStates hpc hcall =>
    rw [commandsInput_eq_nil (by simp [hpc]), List.append_nil]
    simp only [hpc] at h
    obtain ⟨past, t, input, texts, rfl, hgame, hlength, hplayed, hafter, htold⟩ := h
    rw [hcallees] at hcall
    obtain ⟨l, hlog, rfl⟩ := Simulation.exists_of_updatePlayerStates hcall
    rw [← hafter] at hlog
    obtain ⟨ph, hph, hstate, hupdate, -⟩ := id hplayed
    have hgame' := hgame.turn ⟨input, ph, hph, hstate, hupdate⟩
    rw [hafter] at hgame'
    exact ⟨past ++ [(t, input)], by rw [List.map_append]; rfl,
      by rw [List.map_append]; exact hgame',
      by rw [List.length_append, hlength, List.length_singleton], htold.frame hplayed hlog⟩
  | logFinalGameParams hpc =>
    rw [commandsInput_eq_nil (by simp [hpc]), List.append_nil]
    simp only [hpc] at h
    obtain ⟨past, hinputs, hgame, hlength, htold⟩ := h
    rw [hcallees]
    exact ⟨past, m.game.logger, hinputs, hgame, hlength, rfl, htold⟩
  | writeGame hpc =>
    rw [commandsInput_eq_nil (by simp [hpc]), List.append_nil]
    simp only [hpc] at h
    rw [hcallees]
    exact h
  | initEnd hpc | initRunning hpc | initCounter hpc | startTimer hpc | turnBegins hpc | turnsEnd hpc
  | playersEnd hpc | setRunning hpc | running hpc | notRunning hpc | timedOut hpc | notTimedOut hpc
  | cancelSeen hpc | waitOn hpc | cancelled hpc | notCancelled hpc | exceedsGame hpc
  | withinGame hpc | checkLimitTurn hpc | aborted hpc | notAborted hpc | getScores hpc
  | stopsToClear hpc | stops hpc | clearCancel hpc =>
    rw [commandsInput_eq_nil (by simp [hpc]), List.append_nil]
    simp only [hpc] at h
    exact h

/-- The main driver tells the logger what happens, in every interleaving. -/
theorem inductive_chronicled (hst₀ : buildState r.toConstants = .ok st₀) (maxNoTurns : ℕ)
    (playerMaxNoTurns : PlayerId → ℕ) : (recorded (gameConfig r.toConstants st₀ maxNoTurns
      playerMaxNoTurns limitTurn limitGame)).Inductive
        fun s => Chronicled r st₀ limitTurn limitGame s.1.main s.2 := by
  constructor
  · intro s h
    obtain ⟨hstarted, hnone⟩ := h
    rw [hstarted.main_eq, hnone]
    exact ⟨rfl, rfl, rfl, rfl⟩
  · intro s e s' h hstep
    obtain ⟨hstep, hrecord⟩ := TransitionSystem.of_step_recording hstep
    rw [hrecord]
    obtain ⟨rfl, m', buffers', hrun, hs'⟩ | ⟨hne, _, _, -, hmain⟩ := System.step_cases hstep
    · rw [hs']
      exact h.step hst₀ rfl hrun
    · have hnil : executed s.1 e = [] := by
        cases e with
        | main => exact absurd rfl hne
        | player | codeWrites | codeReturns | mainTimer | playerTimer | cancel | cancelReturns =>
          rfl
      rw [hmain, hnil, List.append_nil]
      exact h

end Chronicled

/-! ## The log file -/

section Log

variable [SquareRoot K] {r : Ruleset K} {st₀ : State K} {limitTurn limitGame : ℤ}
  {past : List (Turn K × Input r.toConstants)} {texts : PlayerId → List String} {l : Logger}

/-- The calls that were made: the states that were logged are those between the turns, and
the errors of each frame are those of its turn. -/
theorem Told.exists_calls (h : Told r st₀ limitTurn limitGame past texts l) :
    ∃ calls frames, Logger.run r.toConstants calls (start limitTurn limitGame) = .ok l ∧
      loggedStates calls = statesOf st₀ (past.map Prod.fst) ∧
      errorFrames calls = (fun _ => []) :: frames ∧
      List.Forall₂ (fun x texts => PlayedWith r x.1 x.2 texts) past frames := by
  obtain ⟨-, first, entries, rest, hfirst, hnone, hpast, hrest, -, hl⟩ := h
  refine ⟨_, entries.map fun e => Logger.errorTexts e.calls, hl, ?_, ?_, ?_⟩
  · rw [loggedStates_transcript _ hrest, List.map_cons, hfirst]
    refine congrArg (st₀ :: ·) ?_
    clear hl
    induction hpast with
    | nil => rfl
    | cons hentry _ ih => rw [List.map_cons, List.map_cons, List.map_cons, hentry.1, ih]
  · rw [errorFrames_transcript _ hrest, List.map_cons, hnone]
  · exact List.forall₂_map_right_iff.mpr (hpast.imp fun _ _ hentry => hentry.2)

variable [IsStrictOrderedRing K]

omit past in
/-- The states between the turns of a game are sound. -/
theorem sound_of_mem_statesOf {past : List (Turn K)} {st st' : State K} (h : Game r past st)
    (hst₀ : buildState r.toConstants = .ok st₀) (hmem : st' ∈ statesOf st₀ past) :
    st'.Sound r.toConstants := by
  rcases List.mem_cons.mp hmem with rfl | hmem
  · exact (Game.rested (.start hst₀)).sound
  · obtain ⟨t, ht, rfl⟩ := List.mem_map.mp hmem
    obtain ⟨hplayed, hrested⟩ := h.isPlayed ht
    exact (hplayed.ready hrested).2.sound

/-- What a log tells of a game that was played on the inputs: it has a frame for each state
between the turns, which shows the state and, after a turn, the errors of the commands in it. -/
structure Tells (r : Ruleset K) (st₀ : State K) (past : List (Turn K))
    (inputs : List (Input r.toConstants)) (log : Proto.Game) : Prop where
  length : log.states.length = past.length + 1
  shows_states : ∀ (n : ℕ) st, (statesOf st₀ past)[n]? = some st → Shows log n st
  no_errors : readErrors log 0 = some (PlayerId.all.map fun _ => [])
  errors : ∀ (n : ℕ) t, past[n]? = some t → ∃ input texts, inputs[n]? = some input ∧
    PlayedWith r t input texts ∧
      readErrors log (n + 1) = some (PlayerId.all.map fun p => (texts p).map some)

/-- What the logger has been told is in the log that is written. -/
theorem Told.tells {st : State K} (h : Told r st₀ limitTurn limitGame past texts l)
    (hr : r.FitsLog) (hst₀ : buildState r.toConstants = .ok st₀)
    (hgame : Game r (past.map Prod.fst) st) (hids : st.actorIdIncrement ≤ 2 ^ 31)
    (hcodes : l.errorMap.length ≤ 2 ^ 31) :
    Tells r st₀ (past.map Prod.fst) (past.map Prod.snd) l.logFinalGameParams.logs := by
  obtain ⟨calls, frames, hrun, hstates, hframes, hpast⟩ := h.exists_calls
  have hshows := shows_of_run hrun (by rw [hstates]; exact hgame.snapshots hr hst₀ hids)
    (fun st hst => by
      rw [hstates] at hst
      obtain rfl := Option.some.inj hst
      exact h.soldiers)
    (fun st hst => by
      rw [hstates] at hst
      exact (sound_of_mem_statesOf hgame hst₀ hst).targetsAllocated)
  have herrors := readErrors_of_run hrun hcodes
  rw [hstates] at hshows
  refine ⟨?_, ?_, ?_, ?_⟩
  · exact hshows.1.trans (by rw [statesOf, List.length_cons, List.length_map])
  · intro n st hst
    -- the error mapping is written to another field
    obtain ⟨hpictures, htowers⟩ := hshows.2 n st hst
    exact ⟨hpictures, htowers⟩
  · rw [herrors, hframes]
    rfl
  · intro n t ht
    rw [List.getElem?_map] at ht
    obtain ⟨x, hx, rfl⟩ := Option.map_eq_some_iff.mp ht
    obtain ⟨hlt, hget⟩ := List.getElem?_eq_some_iff.mp hx
    have hlt' : n < frames.length := hpast.length_eq ▸ hlt
    have hplayed := (List.forall₂_iff_get.mp hpast).2 n hlt hlt'
    rw [List.get_eq_getElem, List.get_eq_getElem, hget] at hplayed
    refine ⟨x.2, _, by rw [List.getElem?_map, hx, Option.map_some], hplayed, ?_⟩
    rw [herrors, hframes, List.getElem?_cons_succ, List.getElem?_eq_getElem hlt']
    rfl

/-- **The log is the history of the game.**  However the main driver returns, it has written
one log, and whichever way it has come there, the log tells the game that was played on the
inputs whose commands were executed, turn by turn. -/
theorem log_tells_game (hr : r.FitsLog) (hst₀ : buildState r.toConstants = .ok st₀)
    {maxNoTurns : ℕ} {playerMaxNoTurns : PlayerId → ℕ}
    {s : System PlayerId (PlayerState r.toConstants) (Simulation K)}
    (h : (system (gameConfig r.toConstants st₀ maxNoTurns playerMaxNoTurns limitTurn
      limitGame)).Reachable s) {ending : MainDriver.Ending} (hpc : s.main.pc = .returned ending)
    (hids : s.main.game.state.actorIdIncrement ≤ 2 ^ 31)
    (hcodes : s.main.game.logger.errorMap.length ≤ 2 ^ 31) :
    ∃ log, s.main.game.logFile = [log] ∧
      (∃ inputs, (recorded (gameConfig r.toConstants st₀ maxNoTurns playerMaxNoTurns limitTurn
        limitGame)).Reachable (s, inputs)) ∧
      ∀ inputs, (recorded (gameConfig r.toConstants st₀ maxNoTurns playerMaxNoTurns limitTurn
        limitGame)).Reachable (s, inputs) → inputs.length = s.main.turn ∧
          ∃ past, Game r past s.main.game.state ∧ past.length = s.main.turn ∧
            Tells r st₀ past inputs log := by
  have hfile := (inductive_fileInSync st₀ maxNoTurns playerMaxNoTurns limitTurn).reachable h
  simp only [FileInSync, hpc] at hfile
  refine ⟨_, hfile, h.exists_record executed, ?_⟩
  intro inputs hinputs
  have hchronicled := (inductive_chronicled hst₀ maxNoTurns playerMaxNoTurns).reachable hinputs
  simp only [Chronicled, hpc] at hchronicled
  obtain ⟨past, l, rfl, hgame, hlength, hlogger, htold⟩ := hchronicled
  rw [hlogger] at hcodes ⊢
  exact ⟨by rw [List.length_map, hlength], _, hgame, by rw [List.length_map, hlength],
    htold.tells hr hst₀ hgame hids hcodes⟩

end Log

theorem fitsLog_sampleRules : sampleRules.FitsLog :=
  ⟨by decide, by decide, by decide, by decide, by decide⟩

/-- In the first turn player 1 builds a tower and player 2 attacks its own soldier, which is
refused.  The game is cancelled in the second turn. -/
def cancelledEvents : List (Event PlayerId (PlayerState sampleRules.toConstants)) :=
  let writes (p : PlayerId) (playerState : PlayerState sampleRules.toConstants) :=
    [.main, .player p, .player p, .player p, .codeWrites p playerState, .codeReturns p 7, .player p,
      .player p]
  mainEvents 8 ++ writes .player1 (.build _ (1, 1)) ++ mainEvents 5 ++
    writes .player2 (.attackSoldier _ 1 1) ++ mainEvents 11 ++ [.cancel] ++ mainEvents 9

set_option synthInstance.maxSize 400 in
/-- The log of the cancelled game tells its first turn, and has the error of player 2 in it. -/
theorem log_tells_game_sample : ∃ (st : State ℚ)
    (s : System PlayerId (PlayerState sampleRules.toConstants) (Simulation ℚ)) (log : Proto.Game)
    (inputs : List (Input sampleRules.toConstants)) (past : List (Turn ℚ)),
    buildState sampleRules.toConstants = .ok st ∧
    (recorded (sampleGameConfig st)).Reachable (s, inputs) ∧ s.main.pc = .returned .cancelled ∧
    s.main.game.logFile = [log] ∧ Game sampleRules past s.main.game.state ∧ past.length = 1 ∧
    inputs.length = 1 ∧ Tells sampleRules st past inputs log ∧
    readErrors log 1 =
      some [[], [some "NO_ATTACK_SELF_SOLDIER: Attack enemy's soldier only"]] := by
  have hrun : ((buildState sampleRules.toConstants).toOption.bind fun st : State ℚ =>
      (cancelledEvents.foldlM (System.step (sampleGameConfig st))
        (started (sampleGameConfig st) (.quiet sampleRules.toConstants))).bind fun s =>
      some (s.main.pc, s.main.turn, s.main.game.state.actorIdIncrement,
        s.main.game.logger.errorMap.length, decide (s.main.game.logFile.map (readErrors · 1) =
          [some [[], [some "NO_ATTACK_SELF_SOLDIER: Attack enemy's soldier only"]]]))) =
      some (.returned .cancelled, 1, 5, 1, true) := by
    decide +kernel
  obtain ⟨st, hst, hrun⟩ := exists_of_toOption_bind hrun
  obtain ⟨s, hs, hrun⟩ := Option.bind_eq_some_iff.mp hrun
  simp only [Option.some.injEq, Prod.mk.injEq, decide_eq_true_eq] at hrun
  obtain ⟨hpc, hturn, hid, hcode, herrors⟩ := hrun
  obtain ⟨log, hfile, ⟨inputs, hinputs⟩, hall⟩ := log_tells_game fitsLog_sampleRules hst
    (reachable_of_foldlM hs) hpc (by rw [hid]; decide) (by rw [hcode]; decide)
  obtain ⟨hexecuted, past, hgame, hlength, htells⟩ := hall inputs hinputs
  rw [hfile] at herrors
  exact ⟨st, s, log, inputs, past, hst, hinputs, hpc, hfile, hgame, hlength.trans hturn,
    hexecuted.trans hturn, htells, (List.cons.inj herrors).1⟩

end Drivers

end Simulator
