import Simulator.Drivers.System

/-!
# Cancelling a game

`Cancel` sets a flag and waits until it is cleared.  `Run` tests the flag in two places,
both inside the loop over the players, and clears it on the exit it takes when it has seen
it.  On its other two exits it does not look at the flag at all, so that `Cancel` waits
forever if `Run` is not going to test it again.

`WillTest` says where `Run` is going to test the flag whatever happens.  Where it does not
hold, the timer may fire before `Run` gets to the next test, or there is no next test.
-/

namespace Simulator

open Foundation Function

variable {ι PS G : Type} [DecidableEq ι] {cfg : Drivers.Config ι PS G}

/-- No call of the state syncer throws. -/
structure Callees.Returns (callees : Callees ι PS G) : Prop where
  executePlayerCommands : ∀ playerStates skip game,
    ∃ game', callees.executePlayerCommands playerStates skip game = .ok game'
  updateMainState : ∀ game, ∃ game', callees.updateMainState game = .ok game'
  updatePlayerStates : ∀ game playerStates, ∃ game' states,
    callees.updatePlayerStates game playerStates = .ok (game', states)

namespace MainDriver

/-- Every way on from here tests the flag, or has tested it and is going to clear it. -/
def WillTest (cfg : Drivers.Config ι PS G) (m : MainDriver ι G) : Prop :=
  match m.pc with
  | .initRunning _ | .initCounter _ _ | .initPlayerStates | .startTimer | .turnHead =>
    m.turn < cfg.maxNoTurns ∧ cfg.players ≠ []
  | .playerHead rest | .checkLimitGame _ rest | .checkLimitTurn _ rest
  | .logInstructionCount _ rest => rest ≠ []
  | .waitRunning _ _ | .waitTimedOut _ _ | .waitCancel _ _ | .checkCancel _ _ => True
  | .executePlayerCommands | .updateMainState | .updatePlayerStates =>
    m.turn + 1 < cfg.maxNoTurns ∧ cfg.players ≠ []
  | .checkEnd | .getScores | .returned _ => False
  | .logFinalGameParams ending | .writeGame ending | .cancelTimer ending => ending = .cancelled
  | .clearCancel => True

variable {m m' : MainDriver ι G} {buffers buffers' : ι → SharedBuffer PS}

/-- **A flag that is set is not missed**: a step leads closer to the test, or clears it. -/
theorem WillTest.step (h : WillTest cfg m) (hcancel : m.cancel = true)
    (hstep : MainDriver.step cfg m buffers = some (m', buffers')) :
    m'.cancel = false ∨ WillTest cfg m' := by
  unfold WillTest at h
  cases steps_of_step hstep with
  | initEnd hpc | initRunning hpc | initCounter hpc | initPlayerStates hpc | startTimer hpc
  | exceedsGame hpc | withinGame hpc | checkLimitTurn hpc | logInstructionCount hpc
  | executePlayerCommands hpc | updateMainState hpc | updatePlayerStates hpc
  | logFinalGameParams hpc | writeGame hpc =>
    simp only [hpc] at h
    exact .inr h
  | turnBegins hpc =>
    simp only [hpc] at h
    exact .inr h.2
  | turnsEnd hpc hturn =>
    simp only [hpc] at h
    exact absurd h.1 hturn
  | setRunning | running | notRunning | timedOut | notTimedOut | cancelSeen | waitOn =>
    exact .inr trivial
  | cancelled => exact .inr rfl
  | notCancelled _ hcancel' => simp [hcancel] at hcancel'
  | stopsToClear => exact .inr trivial
  | stops hpc hending =>
    simp only [hpc] at h
    exact absurd h hending
  | clearCancel => exact .inl rfl
  | playersEnd hpc | aborted hpc | notAborted hpc | getScores hpc => simp [hpc] at h

/-- How far it is to the end of `Run` at most, if the flag is not tested before. -/
def Pc.distance : Pc ι → ℕ
  | .initRunning rest => 18 + 2 * rest.length
  | .initCounter _ rest => 19 + 2 * rest.length
  | .initPlayerStates => 17
  | .startTimer => 16
  | .executePlayerCommands => 15
  | .updateMainState => 14
  | .updatePlayerStates => 13
  | .turnHead => 12
  | .checkLimitGame _ _ => 11
  | .checkLimitTurn _ _ => 10
  | .logInstructionCount _ _ => 9
  | .playerHead _ => 8
  | .checkEnd => 7
  | .getScores => 6
  | .logFinalGameParams _ => 5
  | .writeGame _ => 4
  | .cancelTimer _ => 3
  | .waitRunning _ _ | .waitTimedOut _ _ | .waitCancel _ _ | .checkCancel _ _ | .clearCancel
  | .returned _ => 0

/-- **A flag that may be missed**: once the timer has fired, a step leads closer to the end,
and does not test the flag. -/
theorem exists_step_of_not_willTest (hreturns : cfg.callees.Returns) (h : ¬ WillTest cfg m)
    (hpc : ∀ ending, m.pc ≠ .returned ending)
    (htimedOut : m.pc = .checkEnd → m.isGameTimedOut = true) (buffers : ι → SharedBuffer PS) :
    ∃ m' buffers', MainDriver.step cfg m buffers = some (m', buffers') ∧ ¬ WillTest cfg m' ∧
      m'.cancel = m.cancel ∧ m'.pc.distance < m.pc.distance := by
  unfold WillTest at h
  cases hpc' : m.pc with
  | initRunning rest =>
    cases rest with
    | nil | cons =>
      simp only [MainDriver.step, hpc', Option.some.injEq, Prod.mk.injEq] at h ⊢
      exact ⟨_, _, ⟨rfl, rfl⟩, h, rfl, by simp only [Pc.distance, List.length_cons]; omega⟩
  | initCounter p rest =>
    simp only [MainDriver.step, hpc', Option.some.injEq, Prod.mk.injEq] at h ⊢
    exact ⟨_, _, ⟨rfl, rfl⟩, h, rfl, by simp only [Pc.distance]; omega⟩
  | startTimer | checkLimitTurn | logInstructionCount | logFinalGameParams | writeGame =>
    simp only [MainDriver.step, hpc', Option.some.injEq, Prod.mk.injEq] at h ⊢
    exact ⟨_, _, ⟨rfl, rfl⟩, h, rfl, by simp [Pc.distance]⟩
  | initPlayerStates =>
    obtain ⟨game', states, hcall⟩ := hreturns.updatePlayerStates m.game (playerStates buffers)
    simp only [MainDriver.step, hpc', hcall, Option.some.injEq, Prod.mk.injEq] at h ⊢
    exact ⟨_, _, ⟨rfl, rfl⟩, h, rfl, by simp [Pc.distance]⟩
  | executePlayerCommands =>
    obtain ⟨game', hcall⟩ :=
      hreturns.executePlayerCommands (playerStates buffers) m.skipPlayerTurn m.game
    simp only [MainDriver.step, hpc', hcall, Option.some.injEq, Prod.mk.injEq] at h ⊢
    exact ⟨_, _, ⟨rfl, rfl⟩, h, rfl, by simp [Pc.distance]⟩
  | updateMainState =>
    obtain ⟨game', hcall⟩ := hreturns.updateMainState m.game
    simp only [MainDriver.step, hpc', hcall, Option.some.injEq, Prod.mk.injEq] at h ⊢
    exact ⟨_, _, ⟨rfl, rfl⟩, h, rfl, by simp [Pc.distance]⟩
  | updatePlayerStates =>
    obtain ⟨game', states, hcall⟩ := hreturns.updatePlayerStates m.game (playerStates buffers)
    simp only [MainDriver.step, hpc', hcall, Option.some.injEq, Prod.mk.injEq] at h ⊢
    exact ⟨_, _, ⟨rfl, rfl⟩, h, rfl, by simp [Pc.distance]⟩
  | turnHead =>
    simp only [MainDriver.step, hpc', Option.some.injEq, Prod.mk.injEq] at h ⊢
    refine ⟨_, _, ⟨rfl, rfl⟩, ?_⟩
    by_cases hturn : m.turn < cfg.maxNoTurns
    · simp only [WillTest, if_pos hturn]
      exact ⟨fun hplayers => h ⟨hturn, hplayers⟩, trivial, by simp [Pc.distance]⟩
    · simp only [WillTest, if_neg hturn]
      exact ⟨id, trivial, by simp [Pc.distance]⟩
  | playerHead rest =>
    simp only [hpc', ne_eq, not_not] at h
    subst h
    simp only [MainDriver.step, hpc', Option.some.injEq, Prod.mk.injEq]
    exact ⟨_, _, ⟨rfl, rfl⟩, id, rfl, by simp [Pc.distance]⟩
  | checkLimitGame p rest =>
    simp only [MainDriver.step, hpc'] at h ⊢
    split
    · exact ⟨_, _, rfl, h, rfl, by simp [Pc.distance]⟩
    · exact ⟨_, _, rfl, h, rfl, by simp [Pc.distance]⟩
  | checkEnd =>
    simp only [MainDriver.step, hpc', htimedOut hpc', Option.some.injEq, Prod.mk.injEq]
    exact ⟨_, _, ⟨rfl, rfl⟩, by simp [WillTest], rfl, by simp [Pc.distance]⟩
  | getScores =>
    simp only [MainDriver.step, hpc', Option.some.injEq, Prod.mk.injEq]
    exact ⟨_, _, ⟨rfl, rfl⟩, by simp [WillTest], rfl, by simp [Pc.distance]⟩
  | cancelTimer ending =>
    simp only [MainDriver.step, hpc', Option.some.injEq, Prod.mk.injEq] at h ⊢
    exact ⟨_, _, ⟨rfl, rfl⟩, by simp [WillTest, h], rfl, by simp [Pc.distance, h]⟩
  | waitRunning | waitTimedOut | waitCancel | checkCancel | clearCancel => simp [hpc'] at h
  | returned ending => exact absurd hpc' (hpc ending)

/-- The timer has not been started yet. -/
def Pc.IsStarting : Pc ι → Prop
  | .initRunning _ | .initCounter _ _ | .initPlayerStates | .startTimer => True
  | _ => False

/-- The main driver does not set the cancel flag, and starts the timer before the turns. -/
theorem step_flags (hstep : MainDriver.step cfg m buffers = some (m', buffers')) :
    (m'.cancel = true → m.cancel = true) ∧ (m.pc.IsStarting ∨ m.isTimerRunning = true →
      m'.pc.IsStarting ∨ m'.isTimerRunning = true) := by
  cases steps_of_step hstep with
  | initEnd | initRunning | initCounter | initPlayerStates => exact ⟨id, fun _ => .inl trivial⟩
  | startTimer => exact ⟨id, fun _ => .inr rfl⟩
  | clearCancel hpc => exact ⟨nofun, by simp [hpc, Pc.IsStarting]⟩
  | turnBegins hpc | turnsEnd hpc | playersEnd hpc | setRunning hpc | running hpc | notRunning hpc
  | timedOut hpc | notTimedOut hpc | cancelSeen hpc | waitOn hpc | cancelled hpc | notCancelled hpc
  | exceedsGame hpc | withinGame hpc | checkLimitTurn hpc | logInstructionCount hpc | aborted hpc
  | notAborted hpc | executePlayerCommands hpc | updateMainState hpc | updatePlayerStates hpc
  | getScores hpc | logFinalGameParams hpc | writeGame hpc | stopsToClear hpc | stops hpc =>
    exact ⟨id, Or.imp (fun hstarting => by simp [hpc, Pc.IsStarting] at hstarting) id⟩

end MainDriver

namespace Drivers

variable {s s' : System ι PS G}

/-- `Run` has returned, and `Cancel` waits for a flag that nobody is going to clear. -/
def System.Wedged (s : System ι PS G) : Prop :=
  (∃ ending, s.main.pc = .returned ending) ∧ s.main.cancel = true ∧ s.cancelCall = .waiting

/-- `Cancel` was called, and if `Run` has not cleared the flag, it is going to test it. -/
def InTime (cfg : Config ι PS G) (s : System ι PS G) : Prop :=
  s.cancelCall ≠ .notCalled ∧ (s.main.cancel = true → MainDriver.WillTest cfg s.main)

omit [DecidableEq ι] in
theorem InTime.not_wedged (h : InTime cfg s) : ¬ s.Wedged := fun ⟨⟨ending, hpc⟩, hcancel, _⟩ => by
  have htest := h.2 hcancel
  simp [MainDriver.WillTest, hpc] at htest

/-- **Every step keeps the call in time.** -/
theorem InTime.step (h : InTime cfg s) {e : Event ι PS} (hstep : s.step cfg e = some s') :
    InTime cfg s' := by
  cases e with
  | main =>
    obtain ⟨⟨m', buffers'⟩, hrun, rfl⟩ := Option.map_eq_some_iff.mp hstep
    refine ⟨h.1, ?_⟩
    intro hcancel
    have hset := (MainDriver.step_flags hrun).1 hcancel
    refine ((h.2 hset).step hset hrun).resolve_left ?_
    intro hcleared
    simp [hcleared] at hcancel
  | player | codeWrites | codeReturns =>
    obtain ⟨⟨d', b'⟩, -, rfl⟩ := Option.map_eq_some_iff.mp hstep
    exact h
  | mainTimer =>
    simp only [System.step] at hstep
    split at hstep
    · obtain rfl := Option.some.inj hstep
      exact h
    · simp at hstep
  | playerTimer =>
    obtain rfl := Option.some.inj hstep
    exact h
  | cancel => simp [System.step, h.1] at hstep
  | cancelReturns =>
    simp only [System.step] at hstep
    split at hstep
    · obtain rfl := Option.some.inj hstep
      exact ⟨by simp, h.2⟩
    · simp at hstep

/-! ## A call that comes too late -/

/-- The timer runs in the turns. -/
theorem inductive_timer (cfg : Config ι PS G) :
    (system cfg).Inductive fun s => s.main.pc.IsStarting ∨ s.main.isTimerRunning = true := by
  refine ⟨fun s h => .inl ?_, ?_⟩
  · rw [h.main_eq]
    trivial
  · intro s e s' h hstep
    obtain ⟨-, m', buffers', hrun, rfl⟩ | ⟨-, _, _, -, hmain⟩ := System.step_cases hstep
    · exact (MainDriver.step_flags hrun).2 h
    · rwa [hmain]

theorem exists_timedOut (h : (system cfg).Reachable s) (hpc : s.main.pc = .checkEnd) :
    (system cfg).Reaches s { s with main.isGameTimedOut := true } := by
  have htimer := (inductive_timer cfg).reachable h
  have hrunning : s.main.isTimerRunning = true := by
    simpa [hpc, MainDriver.Pc.IsStarting] using htimer
  exact TransitionSystem.Reaches.refl.tail (e := .mainTimer)
    (by simp [system, System.step, hrunning])

/-- **A call that comes too late may wait forever.**  The induction is on the way that
`Run` has to its end. -/
theorem exists_wedged (hreturns : cfg.callees.Returns) (n : ℕ) :
    ∀ s, (system cfg).Reachable s → s.main.cancel = true → s.cancelCall = .waiting →
      ¬ MainDriver.WillTest cfg s.main → s.main.pc.distance = n →
      ∃ s', (system cfg).Reaches s s' ∧ s'.Wedged := by
  induction n using Nat.strong_induction_on with
  | _ n ih =>
    intro s h hcancel hwaiting htest hn
    by_cases hreturned : ∃ ending, s.main.pc = .returned ending
    · exact ⟨s, .refl, hreturned, hcancel, hwaiting⟩
    -- at the end of a turn the timer fires first
    obtain ⟨s₁, hreach, hpc₁, htest₁, hcancel₁, hwaiting₁, htimedOut⟩ :
        ∃ s₁, (system cfg).Reaches s s₁ ∧ s₁.main.pc = s.main.pc ∧
          ¬ MainDriver.WillTest cfg s₁.main ∧ s₁.main.cancel = true ∧ s₁.cancelCall = .waiting ∧
          (s₁.main.pc = .checkEnd → s₁.main.isGameTimedOut = true) := by
      by_cases hend : s.main.pc = .checkEnd
      · exact ⟨_, exists_timedOut h hend, rfl, htest, hcancel, hwaiting, fun _ => rfl⟩
      · exact ⟨s, .refl, rfl, htest, hcancel, hwaiting, fun hpc => absurd hpc hend⟩
    obtain ⟨m', buffers', hstep, htest', hcancel', hlt⟩ :=
      MainDriver.exists_step_of_not_willTest hreturns htest₁
        (fun ending hpc => hreturned ⟨ending, hpc₁ ▸ hpc⟩) htimedOut s₁.buffers
    have hmain : (system cfg).step s₁ .main = some { s₁ with main := m', buffers := buffers' } := by
      simp [system, System.step, hstep]
    have hreach' := hreach.tail hmain
    rw [hpc₁, hn] at hlt
    obtain ⟨s', hs', hwedged⟩ := ih _ hlt _ (h.reaches hreach') (hcancel'.trans hcancel₁)
      hwaiting₁ htest' rfl
    exact ⟨s', hreach'.trans hs', hwedged⟩

/-- **When cancelling wedges.**  If `Cancel` sets the flag when `Run` is going to test it,
then in no interleaving from there does `Run` return and leave `Cancel` waiting.  If not,
then some interleaving from there does. -/
theorem wedged_iff_not_willTest (h : (system cfg).Reachable s)
    (hcancel : s.step cfg .cancel = some s') :
    (MainDriver.WillTest cfg s.main → ∀ s'', (system cfg).Reaches s' s'' → ¬ s''.Wedged) ∧
      (cfg.callees.Returns → ¬ MainDriver.WillTest cfg s.main →
        ∃ s'', (system cfg).Reaches s' s'' ∧ s''.Wedged) := by
  have hreachable : (system cfg).Reachable s' := h.reaches (.tail (e := .cancel) .refl hcancel)
  simp only [System.step] at hcancel
  split at hcancel
  · obtain rfl := Option.some.inj hcancel
    constructor
    · intro htest s'' hs''
      have htime : InTime cfg { s with main.cancel := true, cancelCall := .waiting } :=
        ⟨by simp, fun _ => htest⟩
      exact (hs''.invariant (fun _ _ _ hs hstep => hs.step hstep) htime).not_wedged
    · intro hreturns htest
      exact exists_wedged hreturns _ _ hreachable rfl rfl htest rfl
  · simp at hcancel

/-- The small interleaving until the counts of both players were logged. -/
def lateEvents : List (Event PlayerId Unit) :=
  mainEvents 8 ++ playEvents .player1 7 ++ mainEvents 5 ++ playEvents .player2 8 ++ mainEvents 5

omit [DecidableEq ι] in
/-- `Cancel` may set the flag when `Start` is called, but not after the counts of the last
turn were logged. -/
theorem wedged_iff_not_willTest_sample :
    (∃ s', (started sampleConfig ()).step sampleConfig .cancel = some s' ∧
      ∀ s'', (system sampleConfig).Reaches s' s'' → ¬ s''.Wedged) ∧
    ∃ s s', (system sampleConfig).Reachable s ∧ s.step sampleConfig .cancel = some s' ∧
      s.main.pc = .playerHead [] ∧ ∃ s'', (system sampleConfig).Reaches s' s'' ∧ s''.Wedged := by
  constructor
  · have hreachable : (system sampleConfig).Reachable (started sampleConfig ()) :=
      ⟨_, isStarted_started sampleConfig (), .refl⟩
    exact ⟨_, rfl, (wedged_iff_not_willTest hreachable rfl).1 ⟨by decide, by decide⟩⟩
  · have hrun : (lateEvents.foldlM (System.step sampleConfig) (started sampleConfig ())).map
        (fun s => (s.main.pc, s.cancelCall)) = some (.playerHead [], .notCalled) := by
      decide +kernel
    obtain ⟨s, hs, heq⟩ := Option.map_eq_some_iff.mp hrun
    obtain ⟨hpc, hcall⟩ := Prod.mk.inj heq
    have hreachable := reachable_of_foldlM hs
    have hcancel : s.step sampleConfig .cancel =
        some { s with main.cancel := true, cancelCall := .waiting } := if_pos hcall
    have hreturns : sampleConfig.callees.Returns :=
      ⟨fun _ _ _ => ⟨(), rfl⟩, fun _ => ⟨(), rfl⟩, fun _ states => ⟨(), states, rfl⟩⟩
    exact ⟨s, _, hreachable, hcancel, hpc, (wedged_iff_not_willTest hreachable hcancel).2 hreturns
      (by simp [MainDriver.WillTest, hpc])⟩

omit [DecidableEq ι] in
/-- The game is over before `Run` has looked at the flag again. -/
theorem wedged_sample : ¬ ∀ s, (system sampleConfig).Reachable s → ¬ s.Wedged := by
  intro h
  let events : List (Event PlayerId Unit) := lateEvents ++ [.cancel] ++ mainEvents 10
  have hrun : (events.foldlM (System.step sampleConfig) (started sampleConfig ())).map
      (fun s => (s.main.pc, s.main.cancel, s.cancelCall)) =
      some (.returned .completed, true, .waiting) := by
    decide +kernel
  obtain ⟨s, hs, heq⟩ := Option.map_eq_some_iff.mp hrun
  simp only [Prod.mk.injEq] at heq
  exact h s (reachable_of_foldlM hs) ⟨⟨_, heq.1⟩, heq.2⟩

end Drivers

end Simulator
