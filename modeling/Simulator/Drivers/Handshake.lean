import Simulator.Drivers.System

/-!
# The handshake

In a turn the main driver sets the flag of each player in turn and waits until it is
reset; the player driver waits until the flag is set, runs the player's code, writes its
instruction count, and resets the flag.  So the flag says whose the buffer is, and the
state syncer works on the buffers when they are all the main driver's.

There are other ways out of the waiting loop of the main driver, the timeout and the
cancellation, but none of them leads to the state syncer: the timeout is tested again at
the end of the turn, and is never taken back.  `PlayerInSync` is what holds of one player
at all times; `MainInSync` is what the main driver knows of the players, depending on
where it is.
-/

namespace Simulator

open Foundation Function

variable {ι PS G : Type}

namespace Drivers

/-! ## One player -/

/-- The code has not returned since the flag was set, if it is set. -/
def owesCall : PlayerDriver.Pc → Bool
  | .writeCountToShm _ | .resetRunning => false
  | _ => true

/-- The count has not been written since the flag was set, if it is set. -/
def owesCount : PlayerDriver.Pc → Bool
  | .resetRunning => false
  | _ => true

/-- A player driver and its buffer, when the flag was set `opened` times. -/
structure PlayerInSync (opened : ℕ) (d : PlayerDriver) (b : SharedBuffer PS) : Prop where
  running_of_isBusy : d.pc.IsBusy → b.isPlayerRunning = true
  /-- The waiting loop ends without the flag being seen only if the timer has fired. -/
  timedOut : d.pc = .checkTimedOut false → d.isGameTimedOut = true
  calls : d.calls + (b.isPlayerRunning && owesCall d.pc).toNat = opened
  written : d.written.length + (b.isPlayerRunning && owesCount d.pc).toNat = opened
  counter : b.instructionCounter = d.written.getLast?.getD 0

namespace PlayerInSync

variable {opened maxNoTurns : ℕ} {d d' : PlayerDriver} {b b' : SharedBuffer PS}

/-- **A step of the player driver** keeps it in sync. -/
theorem step (h : PlayerInSync opened d b)
    (hstep : PlayerDriver.step maxNoTurns d b = some (d', b')) : PlayerInSync opened d' b' := by
  obtain ⟨hbusy, htimedOut, hcalls, hwritten, hcounter⟩ := h
  cases hpc : d.pc with
  | code | finished => simp [PlayerDriver.step, hpc] at hstep
  | turnHead | waitRunning | waitTimedOut | checkTimedOut sawRunning =>
    -- a load, after which as many calls and counts are owed as before
    simp only [PlayerDriver.step, hpc, Option.some.injEq, Prod.mk.injEq] at hstep
    obtain ⟨rfl, rfl⟩ := hstep
    simp only [hpc, owesCall, owesCount] at hcalls hwritten
    simp only [hpc, PlayerDriver.Pc.IsBusy] at hbusy
    rw [hpc] at htimedOut
    refine ⟨?_, ?_, ?_, ?_, hcounter⟩
    all_goals
      dsimp only
      split <;> simp_all [owesCall, owesCount, PlayerDriver.Pc.IsBusy]
  | writeCountToShm n =>
    simp only [PlayerDriver.step, hpc, Option.some.injEq, Prod.mk.injEq] at hstep
    obtain ⟨rfl, rfl⟩ := hstep
    have hrunning := hbusy (by rw [hpc]; trivial)
    simp only [hpc, hrunning, owesCall, owesCount] at hcalls hwritten
    exact ⟨fun _ => hrunning, nofun, by simpa [owesCall] using hcalls,
      by simpa [owesCount] using hwritten, by simp⟩
  | resetRunning =>
    simp only [PlayerDriver.step, hpc, Option.some.injEq, Prod.mk.injEq] at hstep
    obtain ⟨rfl, rfl⟩ := hstep
    simp only [hpc, owesCall, owesCount] at hcalls hwritten
    exact ⟨fun h => h.elim, nofun, by simpa using hcalls, by simpa using hwritten, hcounter⟩

/-- While the flag is reset, the player's code is not running. -/
theorem pc_ne_code (h : PlayerInSync opened d b) (hidle : b.isPlayerRunning = false) :
    d.pc ≠ .code := fun hpc => by
  have hrunning := h.running_of_isBusy (by rw [hpc]; trivial)
  simp [hidle] at hrunning

theorem pc_eq_of_codeWrites {playerState : PS}
    (hstep : PlayerDriver.codeWrites playerState d b = some (d', b')) :
    d.pc = .code ∧ d' = d ∧ b' = { b with playerState } := by
  cases hpc : d.pc with
  | code =>
    simp only [PlayerDriver.codeWrites, hpc, Option.some.injEq, Prod.mk.injEq] at hstep
    exact ⟨rfl, hstep.1.symm, hstep.2.symm⟩
  | turnHead | waitRunning | waitTimedOut | checkTimedOut _ | writeCountToShm _ | resetRunning
  | finished => simp [PlayerDriver.codeWrites, hpc] at hstep

theorem pc_eq_of_codeReturns {instructionCount : ℤ}
    (hstep : PlayerDriver.codeReturns instructionCount d b = some (d', b')) :
    d.pc = .code ∧
      d' = { d with pc := .writeCountToShm instructionCount, calls := d.calls + 1 } ∧ b' = b := by
  cases hpc : d.pc with
  | code =>
    simp only [PlayerDriver.codeReturns, hpc, Option.some.injEq, Prod.mk.injEq] at hstep
    exact ⟨rfl, hstep.1.symm, hstep.2.symm⟩
  | turnHead | waitRunning | waitTimedOut | checkTimedOut _ | writeCountToShm _ | resetRunning
  | finished => simp [PlayerDriver.codeReturns, hpc] at hstep

theorem codeReturns (h : PlayerInSync opened d b) (hpc : d.pc = .code) (instructionCount : ℤ) :
    PlayerInSync opened
      { d with pc := .writeCountToShm instructionCount, calls := d.calls + 1 } b := by
  have hrunning := h.running_of_isBusy (by rw [hpc]; trivial)
  have hcalls := h.calls
  have hwritten := h.written
  simp only [hpc, hrunning, owesCall, owesCount] at hcalls hwritten
  exact ⟨fun _ => hrunning, nofun, by simpa [owesCall] using hcalls,
    by simpa [hrunning, owesCount] using hwritten, h.counter⟩

theorem timeOut (h : PlayerInSync opened d b) : PlayerInSync opened d.timeOut b :=
  ⟨h.running_of_isBusy, fun _ => rfl, h.calls, h.written, h.counter⟩

/-- A player whose flag is reset is not busy, and owes nothing. -/
theorem of_not_running (h : PlayerInSync opened d b) (hidle : b.isPlayerRunning = false) :
    ¬ d.pc.IsBusy ∧ d.calls = opened ∧ d.written.length = opened := by
  refine ⟨?_, by simpa [hidle] using h.calls, by simpa [hidle] using h.written⟩
  intro hbusy
  simpa [hidle] using h.running_of_isBusy hbusy

theorem setRunning (h : PlayerInSync opened d b) (hidle : b.isPlayerRunning = false) :
    PlayerInSync (opened + 1) d { b with isPlayerRunning := true } := by
  obtain ⟨hquiet, hcalls, hwritten⟩ := h.of_not_running hidle
  have howes : owesCall d.pc = true ∧ owesCount d.pc = true := by
    cases hpc : d.pc <;> simp [hpc, owesCall, owesCount, PlayerDriver.Pc.IsBusy] at hquiet ⊢
  exact ⟨fun _ => rfl, h.timedOut, by simp [howes, hcalls], by simp [howes, hwritten], h.counter⟩

end PlayerInSync

/-! ## What the main driver knows -/

section Main

/-- The player has not been given its turn yet. -/
def Idle (m : MainDriver ι G) (buffers : ι → SharedBuffer PS) (p : ι) : Prop :=
  (buffers p).isPlayerRunning = false ∧ m.opened p = m.turn

/-- The player has had its turn, and what was read of its counter is what is there. -/
def Served (m : MainDriver ι G) (buffers : ι → SharedBuffer PS) (p : ι) : Prop :=
  (buffers p).isPlayerRunning = false ∧ m.opened p = m.turn + 1 ∧ m.reads p ≠ [] ∧
    ∀ n ∈ m.reads p, n = (buffers p).instructionCounter

/-- The player has had its turn, or the timer has fired. -/
def Done (m : MainDriver ι G) (buffers : ι → SharedBuffer PS) (p : ι) : Prop :=
  Served m buffers p ∨ m.isGameTimedOut = true

/-- The main driver is in the round of player `p`; the rounds of `rest` are to come. -/
structure Round (cfg : Config ι PS G) (m : MainDriver ι G) (buffers : ι → SharedBuffer PS)
    (p : ι) (rest : List ι) : Prop where
  nodup : (p :: rest).Nodup
  opened_eq : m.opened p = m.turn + 1
  idle : ∀ q ∈ rest, Idle m buffers q
  done : ∀ q ∈ cfg.players, q ∉ p :: rest → Done m buffers q

/-- **What the main driver knows** of the players, depending on where it is. -/
def MainInSync (cfg : Config ι PS G) (m : MainDriver ι G) (buffers : ι → SharedBuffer PS) : Prop :=
  match m.pc with
  | .initRunning _ | .initCounter _ _ | .initPlayerStates | .startTimer =>
    m.turn = 0 ∧ ∀ p, (buffers p).isPlayerRunning = false ∧ m.opened p = 0
  | .turnHead => ∀ p ∈ cfg.players, Idle m buffers p
  | .playerHead rest => rest.Nodup ∧ (∀ p ∈ rest, Idle m buffers p) ∧
      ∀ p ∈ cfg.players, p ∉ rest → Done m buffers p
  | .waitRunning p rest | .waitTimedOut p rest | .waitCancel p rest =>
    Round cfg m buffers p rest ∧ m.reads p = []
  | .checkCancel p rest => (Round cfg m buffers p rest ∧ m.reads p = []) ∧
      ((buffers p).isPlayerRunning = false ∨ m.isGameTimedOut = true ∨ m.cancel = true)
  | .checkLimitGame p rest => (Round cfg m buffers p rest ∧ m.reads p = []) ∧
      ((buffers p).isPlayerRunning = false ∨ m.isGameTimedOut = true)
  | .checkLimitTurn p rest | .logInstructionCount p rest =>
    Round cfg m buffers p rest ∧ Done m buffers p
  | .checkEnd => ∀ p ∈ cfg.players, Done m buffers p
  | .executePlayerCommands | .updateMainState | .updatePlayerStates =>
    ∀ p ∈ cfg.players, Served m buffers p
  | .getScores | .logFinalGameParams _ | .writeGame _ | .cancelTimer _ | .clearCancel
  | .returned _ => True

/-- What happens behind the back of the main driver: flags may be reset, timers fire, the
game is cancelled. -/
structure Elsewhere (m m' : MainDriver ι G) (buffers buffers' : ι → SharedBuffer PS) : Prop where
  pc_eq : m'.pc = m.pc
  turn_eq : m'.turn = m.turn
  opened_eq : m'.opened = m.opened
  reads_eq : m'.reads = m.reads
  timedOut : m.isGameTimedOut = true → m'.isGameTimedOut = true
  cancel : m.cancel = true → m'.cancel = true
  /-- While its flag is reset, a player does not touch its buffer. -/
  buffers_eq : ∀ p, (buffers p).isPlayerRunning = false → (buffers' p).isPlayerRunning = false ∧
    (buffers' p).instructionCounter = (buffers p).instructionCounter

namespace Elsewhere

variable {cfg : Config ι PS G} {m m' : MainDriver ι G} {buffers buffers' : ι → SharedBuffer PS}
  {p : ι} {rest : List ι}

theorem idle (h : Elsewhere m m' buffers buffers') (hp : Idle m buffers p) : Idle m' buffers' p :=
  ⟨(h.buffers_eq p hp.1).1, by rw [h.opened_eq, h.turn_eq]; exact hp.2⟩

theorem served (h : Elsewhere m m' buffers buffers') (hp : Served m buffers p) :
    Served m' buffers' p := by
  obtain ⟨hidle, hopened, hread, hreads⟩ := hp
  obtain ⟨hidle', hcounter⟩ := h.buffers_eq p hidle
  refine ⟨hidle', by rw [h.opened_eq, h.turn_eq]; exact hopened, by rw [h.reads_eq]; exact hread,
    fun n hn => ?_⟩
  rw [h.reads_eq] at hn
  rw [hcounter]
  exact hreads n hn

theorem done (h : Elsewhere m m' buffers buffers') (hp : Done m buffers p) : Done m' buffers' p :=
  hp.imp h.served h.timedOut

theorem round (h : Elsewhere m m' buffers buffers') (hr : Round cfg m buffers p rest) :
    Round cfg m' buffers' p rest where
  nodup := hr.nodup
  opened_eq := by rw [h.opened_eq, h.turn_eq]; exact hr.opened_eq
  idle := fun q hq => h.idle (hr.idle q hq)
  done := fun q hq hne => h.done (hr.done q hq hne)

/-- The main driver does not unlearn what it knows. -/
theorem mainInSync (h : Elsewhere m m' buffers buffers') (hm : MainInSync cfg m buffers) :
    MainInSync cfg m' buffers' := by
  unfold MainInSync at hm ⊢
  rw [h.pc_eq]
  cases hpc : m.pc <;> simp only [hpc] at hm ⊢
  case initRunning | initCounter | initPlayerStates | startTimer =>
    exact ⟨h.turn_eq.trans hm.1, fun p =>
      ⟨(h.buffers_eq p (hm.2 p).1).1, by rw [h.opened_eq]; exact (hm.2 p).2⟩⟩
  case turnHead => exact fun p hp => h.idle (hm p hp)
  case playerHead =>
    exact ⟨hm.1, fun p hp => h.idle (hm.2.1 p hp), fun p hp hne => h.done (hm.2.2 p hp hne)⟩
  case waitRunning | waitTimedOut | waitCancel =>
    exact ⟨h.round hm.1, by rw [h.reads_eq]; exact hm.2⟩
  case checkCancel =>
    exact ⟨⟨h.round hm.1.1, by rw [h.reads_eq]; exact hm.1.2⟩,
      hm.2.imp (fun hidle => (h.buffers_eq _ hidle).1) (Or.imp h.timedOut h.cancel)⟩
  case checkLimitGame =>
    exact ⟨⟨h.round hm.1.1, by rw [h.reads_eq]; exact hm.1.2⟩,
      hm.2.imp (fun hidle => (h.buffers_eq _ hidle).1) h.timedOut⟩
  case checkLimitTurn | logInstructionCount => exact ⟨h.round hm.1, h.done hm.2⟩
  case checkEnd => exact fun p hp => h.done (hm p hp)
  case executePlayerCommands | updateMainState | updatePlayerStates =>
    exact fun p hp => h.served (hm p hp)

end Elsewhere

/-! ## A step of the main driver -/

variable {cfg : Config ι PS G} {m m' : MainDriver ι G} {buffers buffers' : ι → SharedBuffer PS}
  {p : ι} {rest : List ι} {drivers : ι → PlayerDriver}

theorem Round.mono (h : Round cfg m buffers p rest) (hturn : m'.turn = m.turn)
    (hopened : m'.opened = m.opened) (hreads : ∀ q, q ≠ p → m'.reads q = m.reads q)
    (htimedOut : m'.isGameTimedOut = m.isGameTimedOut) : Round cfg m' buffers p rest where
  nodup := h.nodup
  opened_eq := by rw [hopened, hturn]; exact h.opened_eq
  idle := fun q hq => ⟨(h.idle q hq).1, by rw [hopened, hturn]; exact (h.idle q hq).2⟩
  done := fun q hq hne => by
    have hqp : q ≠ p := fun heq => hne (heq ▸ List.mem_cons_self ..)
    refine (h.done q hq hne).imp ?_ fun hfired => htimedOut ▸ hfired
    intro hserved
    rw [Served, hopened, hturn, hreads q hqp]
    exact hserved

variable [DecidableEq ι]

theorem Round.read (h : Round cfg m buffers p rest) :
    Round cfg (m.read p (buffers p)) buffers p rest :=
  h.mono rfl rfl (fun q hq => by simp [MainDriver.read, hq]) rfl

theorem Round.done_read (h : Round cfg m buffers p rest) (hreads : m.reads p = [])
    (hidle : (buffers p).isPlayerRunning = false ∨ m.isGameTimedOut = true) :
    Done (m.read p (buffers p)) buffers p :=
  hidle.imp (fun hidle => ⟨hidle, h.opened_eq, by simp [MainDriver.read],
    by simp [MainDriver.read, hreads]⟩) id

theorem Done.read (h : Done m buffers p) : Done (m.read p (buffers p)) buffers p := by
  refine h.imp (fun ⟨hidle, hopened, hread, hreads⟩ => ⟨hidle, hopened, ?_, ?_⟩) id
  · simp [MainDriver.read]
  · intro n hn
    simp only [MainDriver.read, update_self, List.mem_append, List.mem_singleton] at hn
    exact hn.elim (hreads n) id

/-- **Where a player's flag is set.** -/
theorem round_of_playerHead (hrest : (p :: rest).Nodup)
    (hidle : ∀ q ∈ p :: rest, Idle m buffers q)
    (hdone : ∀ q ∈ cfg.players, q ∉ p :: rest → Done m buffers q) :
    Round cfg { m with
        pc := .waitRunning p rest
        opened := update m.opened p (m.opened p + 1)
        reads := update m.reads p [] }
      (update buffers p { buffers p with isPlayerRunning := true }) p rest where
  nodup := hrest
  opened_eq := by
    have hopened := (hidle p (List.mem_cons_self ..)).2
    simp [hopened]
  idle := fun q hq => by
    have hqp : q ≠ p := fun heq => (List.nodup_cons.mp hrest).1 (heq ▸ hq)
    have hq := hidle q (List.mem_cons_of_mem _ hq)
    simpa [Idle, hqp] using hq
  done := fun q hq hne => by
    have hqp : q ≠ p := fun heq => hne (heq ▸ List.mem_cons_self ..)
    have hq := hdone q hq hne
    simpa [Done, Served, hqp] using hq

/-- **A step of the main driver** keeps it, and every player, in sync. -/
theorem MainInSync.step (h : MainInSync cfg m buffers)
    (hplayers : ∀ p, PlayerInSync (m.opened p) (drivers p) (buffers p))
    (hstep : MainDriver.step cfg m buffers = some (m', buffers')) :
    MainInSync cfg m' buffers' ∧
      ∀ p, PlayerInSync (m'.opened p) (drivers p) (buffers' p) := by
  unfold MainInSync at h
  cases MainDriver.steps_of_step hstep with
  | initEnd hpc =>
    simp only [hpc] at h
    exact ⟨h, hplayers⟩
  | @initRunning p rest hpc =>
    simp only [hpc] at h
    -- nobody has set a flag yet, so that the store changes nothing
    have hsame : update buffers p { buffers p with isPlayerRunning := false } = buffers := by
      rw [← (h.2 p).1, update_eq_self]
    rw [hsame]
    exact ⟨h, hplayers⟩
  | @initCounter p rest hpc =>
    simp only [hpc] at h
    refine ⟨⟨h.1, ?_⟩, ?_⟩
    · intro q
      by_cases hq : q = p
      · subst hq
        simpa using h.2 q
      · simpa [hq] using h.2 q
    · intro q
      by_cases hq : q = p
      · subst hq
        obtain ⟨hidle, hopened⟩ := h.2 q
        have hsync := hplayers q
        have hnone : (drivers q).written = [] :=
          List.length_eq_zero_iff.mp ((hsync.of_not_running hidle).2.2.trans hopened)
        simpa using { hsync with counter := by simp [hnone] : PlayerInSync (m.opened q) (drivers q)
          { buffers q with instructionCounter := 0 } }
      · simpa [hq] using hplayers q
  | initPlayerStates hpc hcall =>
    simp only [hpc] at h
    exact ⟨h, fun q => { hplayers q with }⟩
  | startTimer hpc =>
    simp only [hpc] at h
    exact ⟨fun p _ => ⟨(h.2 p).1, (h.2 p).2.trans h.1.symm⟩, hplayers⟩
  | turnBegins hpc hturn =>
    simp only [hpc] at h
    exact ⟨⟨cfg.nodup, h, fun p hp hne => absurd hp hne⟩, hplayers⟩
  | playersEnd hpc =>
    simp only [hpc] at h
    exact ⟨fun p hp => h.2.2 p hp List.not_mem_nil, hplayers⟩
  | @setRunning p rest hpc =>
    simp only [hpc] at h
    refine ⟨⟨round_of_playerHead h.1 h.2.1 h.2.2, by simp⟩, ?_⟩
    intro q
    by_cases hq : q = p
    · subst hq
      simpa using (hplayers q).setRunning (h.2.1 q (List.mem_cons_self ..)).1
    · simpa [hq] using hplayers q
  | running hpc | notTimedOut hpc | waitOn hpc =>
    simp only [hpc] at h
    exact ⟨⟨h.1.mono rfl rfl (fun _ _ => rfl) rfl, h.2⟩, hplayers⟩
  | notRunning hpc hrunning =>
    simp only [hpc] at h
    exact ⟨⟨⟨h.1.mono rfl rfl (fun _ _ => rfl) rfl, h.2⟩, .inl hrunning⟩, hplayers⟩
  | timedOut hpc htimedOut =>
    simp only [hpc] at h
    exact ⟨⟨⟨h.1.mono rfl rfl (fun _ _ => rfl) rfl, h.2⟩, .inr (.inl htimedOut)⟩, hplayers⟩
  | cancelSeen hpc hcancel =>
    simp only [hpc] at h
    exact ⟨⟨⟨h.1.mono rfl rfl (fun _ _ => rfl) rfl, h.2⟩, .inr (.inr hcancel)⟩, hplayers⟩
  | notCancelled hpc hcancel =>
    simp only [hpc] at h
    refine ⟨⟨⟨h.1.1.mono rfl rfl (fun _ _ => rfl) rfl, h.1.2⟩, ?_⟩, hplayers⟩
    simpa [hcancel] using h.2
  | exceedsGame hpc | withinGame hpc =>
    simp only [hpc] at h
    exact ⟨⟨h.1.1.read.mono rfl rfl (fun _ _ => rfl) rfl, h.1.1.done_read h.1.2 h.2⟩, hplayers⟩
  | checkLimitTurn hpc =>
    simp only [hpc] at h
    exact ⟨⟨h.1.read.mono rfl rfl (fun _ _ => rfl) rfl, h.2.read⟩, hplayers⟩
  | @logInstructionCount p rest hpc =>
    simp only [hpc] at h
    refine ⟨⟨(List.nodup_cons.mp h.1.nodup).2, h.1.idle, ?_⟩, hplayers⟩
    intro q hq hne
    by_cases hqp : q = p
    · subst hqp
      exact h.2.read
    · exact h.1.read.done q hq (by simp [hqp, hne])
  | notAborted hpc hexceeded htimedOut =>
    simp only [hpc] at h
    -- the timer has not fired, so that every player has been served
    exact ⟨fun p hp => (h p hp).resolve_right (by simp [htimedOut]), hplayers⟩
  | executePlayerCommands hpc | updateMainState hpc =>
    simp only [hpc] at h
    exact ⟨h, hplayers⟩
  | updatePlayerStates hpc =>
    simp only [hpc] at h
    exact ⟨fun p hp => ⟨(h p hp).1, (h p hp).2.1⟩, fun q => { hplayers q with }⟩
  | turnsEnd | cancelled | aborted | getScores | logFinalGameParams | writeGame | stopsToClear
  | stops | clearCancel => exact ⟨trivial, hplayers⟩

/-! ## All interleavings -/

/-- The main driver and every player are in sync. -/
structure InSync (cfg : Config ι PS G) (s : System ι PS G) : Prop where
  main : MainInSync cfg s.main s.buffers
  player : ∀ p, PlayerInSync (s.main.opened p) (s.drivers p) (s.buffers p)

/-- A step of a player driver that keeps it in sync, and keeps off a buffer that is not
its own. -/
theorem InSync.playerStep {s s' : System ι PS G} (h : InSync cfg s) {p : ι}
    {f : PlayerDriver → SharedBuffer PS → Option (PlayerDriver × SharedBuffer PS)}
    (hf : ∀ d' b', f (s.drivers p) (s.buffers p) = some (d', b') →
      PlayerInSync (s.main.opened p) d' b' ∧ ((s.buffers p).isPlayerRunning = false →
        b'.isPlayerRunning = false ∧ b'.instructionCounter = (s.buffers p).instructionCounter))
    (hstep : s.playerStep p f = some s') : InSync cfg s' := by
  obtain ⟨⟨d', b'⟩, hrun, rfl⟩ := Option.map_eq_some_iff.mp hstep
  obtain ⟨hsync, hkeep⟩ := hf d' b' hrun
  have helsewhere : Elsewhere s.main s.main s.buffers (update s.buffers p b') := by
    refine ⟨rfl, rfl, rfl, rfl, id, id, ?_⟩
    intro q hq
    by_cases hqp : q = p
    · subst hqp
      simpa using hkeep hq
    · simpa [hqp] using hq
  refine ⟨helsewhere.mainInSync h.main, ?_⟩
  intro q
  by_cases hqp : q = p
  · subst hqp
    simpa using hsync
  · simpa [hqp] using h.player q

/-- A player driver does not touch its buffer while the flag is reset. -/
theorem PlayerInSync.untouched {opened maxNoTurns : ℕ} {d d' : PlayerDriver}
    {b b' : SharedBuffer PS} (h : PlayerInSync opened d b)
    (hstep : PlayerDriver.step maxNoTurns d b = some (d', b'))
    (hidle : b.isPlayerRunning = false) :
    b'.isPlayerRunning = false ∧ b'.instructionCounter = b.instructionCounter := by
  have hquiet := (h.of_not_running hidle).1
  cases hpc : d.pc with
  | code | finished => simp [PlayerDriver.step, hpc] at hstep
  | turnHead | waitRunning | waitTimedOut | checkTimedOut sawRunning =>
    simp only [PlayerDriver.step, hpc, Option.some.injEq, Prod.mk.injEq] at hstep
    rw [← hstep.2]
    exact ⟨hidle, rfl⟩
  | writeCountToShm n => exact absurd (by rw [hpc]; trivial) hquiet
  | resetRunning => exact absurd (by rw [hpc]; trivial) hquiet

/-- **Every step keeps the drivers in sync.** -/
theorem InSync.step {s s' : System ι PS G} (h : InSync cfg s) {e : Event ι PS}
    (hstep : s.step cfg e = some s') : InSync cfg s' := by
  cases e with
  | main =>
    obtain ⟨⟨m', buffers'⟩, hrun, rfl⟩ := Option.map_eq_some_iff.mp hstep
    obtain ⟨hmain, hplayers⟩ := h.main.step h.player hrun
    exact ⟨hmain, hplayers⟩
  | player p =>
    exact h.playerStep (fun d' b' hrun => ⟨(h.player p).step hrun, (h.player p).untouched hrun⟩)
      hstep
  | codeWrites p playerState =>
    refine h.playerStep ?_ hstep
    intro d' b' hrun
    obtain ⟨hpc, rfl, rfl⟩ := PlayerInSync.pc_eq_of_codeWrites hrun
    exact ⟨{ h.player p with }, fun hidle => absurd hpc ((h.player p).pc_ne_code hidle)⟩
  | codeReturns p instructionCount =>
    refine h.playerStep ?_ hstep
    intro d' b' hrun
    obtain ⟨hpc, rfl, rfl⟩ := PlayerInSync.pc_eq_of_codeReturns hrun
    exact ⟨(h.player p).codeReturns hpc instructionCount,
      fun hidle => absurd hpc ((h.player p).pc_ne_code hidle)⟩
  | mainTimer =>
    simp only [System.step] at hstep
    split at hstep
    · obtain rfl := Option.some.inj hstep
      have helsewhere :
          Elsewhere s.main { s.main with isGameTimedOut := true } s.buffers s.buffers :=
        ⟨rfl, rfl, rfl, rfl, fun _ => rfl, id, fun _ hidle => ⟨hidle, rfl⟩⟩
      exact ⟨helsewhere.mainInSync h.main, h.player⟩
    · simp at hstep
  | playerTimer p =>
    obtain rfl := Option.some.inj hstep
    refine ⟨h.main, ?_⟩
    intro q
    by_cases hqp : q = p
    · subst hqp
      simpa using (h.player q).timeOut
    · simpa [hqp] using h.player q
  | cancel =>
    simp only [System.step] at hstep
    split at hstep
    · obtain rfl := Option.some.inj hstep
      have helsewhere : Elsewhere s.main { s.main with cancel := true } s.buffers s.buffers :=
        ⟨rfl, rfl, rfl, rfl, id, fun _ => rfl, fun _ hidle => ⟨hidle, rfl⟩⟩
      exact ⟨helsewhere.mainInSync h.main, h.player⟩
    · simp at hstep
  | cancelReturns =>
    simp only [System.step] at hstep
    split at hstep
    · obtain rfl := Option.some.inj hstep
      exact ⟨h.main, h.player⟩
    · simp at hstep

omit [DecidableEq ι] in
theorem inSync_of_isStarted {s : System ι PS G} (h : IsStarted cfg s) : InSync cfg s where
  main := by
    simp only [MainInSync, h.main_eq, MainDriver.start]
    exact ⟨trivial, fun p => ⟨h.isPlayerRunning_eq p, trivial⟩⟩
  player := fun p => by
    rw [h.main_eq, h.drivers_eq p]
    exact ⟨fun hbusy => hbusy.elim, nofun, by simp [h.isPlayerRunning_eq p, PlayerDriver.start,
      MainDriver.start], by simp [h.isPlayerRunning_eq p, PlayerDriver.start, MainDriver.start],
      by simp [h.instructionCounter_eq p, PlayerDriver.start]⟩

theorem inductive_inSync (cfg : Config ι PS G) : (system cfg).Inductive (InSync cfg) :=
  ⟨fun _ h => inSync_of_isStarted h, fun _ _ _ h hstep => h.step hstep⟩

/-- **The handshake.**  In every interleaving, while the state syncer works in turn `i` no
player driver is between seeing its flag true and resetting it, the code of every player
has returned `i + 1` times, and the counter was read, and every time it was what the
player wrote for turn `i`. -/
theorem handshake {s : System ι PS G} (h : (system cfg).Reachable s) (hpc : s.main.pc.IsSync)
    {p : ι} (hp : p ∈ cfg.players) :
    ¬ (s.drivers p).pc.IsBusy ∧ (s.drivers p).calls = s.main.turn + 1 ∧
      (s.drivers p).written.length = s.main.turn + 1 ∧ s.main.reads p ≠ [] ∧
      ∀ n ∈ s.main.reads p, (s.drivers p).written[s.main.turn]? = some n := by
  have hsync := (inductive_inSync cfg).reachable h
  obtain ⟨hidle, hopened, hread, hreads⟩ : Served s.main s.buffers p := by
    have hmain := hsync.main
    unfold MainInSync at hmain
    cases hpc' : s.main.pc <;> simp only [hpc', MainDriver.Pc.IsSync] at hpc hmain
    all_goals exact hmain p hp
  obtain ⟨hquiet, hcalls, hwritten⟩ := (hsync.player p).of_not_running hidle
  refine ⟨hquiet, hcalls.trans hopened, hwritten.trans hopened, hread, ?_⟩
  intro n hn
  have hlast : (s.drivers p).written.getLast? = (s.drivers p).written[s.main.turn]? := by
    rw [List.getLast?_eq_getElem?, hwritten, hopened]
    rfl
  have hlt : s.main.turn < (s.drivers p).written.length := by omega
  rw [hreads n hn, (hsync.player p).counter, hlast, List.getElem?_eq_getElem hlt]
  rfl

omit [DecidableEq ι] in
/-- Both players of the small interleaving have had their turn. -/
theorem handshake_sample : ∃ s, (system sampleConfig).Reachable s ∧
    s.main.pc = .executePlayerCommands ∧ ∀ p, ¬ (s.drivers p).pc.IsBusy ∧
      (s.drivers p).calls = s.main.turn + 1 ∧
      (s.drivers p).written.length = s.main.turn + 1 ∧ s.main.reads p ≠ [] ∧
      ∀ n ∈ s.main.reads p, (s.drivers p).written[s.main.turn]? = some n := by
  let events : List (Event PlayerId Unit) := mainEvents 8 ++ playEvents .player1 7 ++
    mainEvents 5 ++ playEvents .player2 8 ++ mainEvents 7
  have hrun : (events.foldlM (System.step sampleConfig) (started sampleConfig ())).map
      (fun s => s.main.pc) = some .executePlayerCommands := by
    decide +kernel
  obtain ⟨s, hs, hpc⟩ := Option.map_eq_some_iff.mp hrun
  have hreachable := reachable_of_foldlM hs
  exact ⟨s, hreachable, hpc, fun p =>
    handshake hreachable (by rw [hpc]; trivial) (PlayerId.mem_all p)⟩

end Main

end Drivers

end Simulator
