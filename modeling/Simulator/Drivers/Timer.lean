import Mathlib.Data.Int.Basic
import Simulator.Foundation.Transition

/-!
# The timer

`Timer::Start` and `Timer::Cancel`, and the thread that `Start` spawns, one atomic step at a
time.  The thread reads the cancel flag in the condition of its loop, and once more after it
has reset `is_running`; `Cancel` waits for `is_running` to be reset, and then resets the flag
itself.

So the flag may be reset between the two reads, and then the callback of a cancelled timer is
called.  `silent_iff` says that this is the only way.

## The two reads

The first read ends the loop, and the second decides whether the callback is called: it is called
if nobody has cancelled.  Between them the thread resets `is_running`, for which `Cancel` is
waiting.  From that store on the two race.  If the thread comes first, it finds the flag set and
stays silent.  If `Cancel` comes first, it takes the flag back, and the thread finds what it would
have found if nobody had ever cancelled.

`ResetsLate` says of a step that it is not the bad one, a reset in the moment between store and
second read.  In the interleavings all of whose steps meet it, a timer that was cancelled in time
never calls.  The other direction is that after a reset in that moment the thread calls, as
soon as it goes on.

In time is early enough for the thread to wake up twice before the duration is over, since it only
looks at the flag when it wakes up.
-/

namespace Simulator

open Foundation

/-- A timer; durations are in milliseconds. -/
structure Timer where
  /-- True while the timer is running. -/
  isRunning : Bool
  /-- Set by `Cancel`, and reset right before it returns. -/
  cancel : Bool
  /-- How long the timer has been running. -/
  curDuration : ℤ
  deriving DecidableEq, Repr

namespace Timer

/-- How often the timer wakes up to see if it has been cancelled. -/
def timerWakeUpDuration : ℤ := 10

/-- A timer as it is constructed. -/
def build : Timer := ⟨false, false, 0⟩

/-- `Start`, up to where it spawns the thread; a timer that is running is not started again. -/
def start (t : Timer) : Bool × Timer :=
  if t.isRunning then (false, t) else (true, { t with isRunning := true, curDuration := 0 })

/-- Where the thread is. -/
inductive Thread where
  /-- The two conditions of the loop. -/
  | checkDuration
  | checkCancel
  /-- The body of the loop. -/
  | sleep
  | resetRunning
  /-- The read of the flag after the loop. -/
  | checkCancelAgain
  | callback
  | finished
  deriving DecidableEq, Repr

/-- Where `Cancel` is. -/
inductive CancelCall where
  | notCalled
  /-- The flag was set, and `is_running` is being waited for. -/
  | waiting
  | resetCancel
  | returned
  deriving DecidableEq, Repr

/-- The timer, its thread, and a call of `Cancel`. -/
structure System where
  timer : Timer
  thread : Thread
  cancelCall : CancelCall
  /-- How often the callback was called. -/
  callbacks : ℕ
  /-- How long the timer had been running when `Cancel` set the flag. -/
  cancelledAt : Option ℤ
  deriving DecidableEq, Repr

/-- An atomic step of the thread, or of `Cancel`. -/
inductive Event where
  | thread
  | cancel
  deriving DecidableEq, Repr

namespace System

/-- The next step of the thread. -/
def threadStep (totalTimerDuration : ℤ) (s : System) : Option System :=
  match s.thread with
  | .checkDuration =>
    some { s with
      thread := if s.timer.curDuration < totalTimerDuration then .checkCancel else .resetRunning }
  | .checkCancel => some { s with thread := if s.timer.cancel then .resetRunning else .sleep }
  | .sleep =>
    some { s with
      thread := .checkDuration
      timer := { s.timer with curDuration := s.timer.curDuration + timerWakeUpDuration } }
  | .resetRunning =>
    some { s with thread := .checkCancelAgain, timer := { s.timer with isRunning := false } }
  | .checkCancelAgain => some { s with thread := if s.timer.cancel then .finished else .callback }
  | .callback => some { s with thread := .finished, callbacks := s.callbacks + 1 }
  | .finished => none

/-- The next step of `Cancel`. -/
def cancelStep (s : System) : Option System :=
  match s.cancelCall with
  | .notCalled =>
    some { s with
      cancelCall := .waiting
      timer := { s.timer with cancel := true }
      cancelledAt := some s.timer.curDuration }
  | .waiting => some { s with cancelCall := if s.timer.isRunning then .waiting else .resetCancel }
  | .resetCancel =>
    some { s with cancelCall := .returned, timer := { s.timer with cancel := false } }
  | .returned => none

/-- One atomic step. -/
def step (totalTimerDuration : ℤ) (s : System) : Event → Option System
  | .thread => s.threadStep totalTimerDuration
  | .cancel => s.cancelStep

/-- The thread leaves to `Cancel` what is its own. -/
theorem threadStep_eq {totalTimerDuration : ℤ} {s s' : System}
    (h : s.threadStep totalTimerDuration = some s') :
    s'.cancelCall = s.cancelCall ∧ s'.cancelledAt = s.cancelledAt := by
  cases hpc : s.thread <;> simp only [threadStep, hpc, Option.some.injEq, reduceCtorEq] at h
  all_goals
    rw [← h]
    exact ⟨rfl, rfl⟩

/-- The flag was set while the timer still had to wake up twice. -/
def CancelledEarly (totalTimerDuration : ℤ) (s : System) : Prop :=
  ∃ duration, s.cancelledAt = some duration ∧
    duration + 2 * timerWakeUpDuration ≤ totalTimerDuration

/-- `Cancel` does not reset the flag before the thread has read it again. -/
def ResetsLate (s : System) (e : Event) : Prop :=
  e = .cancel → s.cancelCall = .resetCancel → s.thread ≠ .checkCancelAgain

instance (s : System) (e : Event) : Decidable (s.ResetsLate e) :=
  inferInstanceAs (Decidable (_ → _ → _))

end System

/-- A timer that has just been started, and nobody has cancelled. -/
structure IsStarted (s : System) : Prop where
  start_eq : ∃ t : Timer, t.cancel = false ∧ t.start = (true, s.timer)
  thread_eq : s.thread = .checkDuration
  cancelCall_eq : s.cancelCall = .notCalled
  callbacks_eq : s.callbacks = 0
  cancelledAt_eq : s.cancelledAt = none

/-- The transition system of a timer. -/
def system (totalTimerDuration : ℤ) : TransitionSystem System Event where
  IsInitial := IsStarted
  step := System.step totalTimerDuration

/-! ## What the thread can rely on -/

variable {totalTimerDuration : ℤ} {s s' s'' : System} {e : Event}

/-- The time was over before the flag was set. -/
def TooLate (totalTimerDuration : ℤ) (s : System) : Prop :=
  totalTimerDuration ≤ s.cancelledAt.getD s.timer.curDuration

/-- What holds depending on where the thread is. -/
def ThreadInSync (totalTimerDuration : ℤ) (s : System) : Prop :=
  match s.thread with
  | .checkDuration | .checkCancel | .sleep => s.timer.isRunning = true ∧ s.callbacks = 0
  | .resetRunning => s.timer.isRunning = true ∧ s.callbacks = 0 ∧
      (s.cancelledAt = none → TooLate totalTimerDuration s)
  | .checkCancelAgain => s.cancelCall ≠ .returned ∧ s.callbacks = 0 ∧
      (s.cancelledAt = none → TooLate totalTimerDuration s)
  | .callback => TooLate totalTimerDuration s
  | .finished => s.callbacks = 0 ∨ TooLate totalTimerDuration s

/-- The thread and `Cancel`, when the flag is reset late. -/
structure InSync (totalTimerDuration : ℤ) (s : System) : Prop where
  thread : ThreadInSync totalTimerDuration s
  notCalled : s.cancelledAt = none ↔ s.cancelCall = .notCalled
  cancel : s.timer.cancel = true ↔ s.cancelCall = .waiting ∨ s.cancelCall = .resetCancel
  notRunning : s.cancelCall = .resetCancel ∨ s.cancelCall = .returned → s.timer.isRunning = false

/-- **A step of the thread** keeps both in sync. -/
theorem InSync.threadStep (h : InSync totalTimerDuration s)
    (hstep : s.threadStep totalTimerDuration = some s') : InSync totalTimerDuration s' := by
  obtain ⟨hthread, hcalled, hcancel, hstopped⟩ := h
  unfold ThreadInSync at hthread
  cases hpc : s.thread with
  | checkDuration =>
    simp only [hpc] at hthread
    by_cases hduration : s.timer.curDuration < totalTimerDuration
    · simp only [System.threadStep, hpc, if_pos hduration, Option.some.injEq] at hstep
      subst hstep
      exact ⟨hthread, hcalled, hcancel, hstopped⟩
    · simp only [System.threadStep, hpc, if_neg hduration, Option.some.injEq] at hstep
      subst hstep
      refine ⟨⟨hthread.1, hthread.2, ?_⟩, hcalled, hcancel, hstopped⟩
      intro hnone
      simpa [TooLate, show s.cancelledAt = none from hnone] using Int.not_lt.mp hduration
  | checkCancel =>
    simp only [hpc] at hthread
    by_cases hset : s.timer.cancel = true
    · simp only [System.threadStep, hpc, if_pos hset, Option.some.injEq] at hstep
      subst hstep
      refine ⟨⟨hthread.1, hthread.2, ?_⟩, hcalled, hcancel, hstopped⟩
      intro hnone
      -- whoever set the flag has been recorded
      have := hcancel.mp hset
      simp [hcalled.mp hnone] at this
    · simp only [System.threadStep, hpc, if_neg hset, Option.some.injEq] at hstep
      subst hstep
      exact ⟨hthread, hcalled, hcancel, hstopped⟩
  | sleep =>
    simp only [hpc] at hthread
    simp only [System.threadStep, hpc, Option.some.injEq] at hstep
    subst hstep
    exact ⟨hthread, hcalled, hcancel, hstopped⟩
  | resetRunning =>
    simp only [hpc] at hthread
    simp only [System.threadStep, hpc, Option.some.injEq] at hstep
    subst hstep
    refine ⟨⟨?_, hthread.2.1, hthread.2.2⟩, hcalled, hcancel, fun _ => rfl⟩
    intro hreturned
    simp [hstopped (.inr hreturned)] at hthread
  | checkCancelAgain =>
    simp only [hpc] at hthread
    by_cases hset : s.timer.cancel = true
    · simp only [System.threadStep, hpc, if_pos hset, Option.some.injEq] at hstep
      subst hstep
      exact ⟨.inl hthread.2.1, hcalled, hcancel, hstopped⟩
    · simp only [System.threadStep, hpc, if_neg hset, Option.some.injEq] at hstep
      subst hstep
      -- nobody has set the flag yet
      have hnotCalled : s.cancelCall = .notCalled := by
        rw [hcancel, not_or] at hset
        cases hcall : s.cancelCall with
        | notCalled => rfl
        | waiting => exact absurd hcall hset.1
        | resetCancel => exact absurd hcall hset.2
        | returned => exact absurd hcall hthread.1
      exact ⟨hthread.2.2 (hcalled.mpr hnotCalled), hcalled, hcancel, hstopped⟩
  | callback =>
    simp only [hpc] at hthread
    simp only [System.threadStep, hpc, Option.some.injEq] at hstep
    subst hstep
    exact ⟨.inr hthread, hcalled, hcancel, hstopped⟩
  | finished => simp [System.threadStep, hpc] at hstep

theorem ThreadInSync.mono (h : ThreadInSync totalTimerDuration s) (hthread : s'.thread = s.thread)
    (hrunning : s'.timer.isRunning = s.timer.isRunning) (hcallbacks : s'.callbacks = s.callbacks)
    (hlate : TooLate totalTimerDuration s → TooLate totalTimerDuration s')
    (hnone : s'.cancelledAt = none → s.cancelledAt = none)
    (hagain : s.thread = .checkCancelAgain → s'.cancelCall ≠ .returned) :
    ThreadInSync totalTimerDuration s' := by
  unfold ThreadInSync at h ⊢
  rw [hthread, hrunning, hcallbacks]
  cases hpc : s.thread with
  | checkDuration | checkCancel | sleep => simpa only [hpc] using h
  | resetRunning =>
    simp only [hpc] at h
    exact ⟨h.1, h.2.1, fun hnone' => hlate (h.2.2 (hnone hnone'))⟩
  | checkCancelAgain =>
    simp only [hpc] at h
    exact ⟨hagain hpc, h.2.1, fun hnone' => hlate (h.2.2 (hnone hnone'))⟩
  | callback =>
    simp only [hpc] at h
    exact hlate h
  | finished =>
    simp only [hpc] at h
    exact h.imp_right hlate

/-- **A step of `Cancel`** keeps both in sync, if it does not reset the flag early. -/
theorem InSync.cancelStep (h : InSync totalTimerDuration s) (hresets : s.ResetsLate .cancel)
    (hstep : s.cancelStep = some s') : InSync totalTimerDuration s' := by
  cases hcall : s.cancelCall with
  | notCalled =>
    simp only [System.cancelStep, hcall, Option.some.injEq] at hstep
    subst hstep
    have hnone := h.notCalled.mpr hcall
    refine ⟨h.thread.mono rfl rfl rfl ?_ nofun nofun, iff_of_false nofun nofun,
      iff_of_true rfl (.inl rfl), nofun⟩
    intro hlate
    simpa [TooLate, hnone] using hlate
  | waiting =>
    have hset := h.cancel.mpr (.inl hcall)
    have hsome : s.cancelledAt ≠ none := fun hnone => by simp [h.notCalled.mp hnone] at hcall
    cases hrunning : s.timer.isRunning with
    | true =>
      simp only [System.cancelStep, hcall, hrunning, if_true, Option.some.injEq] at hstep
      subst hstep
      exact ⟨h.thread.mono rfl rfl rfl id id nofun, iff_of_false hsome nofun,
        iff_of_true hset (.inl rfl), nofun⟩
    | false =>
      simp only [System.cancelStep, hcall, hrunning, Bool.false_eq_true, if_false,
        Option.some.injEq] at hstep
      subst hstep
      exact ⟨h.thread.mono rfl rfl rfl id id nofun, iff_of_false hsome nofun,
        iff_of_true hset (.inr rfl), fun _ => hrunning⟩
  | resetCancel =>
    simp only [System.cancelStep, hcall, Option.some.injEq] at hstep
    subst hstep
    have hsome : s.cancelledAt ≠ none := fun hnone => by simp [h.notCalled.mp hnone] at hcall
    exact ⟨h.thread.mono rfl rfl rfl id id fun hagain => absurd hagain (hresets rfl hcall),
      iff_of_false hsome nofun, iff_of_false nofun nofun, fun _ => h.notRunning (.inl hcall)⟩
  | returned => simp [System.cancelStep, hcall] at hstep

theorem inSync_of_isStarted (h : IsStarted s) : InSync totalTimerDuration s := by
  obtain ⟨⟨t, hcancel, hstart⟩, hthread, hcall, hcallbacks, hat⟩ := h
  have hstarted : s.timer.isRunning = true ∧ s.timer.cancel = false := by
    simp only [start] at hstart
    split at hstart
    · simp at hstart
    · rw [← (Prod.mk.inj hstart).2]
      exact ⟨rfl, hcancel⟩
  refine ⟨?_, iff_of_true hat hcall, ?_, ?_⟩
  · simp only [ThreadInSync, hthread]
    exact ⟨hstarted.1, hcallbacks⟩
  · simp [hstarted.2, hcall]
  · simp [hcall]

/-- **Both are in sync** in every interleaving in which the flag is reset late. -/
theorem inductive_inSync (totalTimerDuration : ℤ) :
    ((system totalTimerDuration).guarded System.ResetsLate).Inductive
      (InSync totalTimerDuration) := by
  refine ⟨fun s h => inSync_of_isStarted h, ?_⟩
  intro s e s' h hstep
  obtain ⟨hlate, hstep⟩ := TransitionSystem.of_step_guarded hstep
  cases e with
  | thread => exact h.threadStep hstep
  | cancel => exact h.cancelStep hlate hstep

theorem InSync.callbacks_eq (h : InSync totalTimerDuration s)
    (hearly : s.CancelledEarly totalTimerDuration) : s.callbacks = 0 := by
  obtain ⟨duration, hat, hduration⟩ := hearly
  have hintime : ¬ TooLate totalTimerDuration s := by
    simp only [TooLate, hat, Option.getD_some, timerWakeUpDuration] at hduration ⊢
    omega
  have hthread := h.thread
  unfold ThreadInSync at hthread
  cases hpc : s.thread <;> simp only [hpc] at hthread
  case checkDuration | checkCancel | sleep => exact hthread.2
  case resetRunning | checkCancelAgain => exact hthread.2.1
  case callback => exact absurd hthread hintime
  case finished => exact hthread.resolve_right hintime

/-! ## When the callback is called -/

theorem guarded_reachable (h : (system totalTimerDuration).Reachable s)
    (hcall : s.cancelCall ≠ .returned) :
    ((system totalTimerDuration).guarded System.ResetsLate).Reachable s := by
  obtain ⟨s₀, hinit, hrun⟩ := h
  refine ⟨s₀, hinit, hrun.guarded_of_last (I := fun s => s.cancelCall ≠ .returned) ?_ hcall⟩
  intro s e s' hstep hcall'
  cases e with
  | thread =>
    refine ⟨nofun, fun hreturned => hcall' ?_⟩
    rw [(System.threadStep_eq hstep).1, hreturned]
  | cancel =>
    cases hcall : s.cancelCall with
    | notCalled | waiting => exact ⟨fun _ hreset => by simp [hcall] at hreset, nofun⟩
    | resetCancel =>
      simp only [system, System.step, System.cancelStep, hcall, Option.some.injEq] at hstep
      exact absurd (by rw [← hstep]) hcall'
    | returned => simp [system, System.step, System.cancelStep, hcall] at hstep

/-- After `Cancel` has returned, only the thread goes on. -/
theorem Reaches.guarded_of_returned
    (h : (system totalTimerDuration).Reaches s s') (hcall : s.cancelCall = .returned) :
    ((system totalTimerDuration).guarded System.ResetsLate).Reaches s s' ∧
      s'.cancelledAt = s.cancelledAt := by
  refine (h.guarded (I := fun s' => s'.cancelCall = .returned ∧ s'.cancelledAt = s.cancelledAt)
    ?_ ⟨hcall, rfl⟩).imp_right And.right
  rintro s₁ e s₂ ⟨hcall₁, hat₁⟩ hstep
  cases e with
  | thread =>
    obtain ⟨hcall₂, hat₂⟩ := System.threadStep_eq hstep
    exact ⟨nofun, hcall₂.trans hcall₁, hat₂.trans hat₁⟩
  | cancel => simp [system, System.step, System.cancelStep, hcall₁] at hstep

theorem reaches_callback (totalTimerDuration : ℤ) (hagain : s.thread = .checkCancelAgain)
    (hcancel : s.timer.cancel = false) :
    (system totalTimerDuration).Reaches s
      { s with thread := .finished, callbacks := s.callbacks + 1 } := by
  have hread : (system totalTimerDuration).step s .thread =
      some { s with thread := .callback } := by
    simp [system, System.step, System.threadStep, hagain, hcancel]
  have hcall : (system totalTimerDuration).step { s with thread := .callback } .thread =
      some { s with thread := .finished, callbacks := s.callbacks + 1 } := rfl
  exact .head hread (.tail .refl hcall)

/-- **A timer cancelled in time stays silent** in every interleaving in which `Cancel` does not
reset the flag between the store of `is_running` and the second read of the flag.  A reset at
that moment is followed by a call. -/
theorem silent_iff (totalTimerDuration : ℤ) :
    (∀ s, ((system totalTimerDuration).guarded System.ResetsLate).Reachable s →
      s.CancelledEarly totalTimerDuration → s.callbacks = 0) ∧
    ∀ s s', (system totalTimerDuration).Reachable s → s.CancelledEarly totalTimerDuration →
      s.cancelCall = .resetCancel → s.step totalTimerDuration .cancel = some s' →
        ((∀ s'', (system totalTimerDuration).Reaches s' s'' → s''.callbacks = 0) ↔
          s.ResetsLate .cancel) := by
  have hsilent : ∀ s, ((system totalTimerDuration).guarded System.ResetsLate).Reachable s →
      s.CancelledEarly totalTimerDuration → s.callbacks = 0 := fun s h hearly =>
    ((inductive_inSync totalTimerDuration).reachable h).callbacks_eq hearly
  refine ⟨hsilent, fun s s' h hearly hcall hstep => ⟨?_, ?_⟩⟩
  · intro hnever _ _ hagain
    simp only [System.step, System.cancelStep, hcall, Option.some.injEq] at hstep
    subst hstep
    -- the thread reads that nobody has cancelled, and calls
    have hrun := reaches_callback totalTimerDuration
      (s := { s with cancelCall := .returned, timer := { s.timer with cancel := false } })
      hagain rfl
    exact absurd (hnever _ hrun) (Nat.succ_ne_zero _)
  · intro hlate s'' hrun
    have hreachable := guarded_reachable h (by simp [hcall])
    have hstep' := TransitionSystem.step_guarded (T := system totalTimerDuration) hlate hstep
    have hreturned : s'.cancelCall = .returned ∧ s'.cancelledAt = s.cancelledAt := by
      simp only [System.step, System.cancelStep, hcall, Option.some.injEq] at hstep
      rw [← hstep]
      exact ⟨rfl, rfl⟩
    obtain ⟨hrun', hat⟩ := Reaches.guarded_of_returned hrun hreturned.1
    refine hsilent s'' ((hreachable.reaches (.tail .refl hstep')).reaches hrun') ?_
    obtain ⟨duration, hduration⟩ := hearly
    exact ⟨duration, by rw [hat, hreturned.2]; exact hduration⟩

/-! ## A timer of 100 ms -/

/-- The timer as it is started. -/
def started : System where
  timer := build.start.2
  thread := .checkDuration
  cancelCall := .notCalled
  callbacks := 0
  cancelledAt := none

theorem isStarted_started : IsStarted started := ⟨⟨build, rfl, rfl⟩, rfl, rfl, rfl, rfl⟩

/-- It was cancelled at once; the thread has left its loop, and `Cancel` has seen that. -/
def racing : System where
  timer := ⟨false, true, 0⟩
  thread := .checkCancelAgain
  cancelCall := .resetCancel
  callbacks := 0
  cancelledAt := some 0

/-- The steps up to there. -/
def raceEvents : List Event := [.cancel, .thread, .thread, .thread, .cancel]

/-- The thread reads the flag before `Cancel` resets it, or after. -/
theorem silent_iff_sample :
    (∃ s, ((system 100).guarded System.ResetsLate).Reachable s ∧ s.thread = .finished ∧
      s.cancelCall = .returned ∧ s.callbacks = 0) ∧
    ∃ s', racing.step 100 .cancel = some s' ∧
      ¬ ∀ s'', (system 100).Reaches s' s'' → s''.callbacks = 0 := by
  obtain ⟨hsilent, hreset⟩ := silent_iff 100
  constructor
  · have hrun : (raceEvents ++ [Event.thread, .cancel]).foldlM
        ((system 100).guarded System.ResetsLate).step started =
          some ⟨⟨false, false, 0⟩, .finished, .returned, 0, some 0⟩ := by decide
    have hreachable : ((system 100).guarded System.ResetsLate).Reachable _ :=
      ⟨started, isStarted_started, TransitionSystem.reaches_of_foldlM hrun⟩
    exact ⟨_, hreachable, rfl, rfl, hsilent _ hreachable ⟨0, rfl, by decide⟩⟩
  · have hrun : raceEvents.foldlM (system 100).step started = some racing := by decide
    have hreachable : (system 100).Reachable racing :=
      ⟨started, isStarted_started, TransitionSystem.reaches_of_foldlM hrun⟩
    refine ⟨_, rfl, ?_⟩
    intro hnever
    exact (hreset racing _ hreachable ⟨0, rfl, by decide⟩ rfl rfl).mp hnever rfl rfl rfl

/-- The callback of the timer may be called after `Cancel` has returned. -/
theorem not_silent_sample : ¬ ∀ s, (system 100).Reachable s → s.CancelledEarly 100 →
    s.callbacks = 0 := by
  intro hsilent
  have hrun : (raceEvents ++ [Event.cancel, .thread, .thread]).foldlM (system 100).step started =
      some ⟨⟨false, false, 0⟩, .finished, .returned, 1, some 0⟩ := by decide
  have hcalled := hsilent _ ⟨started, isStarted_started, TransitionSystem.reaches_of_foldlM hrun⟩
    ⟨0, rfl, by decide⟩
  exact absurd hcalled (by decide)

end Timer

end Simulator
