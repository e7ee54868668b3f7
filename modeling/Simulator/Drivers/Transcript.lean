import Simulator.Drivers.AbortLog
import Simulator.Logger.ErrorLog

/-!
# What the frames of a log show

The calls of a logger fall into pieces that end with a call of `LogState`: an `Entry` is
such a piece, and a `transcript` is several of them.  A frame shows the state of its entry and
the errors among the calls before it (`errorFrames_transcript`, `readErrors_of_run`), and
of the state it shows the soldiers and the money as they are (`pictured_run`).  The towers
are shown by all frames up to it (`shows_of_run`).

## Three kinds of contents

A frame is complete in what changes every turn: soldiers and money are sent as they are.  It is
not complete in the other two.  Of the towers it has what has changed since the frame before, so a
reader has to go through all frames from the first one on.  Of the errors it has codes, and the
table of the codes is written once, at the end of the game, so a reader has to wait for that.

So what it means that a frame shows a state, and that errors are read back, is different for each
kind, and each has been settled with its own notion of a row of calls.  `Shows` and `readErrors`
put them together for one transcript, as a reader of the file has it before him.
-/

namespace Simulator

open Foundation

variable {K : Type}

/-- The message is that of the soldier.  A soldier without a target is sent with the
target `(-1, -1)`. -/
structure Soldier.ShownAs [Field K] [LinearOrder K] [FloorRing K] (st : State K) (s : Soldier K)
    (message : Proto.Soldier) : Prop where
  hp : message.hp = int32 s.hp
  x : message.x = int32 s.position.x.toInt
  y : message.y = int32 s.position.y.toInt
  state : message.state = Logger.soldierState s.state
  noTarget : s.attackTarget = none → message.attackTargetX = -1 ∧ message.attackTargetY = -1
  target : ∀ ptr, s.attackTarget = some ptr → ∃ a, st.deref ptr = some a ∧
    message.attackTargetX = int32 a.position.x.toInt ∧
    message.attackTargetY = int32 a.position.y.toInt

namespace Logger

/-! ## The pieces of a run -/

/-- The calls up to a frame, and the state that the frame is made from. -/
structure Entry (K : Type) where
  calls : List (Call K)
  state : State K
  frameless : ∀ call ∈ calls, call.isState = false

/-- The calls of some entries. -/
def transcript (entries : List (Entry K)) : List (Call K) :=
  entries.flatMap fun e => e.calls ++ [.state e.state]

theorem transcript_concat (entries : List (Entry K)) (e : Entry K) :
    transcript (entries ++ [e]) = transcript entries ++ e.calls ++ [.state e.state] := by
  simp only [transcript, List.flatMap_append, List.flatMap_singleton, List.append_assoc]

theorem loggedStates_append (calls calls' : List (Call K)) :
    loggedStates (calls ++ calls') = loggedStates calls ++ loggedStates calls' :=
  List.filterMap_append

theorem errorTexts_append (calls calls' : List (Call K)) (p : PlayerId) :
    errorTexts (calls ++ calls') p = errorTexts calls p ++ errorTexts calls' p :=
  List.filterMap_append

section Transcript

variable {calls rest : List (Call K)}

/-- Calls that make no frame log no state. -/
theorem loggedStates_of_frameless (h : ∀ call ∈ calls, call.isState = false) :
    loggedStates calls = [] := by
  refine List.filterMap_eq_nil_iff.mpr ?_
  intro call hcall
  cases call with
  | state st => exact absurd (h _ hcall) (by simp [Call.isState])
  | instructionCount | error | finalGameParams => rfl

theorem loggedStates_transcript (entries : List (Entry K))
    (hrest : ∀ call ∈ rest, call.isState = false) :
    loggedStates (transcript entries ++ rest) = entries.map Entry.state := by
  induction entries with
  | nil => exact loggedStates_of_frameless hrest
  | cons e entries ih =>
    have hstate : loggedStates [.state e.state] = [e.state] := rfl
    rw [transcript, List.flatMap_cons, ← transcript, List.append_assoc, loggedStates_append,
      loggedStates_append, loggedStates_of_frameless e.frameless, hstate, ih, List.map_cons]
    rfl

/-- The errors of calls that make no frame wait for the next one. -/
theorem framesAfter_append (pending : PlayerId → List String)
    (h : ∀ call ∈ calls, call.isState = false) :
    framesAfter pending (calls ++ rest) =
      framesAfter (fun p => pending p ++ errorTexts calls p) rest := by
  induction calls generalizing pending with
  | nil =>
    refine congrArg (framesAfter · rest) (funext ?_)
    intro p
    exact (List.append_nil _).symm
  | cons call calls ih =>
    obtain ⟨hcall, hcalls⟩ := List.forall_mem_cons.mp h
    rw [List.cons_append, framesAfter_cons _ hcall, ih _ hcalls]
    refine congrArg (framesAfter · rest) (funext ?_)
    intro p
    rw [errorTexts_cons call calls, List.append_assoc]

/-- **The frames of a transcript**: each has the errors of its entry. -/
theorem errorFrames_transcript (entries : List (Entry K))
    (hrest : ∀ call ∈ rest, call.isState = false) :
    errorFrames (transcript entries ++ rest) = entries.map fun e => errorTexts e.calls := by
  rw [← framesAfter_none]
  induction entries with
  | nil =>
    have hnil : framesAfter (fun _ => []) (rest ++ []) = framesAfter _ [] :=
      framesAfter_append _ hrest
    rw [List.append_nil, framesAfter_nil] at hnil
    exact hnil
  | cons e entries ih =>
    rw [transcript, List.flatMap_cons, ← transcript, List.append_assoc, List.append_assoc,
      framesAfter_append _ e.frameless, List.singleton_append, framesAfter_state, ih,
      List.map_cons]
    rfl

end Transcript

/-! ## Soldiers and money -/

section Pictures

variable [Field K] [LinearOrder K] [FloorRing K]

/-- The frame shows the soldiers and the money of the state. -/
structure Pictures (st : State K) (frame : Proto.GameState) : Prop where
  soldiers : List.Forall₂ (Soldier.ShownAs st) (PlayerId.all.flatMap st.soldiers) frame.soldiers
  money : frame.money = PlayerId.all.map st.moneyManager.playerMoney

/-- What is logged of a soldier. -/
theorem shownAs_of_logSoldier {st : State K} {s : Soldier K} {message : Proto.Soldier}
    (h : logSoldier st s = .ok message) : s.ShownAs st message := by
  cases htarget : s.attackTarget with
  | none =>
    simp only [logSoldier, htarget, ok_bind, pure_eq_ok, Except.ok.injEq] at h
    subst h
    exact ⟨rfl, rfl, rfl, rfl, fun _ => ⟨rfl, rfl⟩, fun ptr hptr => by simp [htarget] at hptr⟩
  | some ptr =>
    cases hderef : st.deref ptr with
    | none => simp [logSoldier, htarget, hderef, bind, Except.bind] at h
    | some a =>
      simp only [logSoldier, htarget, hderef, ok_bind, pure_eq_ok, Except.ok.injEq] at h
      subst h
      refine ⟨rfl, rfl, rfl, rfl, fun hnone => by simp [htarget] at hnone, ?_⟩
      intro ptr' hptr'
      obtain rfl := Option.some.inj (htarget.symm.trans hptr')
      exact ⟨a, hderef, rfl, rfl⟩

/-- **A call of `LogState`** makes one frame, which shows the state. -/
theorem pictures_of_logState {c : Constants K} {l l' : Logger} {st : State K}
    (h : logState c l st = .ok l') :
    ∃ frame, l'.logs.states = l.logs.states ++ [frame] ∧ Pictures st frame := by
  obtain ⟨l₁, towers, hstates, hall⟩ : ∃ l₁ towers, l₁.logs.states = l.logs.states ∧
      logAllTurns st l₁ towers = .ok l' := by
    unfold logState at h
    dsimp only at h
    split at h
    · obtain ⟨⟨l₁, towers⟩, hfirst, hall⟩ := bind_eq_ok.mp h
      exact ⟨l₁, towers, (logFirstTurn_eq hfirst).2, hall⟩
    · have hdiff := diffTowers_eq st PlayerId.all ({ l with turnCount := l.turnCount + 1 }, [])
      exact ⟨_, _, congrArg Proto.Game.states hdiff.2, h⟩
  obtain ⟨soldiers, hsoldiers, hall⟩ := bind_eq_ok.mp hall
  obtain rfl := Except.ok.inj hall
  exact ⟨_, congrArg (· ++ _) hstates,
    (forall₂_of_mapM hsoldiers).imp fun _ _ => shownAs_of_logSoldier, rfl⟩

/-- **The frames of a run** show the states that are logged. -/
theorem pictured_run {c : Constants K} {calls : List (Call K)} {l : Logger}
    {playerInstructionLimitTurn playerInstructionLimitGame : ℤ}
    (h : run c calls (start playerInstructionLimitTurn playerInstructionLimitGame) = .ok l) :
    List.Forall₂ Pictures (loggedStates calls) l.logs.states := by
  obtain ⟨past, hpast, hpictures⟩ := foldlM_queue_invariant
    (I := fun (rest : List (Call K)) (l : Logger) => ∃ past,
      loggedStates calls = past ++ loggedStates rest ∧ List.Forall₂ Pictures past l.logs.states)
    (fun call rest l l' hI hcall => by
      obtain ⟨past, hpast, hpictures⟩ := hI
      cases call with
      | state st =>
        obtain ⟨frame, hstates, hframe⟩ := pictures_of_logState hcall
        refine ⟨past ++ [st], by rw [hpast, List.append_assoc]; rfl, ?_⟩
        rw [hstates]
        exact List.rel_append hpictures (.cons hframe .nil)
      | instructionCount p count =>
        obtain rfl := Except.ok.inj hcall
        exact ⟨past, hpast, hpictures⟩
      | error p errorType message =>
        obtain rfl := Except.ok.inj hcall
        rw [(logError_eq l p errorType message).2.1]
        exact ⟨past, hpast, hpictures⟩
      | finalGameParams =>
        obtain rfl := Except.ok.inj hcall
        exact ⟨past, hpast, hpictures⟩)
    ⟨[], rfl, .nil⟩ h
  rw [hpast, show loggedStates ([] : List (Call K)) = [] from rfl, List.append_nil]
  exact hpictures

/-! ## Errors -/

/-- The texts that the log has for the errors of its frame `n`. -/
def readErrors (log : Proto.Game) (n : ℕ) : Option (List (List (Option String))) :=
  log.states[n]?.map fun frame => frame.playerErrors.map (List.map log.errorMap)

/-- **The errors of a run** are read back from the log that is written in the end. -/
theorem readErrors_of_run {c : Constants K} {calls : List (Call K)} {l : Logger}
    {playerInstructionLimitTurn playerInstructionLimitGame : ℤ}
    (h : run c calls (start playerInstructionLimitTurn playerInstructionLimitGame) = .ok l)
    (hcodes : l.errorMap.length ≤ 2 ^ 31) (n : ℕ) :
    readErrors l.logFinalGameParams.logs n =
      (errorFrames calls)[n]?.map fun frame => PlayerId.all.map fun p => (frame p).map some := by
  obtain ⟨⟨pending, hrecorded⟩, -⟩ := recorded_run h
  have hread : ∀ frame ∈ errorFrames calls, ∀ p, ∀ text ∈ frame p,
      l.logFinalGameParams.logs.errorMap (int32 (code l.errorMap text)) = some text := by
    intro frame hframe p text ht
    have hmem := (hrecorded.texts text).mpr ⟨frame, List.mem_append_left _ hframe, p, ht⟩
    obtain ⟨hint, hcode⟩ := errorMap_logFinalGameParams hrecorded.interned hcodes hmem
    rw [hint, hcode]
  have hstates := congrArg (·[n]?) hrecorded.states
  simp only [List.getElem?_map] at hstates
  calc readErrors l.logFinalGameParams.logs n
      = (l.logs.states[n]?.map Proto.GameState.playerErrors).map
          (List.map (List.map l.logFinalGameParams.logs.errorMap)) := (Option.map_map ..).symm
    _ = (errorFrames calls)[n]?.map fun frame => PlayerId.all.map fun p => (frame p).map some := by
      rw [hstates, Option.map_map]
      refine Option.map_congr ?_
      intro frame hframe
      rw [Function.comp_apply, List.map_map]
      refine List.map_congr_left ?_
      intro p _
      rw [Function.comp_apply, List.map_map]
      exact List.map_congr_left fun text ht => hread frame (List.mem_of_getElem? hframe) p text ht

end Pictures

/-! ## Towers -/

section Towers

variable [Field K] [LinearOrder K] [FloorRing K]

/-- What a log shows of a state in its frame `n`: the soldiers and the money in the frame
itself, and the towers to whoever reads the log up to it. -/
structure Shows (log : Proto.Game) (n : ℕ) (st : State K) : Prop where
  pictures : ∃ frame, log.states[n]? = some frame ∧ Pictures st frame
  towers : ∀ id view, readFrames (log.states.take (n + 1)) id = some view ↔
    ∃ p, ∃ t ∈ st.towers p, t.id = id ∧ t.ShownAs view

variable [IsStrictOrderedRing K]

theorem Kept.readFrames_iff {snapshots : List (PlayerId → List (Tower K))} {l : Logger}
    (h : Kept (Appears snapshots) snapshots l) (hsnapshots : Snapshots snapshots) {n : ℕ}
    {towers : PlayerId → List (Tower K)} (hn : snapshots[n]? = some towers) (id : ℤ)
    (view : TowerView) : readFrames (l.logs.states.take (n + 1)) id = some view ↔
      ∃ p, ∃ t ∈ towers p, t.id = id ∧ t.ShownAs view := by
  have hc := consistent_of_snapshots hsnapshots
  have hlisted := listed_of_snapshots hsnapshots (List.mem_of_getElem? hn)
  have hmirrored := h.mirrored n towers hn
  constructor
  · intro hview
    obtain ⟨entry, hentry, rfl, hmatch⟩ := (hmirrored _).sound id view rfl hview
    obtain ⟨t, ht, rfl⟩ := List.mem_map.mp hentry
    have hknown := (hlisted.known _ t ht).1
    exact ⟨_, t, ht, (hc.id_towerLogEntry hknown).symm, hmatch.shownAs hc hknown⟩
  · rintro ⟨p, t, ht, rfl, hshown⟩
    have hknown := (hlisted.known p t ht).1
    obtain ⟨view', hview', hmatch⟩ := (hmirrored p).complete _ (List.mem_map_of_mem ht)
    rw [hc.id_towerLogEntry hknown] at hview'
    rw [hview', hshown.unique (hmatch.shownAs hc hknown)]

/-- **A run shows every state that is logged.** -/
theorem shows_of_run {c : Constants K} {calls : List (Call K)} {l : Logger}
    {playerInstructionLimitTurn playerInstructionLimitGame : ℤ}
    (h : run c calls (start playerInstructionLimitTurn playerInstructionLimitGame) = .ok l)
    (hsnapshots : Snapshots ((loggedStates calls).map State.towers))
    (hsoldiers : ∀ st ∈ (loggedStates calls).head?, st.soldiers .player1 ≠ [])
    (htargets : ∀ st ∈ loggedStates calls, TargetsAllocated st) :
    l.logs.states.length = (loggedStates calls).length ∧
      ∀ (n : ℕ) st, (loggedStates calls)[n]? = some st → Shows l.logs n st := by
  obtain ⟨l', hrun, hkept⟩ := exists_run hsnapshots hsoldiers htargets c playerInstructionLimitTurn
    playerInstructionLimitGame
  obtain rfl := Except.ok.inj (hrun.symm.trans h)
  have hpictures := pictured_run h
  refine ⟨hpictures.length_eq.symm, fun n st hst => ⟨?_, ?_⟩⟩
  · have hlt := (List.getElem?_eq_some_iff.mp hst).1
    have hlt' : n < l'.logs.states.length := hpictures.length_eq ▸ hlt
    have hpicture := (List.forall₂_iff_get.mp hpictures).2 n hlt hlt'
    rw [List.get_eq_getElem, List.get_eq_getElem, (List.getElem?_eq_some_iff.mp hst).2] at hpicture
    exact ⟨_, List.getElem?_eq_getElem hlt', hpicture⟩
  · intro id view
    refine hkept.readFrames_iff hsnapshots ?_ id view
    rw [List.getElem?_map, hst]
    rfl

end Towers

end Logger

end Simulator
