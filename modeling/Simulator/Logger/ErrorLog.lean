import Simulator.Foundation.Interning
import Simulator.Logger.TowerLog

/-!
# The error log is read back

An error is logged as a code, and the strings that the codes stand for are written once,
at the end of the game.  The table of codes is shared by the players and by all frames;
the errors of a frame wait in a buffer of their player until the frame is logged.

`Recorded` ties the four together: the table, the counter, the buffers and the frames
that are already written.  It says which strings the frames and the buffers hold, and
every call of the logger moves the strings as it moves the codes (`Recorded.logError`,
`Recorded.logState`).

## Reading with a table that is written later

When a code is written to a frame, the table is not complete: strings that have not occurred yet
have no code.  A reader has the table from the end of the game.  What makes the two agree is that
entries are only added, so that the code which a string has in the table once is the code it has
at the end.

The table is written turned around, from codes to strings.  As no code stands for two strings, the
turned table has all of them, whatever the order in which the entries are visited; the source
keeps the table in an unordered map and says nothing about that order.

The codes fit the field as long as there are not more than `2 ^ 31` different strings, and the
statement is about runs with at most so many.
-/

namespace Simulator

open Foundation

variable {K : Type}

namespace Logger

/-- The text that an error is logged under. -/
def fullMessage (errorType : ErrorType) (message : String) : String :=
  errorType.name ++ ": " ++ message

/-- The texts of the errors that some calls log for a player. -/
def errorTexts (calls : List (Call K)) (p : PlayerId) : List String :=
  calls.filterMap fun
    | .error q errorType message => if q = p then some (fullMessage errorType message) else none
    | _ => none

/-- A call of `LogState`. -/
def Call.isState : Call K → Bool
  | .state _ => true
  | _ => false

/-- The texts of the errors between two calls of `LogState`, for each call of `LogState`
the errors since the one before.  Those after the last one are not among them. -/
def errorFrames (calls : List (Call K)) : List (PlayerId → List String) :=
  ((calls.splitOnP Call.isState).map errorTexts).dropLast

/-- The texts of all errors. -/
def allErrorTexts (calls : List (Call K)) : List String := PlayerId.all.flatMap (errorTexts calls)

/-! ## The invariant -/

/-- What the logger has recorded: `frames` has the texts of the frames that are written,
`pending` the texts of the errors that wait for the next one. -/
structure Recorded (frames : List (PlayerId → List String)) (pending : PlayerId → List String)
    (l : Logger) : Prop where
  interned : Interned l.errorMap l.currentErrorCode
  /-- The texts in the table are those that were logged. -/
  texts : ∀ text, text ∈ l.errorMap.map Prod.fst ↔
    ∃ frame ∈ frames ++ [pending], ∃ p, text ∈ frame p
  states : l.logs.states.map Proto.GameState.playerErrors =
    frames.map fun frame => PlayerId.all.map fun p =>
      (frame p).map fun text => int32 (code l.errorMap text)
  errors : ∀ p, l.errors p = (pending p).map (code l.errorMap)

theorem recorded_start (playerInstructionLimitTurn playerInstructionLimitGame : ℤ) :
    Recorded [] (fun _ => []) (start playerInstructionLimitTurn playerInstructionLimitGame) where
  interned := interned_nil
  texts := by simp [start]
  states := rfl
  errors := fun _ => rfl

section Recorded

variable {frames : List (PlayerId → List String)} {pending : PlayerId → List String}
  {l l' : Logger}

theorem Recorded.congr (h : Recorded frames pending l) (hmap : l'.errorMap = l.errorMap)
    (hnext : l'.currentErrorCode = l.currentErrorCode) (hstates : l'.logs.states = l.logs.states)
    (herrors : l'.errors = l.errors) : Recorded frames pending l' where
  interned := by
    rw [hmap, hnext]
    exact h.interned
  texts := by
    rw [hmap]
    exact h.texts
  states := by
    rw [hstates, hmap]
    exact h.states
  errors := by
    rw [herrors, hmap]
    exact h.errors

theorem exists_text_update {p : PlayerId} {text text' : String} :
    (∃ frame ∈ frames ++ [Function.update pending p (pending p ++ [text'])],
      ∃ q, text ∈ frame q) ↔
      text = text' ∨ ∃ frame ∈ frames ++ [pending], ∃ q, text ∈ frame q := by
  have hlast : (∃ q, text ∈ Function.update pending p (pending p ++ [text']) q) ↔
      text = text' ∨ ∃ q, text ∈ pending q := by
    constructor
    · rintro ⟨q, hq⟩
      by_cases hqp : q = p
      · subst hqp
        rw [Function.update_self, List.mem_append, List.mem_singleton] at hq
        exact hq.symm.imp_right fun hq => ⟨q, hq⟩
      · rw [Function.update_of_ne hqp] at hq
        exact .inr ⟨q, hq⟩
    · rintro (rfl | ⟨q, hq⟩)
      · exact ⟨p, by simp⟩
      · refine ⟨q, ?_⟩
        by_cases hqp : q = p
        · subst hqp
          simp [hq]
        · rwa [Function.update_of_ne hqp]
  simp only [List.mem_append, List.mem_singleton, or_and_right, exists_or, exists_eq_left, hlast]
  exact or_left_comm

theorem logError_of_some {p : PlayerId} {errorType : ErrorType} {message : String} {n : ℤ}
    (h : l.errorMap.lookup (fullMessage errorType message) = some n) :
    l.logError p errorType message =
      { l with errors := Function.update l.errors p (l.errors p ++ [n]) } := by
  rw [fullMessage] at h
  simp only [Logger.logError, h]

theorem logError_of_none {p : PlayerId} {errorType : ErrorType} {message : String}
    (h : l.errorMap.lookup (fullMessage errorType message) = none) :
    l.logError p errorType message =
      { l with
        errorMap := l.errorMap ++ [(fullMessage errorType message, l.currentErrorCode)]
        currentErrorCode := l.currentErrorCode + 1
        errors := Function.update l.errors p (l.errors p ++ [l.currentErrorCode]) } := by
  rw [fullMessage] at h
  simp only [Logger.logError, fullMessage, h]

theorem Recorded.logError (h : Recorded frames pending l) (p : PlayerId) (errorType : ErrorType)
    (message : String) :
    Recorded frames
      (Function.update pending p (pending p ++ [fullMessage errorType message]))
      (l.logError p errorType message) := by
  set text := fullMessage errorType message with htext
  have herrors : ∀ (table : List (String × ℤ)) (n : ℤ), code table text = n →
      (∀ q, l.errors q = (pending q).map (code table)) → ∀ q,
      Function.update l.errors p (l.errors p ++ [n]) q =
        (Function.update pending p (pending p ++ [text]) q).map (code table) := by
    intro table n hn hq q
    by_cases hqp : q = p
    · subst hqp
      rw [Function.update_self, Function.update_self, List.map_append, hq, ← hn]
      rfl
    · rw [Function.update_of_ne hqp, Function.update_of_ne hqp, hq]
  cases hlookup : l.errorMap.lookup text with
  | some n =>
    rw [logError_of_some hlookup]
    have hcode : code l.errorMap text = n := by rw [code, hlookup]; rfl
    refine ⟨h.interned, ?_, h.states, herrors _ _ hcode h.errors⟩
    intro text'
    rw [exists_text_update, ← h.texts]
    refine ⟨.inr, fun ht => ht.elim ?_ id⟩
    rintro rfl
    exact List.mem_map_of_mem (mem_of_lookup hlookup)
  | none =>
    rw [logError_of_none hlookup]
    -- the codes of the texts that are already written or wait do not change
    have hstable : ∀ frame ∈ frames ++ [pending], ∀ q, ∀ text' ∈ frame q,
        code (l.errorMap ++ [(text, l.currentErrorCode)]) text' = code l.errorMap text' :=
      fun frame hframe q text' ht => code_append _ ((h.texts text').mpr ⟨frame, hframe, q, ht⟩)
    refine ⟨h.interned.concat hlookup, ?_, ?_,
      herrors _ _ (code_concat hlookup _) ?_⟩
    · intro text'
      rw [exists_text_update, ← h.texts, List.map_append, List.mem_append, List.map_singleton,
        List.mem_singleton]
      exact or_comm
    · rw [h.states]
      refine List.map_congr_left fun frame hframe => List.map_congr_left fun q _ =>
        List.map_congr_left ?_
      intro text' ht
      rw [hstable frame (List.mem_append_left _ hframe) q text' ht]
    · intro q
      rw [h.errors]
      exact List.map_congr_left fun text' ht => (hstable pending (by simp) q text' ht).symm

/-- The errors that wait are written to a new frame. -/
structure Flushed (l l' : Logger) : Prop where
  errorMap : l'.errorMap = l.errorMap
  currentErrorCode : l'.currentErrorCode = l.currentErrorCode
  errors : l'.errors = fun _ => []
  states : ∃ frame : Proto.GameState, l'.logs.states = l.logs.states ++ [frame] ∧
    frame.playerErrors = PlayerId.all.map fun p => (l.errors p).map int32

theorem Recorded.flushed (h : Recorded frames pending l) (hflush : Flushed l l') :
    Recorded (frames ++ [pending]) (fun _ => []) l' where
  interned := by
    rw [hflush.errorMap, hflush.currentErrorCode]
    exact h.interned
  texts := by
    intro text
    rw [hflush.errorMap, h.texts]
    simp only [List.mem_append, List.mem_singleton, or_and_right, exists_or, exists_eq_left,
      List.not_mem_nil, exists_false, or_false]
  states := by
    obtain ⟨frame, hstates, herrors⟩ := hflush.states
    have hframe : frame.playerErrors = PlayerId.all.map fun p =>
        (pending p).map fun text => int32 (code l.errorMap text) := by
      rw [herrors]
      refine List.map_congr_left ?_
      intro p _
      rw [h.errors, List.map_map]
      rfl
    rw [hstates, hflush.errorMap, List.map_append, List.map_append, h.states, List.map_singleton,
      List.map_singleton, hframe]
  errors := by
    intro p
    rw [hflush.errors]
    rfl

end Recorded

section Runs

variable [Field K] [LinearOrder K] [FloorRing K]

theorem flushed_logAllTurns {st : State K} {l l' : Logger} {towers : List Proto.Tower}
    (h : logAllTurns st l towers = .ok l') : Flushed l l' := by
  simp only [logAllTurns, bind_eq_ok, pure_eq_ok, Except.ok.injEq] at h
  obtain ⟨soldiers, -, rfl⟩ := h
  exact ⟨rfl, rfl, rfl, _, rfl, rfl⟩

theorem flushed_logState {c : Constants K} {st : State K} {l l' : Logger}
    (h : logState c l st = .ok l') : Flushed l l' := by
  obtain ⟨l₁, towers, hall, hmap, hnext, herrors, hstates⟩ : ∃ l₁ towers,
      logAllTurns st l₁ towers = .ok l' ∧ l₁.errorMap = l.errorMap ∧
        l₁.currentErrorCode = l.currentErrorCode ∧ l₁.errors = l.errors ∧
        l₁.logs.states = l.logs.states := by
    unfold logState at h
    dsimp only at h
    split at h
    · obtain ⟨_, hfirst, hall⟩ := bind_eq_ok.mp h
      unfold logFirstTurn at hfirst
      split at hfirst
      · cases hfirst
      · obtain rfl := Except.ok.inj hfirst
        exact ⟨_, _, hall, rfl, rfl, rfl, rfl⟩
    · exact ⟨_, _, h, rfl, rfl, rfl, rfl⟩
  have hflush := flushed_logAllTurns hall
  exact ⟨hflush.errorMap.trans hmap, hflush.currentErrorCode.trans hnext, hflush.errors,
    herrors ▸ hstates ▸ hflush.states⟩

end Runs

/-! ## The frames of some calls -/

/-- The frames of some calls before which the errors in `pending` wait. -/
def framesAfter (pending : PlayerId → List String) (calls : List (Call K)) :
    List (PlayerId → List String) :=
  (((calls.splitOnP Call.isState).map errorTexts).modifyHead fun frame p =>
    pending p ++ frame p).dropLast

theorem framesAfter_none (calls : List (Call K)) :
    framesAfter (fun _ => []) calls = errorFrames calls := by
  have hid : (fun (frame : PlayerId → List String) p => [] ++ frame p) = id := rfl
  rw [framesAfter, hid, List.modifyHead_id]
  rfl

@[simp] theorem framesAfter_nil (pending : PlayerId → List String) :
    framesAfter pending ([] : List (Call K)) = [] := by
  simp [framesAfter]

theorem framesAfter_state (pending : PlayerId → List String) (st : State K)
    (calls : List (Call K)) :
    framesAfter pending (.state st :: calls) = pending :: framesAfter (fun _ => []) calls := by
  have hne : (calls.splitOnP Call.isState).map errorTexts ≠ [] := by simp
  have hnil : (fun p => pending p ++ errorTexts ([] : List (Call K)) p) = pending :=
    funext fun p => List.append_nil _
  rw [framesAfter_none, framesAfter, List.splitOnP_cons_eq_if_modifyHead]
  show (List.modifyHead _ (errorTexts [] :: _)).dropLast = _
  rw [List.modifyHead_cons, List.dropLast_cons_of_ne_nil hne, hnil]
  rfl

theorem errorTexts_cons (call : Call K) (calls : List (Call K)) (p : PlayerId) :
    errorTexts (call :: calls) p = errorTexts [call] p ++ errorTexts calls p :=
  List.filterMap_append (l := [call])

theorem framesAfter_cons (pending : PlayerId → List String) {call : Call K}
    (h : call.isState = false) (calls : List (Call K)) :
    framesAfter pending (call :: calls) =
      framesAfter (fun p => pending p ++ errorTexts [call] p) calls := by
  rw [framesAfter, framesAfter, List.splitOnP_cons_eq_if_modifyHead, h, if_neg Bool.false_ne_true]
  cases calls.splitOnP Call.isState with
  | nil => rfl
  | cons first rest =>
    rw [List.modifyHead_cons, List.map_cons, List.map_cons, List.modifyHead_cons,
      List.modifyHead_cons]
    refine congrArg (fun frame => (frame :: rest.map errorTexts).dropLast) (funext ?_)
    intro p
    rw [errorTexts_cons, List.append_assoc]

/-! ## The run -/

section Run

variable [Field K] [LinearOrder K] [FloorRing K]

/-- What a logger has recorded of some calls of which `rest` is still to be made. -/
def Recording (calls rest : List (Call K)) (l : Logger) : Prop :=
  ∃ frames pending, Recorded frames pending l ∧
    frames ++ framesAfter pending rest = errorFrames calls ∧
    ∀ p, (frames ++ [pending]).flatMap (fun frame => frame p) ++ errorTexts rest p =
      errorTexts calls p

omit [Field K] [LinearOrder K] [FloorRing K] in
/-- A call that logs neither an error nor a state. -/
theorem Recording.pass {calls rest : List (Call K)} {call : Call K} {l l' : Logger}
    (h : Recording calls (call :: rest) l) (hstate : call.isState = false)
    (htexts : ∀ p, errorTexts [call] p = []) (hl : ∀ frames pending, Recorded frames pending l →
      Recorded frames pending l') : Recording calls rest l' := by
  obtain ⟨frames, pending, hrecorded, hframes, hall⟩ := h
  refine ⟨frames, pending, hl _ _ hrecorded, ?_, ?_⟩
  · rw [← hframes, framesAfter_cons _ hstate]
    simp only [htexts, List.append_nil]
  · intro p
    rw [← hall p, errorTexts_cons, htexts, List.nil_append]

/-- **A call of the logger** moves the texts as it moves the codes. -/
theorem Recording.call {c : Constants K} {calls rest : List (Call K)} {call : Call K}
    {l l' : Logger} (h : Recording calls (call :: rest) l) (hcall : Logger.call c l call = .ok l') :
    Recording calls rest l' := by
  cases call with
  | state st =>
    obtain ⟨frames, pending, hrecorded, hframes, htexts⟩ := h
    refine ⟨frames ++ [pending], fun _ => [], hrecorded.flushed (flushed_logState hcall), ?_, ?_⟩
    · rw [← hframes, framesAfter_state, List.append_assoc]
      rfl
    · intro p
      rw [← htexts p, @List.flatMap_append _ _ (frames ++ [pending])]
      simp [errorTexts]
  | instructionCount p count =>
    obtain rfl := Except.ok.inj hcall
    exact h.pass rfl (fun _ => rfl) fun _ _ hr => hr.congr rfl rfl rfl rfl
  | error p errorType message =>
    obtain rfl := Except.ok.inj hcall
    obtain ⟨frames, pending, hrecorded, hframes, htexts⟩ := h
    have hupdate : (fun q => pending q ++ errorTexts [Call.error (K := K) p errorType message] q) =
        Function.update pending p (pending p ++ [fullMessage errorType message]) := by
      ext q
      by_cases hq : q = p
      · subst hq
        simp [errorTexts]
      · rw [Function.update_of_ne hq]
        simp [errorTexts, Ne.symm hq]
    refine ⟨frames, _, hrecorded.logError p errorType message, ?_, ?_⟩
    · rw [← hframes, framesAfter_cons _ rfl, hupdate]
    · intro q
      rw [← htexts q, errorTexts_cons, ← hupdate]
      simp
  | finalGameParams =>
    obtain rfl := Except.ok.inj hcall
    exact h.pass rfl (fun _ => rfl) fun _ _ hr => hr.congr rfl rfl rfl rfl

variable {c : Constants K} {calls : List (Call K)}
  {playerInstructionLimitTurn playerInstructionLimitGame : ℤ}

/-- **A run of the logger** records the errors frame by frame, and its table has the texts
of all errors. -/
theorem recorded_run {l : Logger}
    (h : run c calls (start playerInstructionLimitTurn playerInstructionLimitGame) = .ok l) :
    (∃ pending, Recorded (errorFrames calls) pending l) ∧
      ∀ text, text ∈ l.errorMap.map Prod.fst ↔ text ∈ allErrorTexts calls := by
  have hstart : Recording calls calls
      (start playerInstructionLimitTurn playerInstructionLimitGame) :=
    ⟨[], fun _ => [], recorded_start _ _, framesAfter_none calls, fun _ => rfl⟩
  obtain ⟨frames, pending, hrecorded, hframes, htexts⟩ :=
    foldlM_queue_invariant (fun _ _ _ _ h hcall => h.call hcall) hstart h
  rw [framesAfter_nil, List.append_nil] at hframes
  subst hframes
  refine ⟨⟨pending, hrecorded⟩, ?_⟩
  intro text
  have hmem : ∀ p, text ∈ errorTexts calls p ↔
      ∃ frame ∈ errorFrames calls ++ [pending], text ∈ frame p := fun p => by
    rw [← htexts p, ← List.mem_flatMap]
    exact List.mem_append.trans (or_iff_left List.not_mem_nil)
  simp only [hrecorded.texts, allErrorTexts, List.mem_flatMap, hmem, PlayerId.mem_all, true_and]
  exact ⟨fun ⟨frame, hframe, p, ht⟩ => ⟨p, frame, hframe, ht⟩,
    fun ⟨p, frame, hframe, ht⟩ => ⟨frame, hframe, p, ht⟩⟩

/-- A run succeeds when there are soldiers and no target pointer dangles. -/
theorem exists_run_eq_ok (hsoldiers : ∀ st ∈ (loggedStates calls).head?, st.soldiers .player1 ≠ [])
    (htargets : ∀ st ∈ loggedStates calls, TargetsAllocated st) :
    ∃ l, run c calls (start playerInstructionLimitTurn playerInstructionLimitGame) = .ok l := by
  obtain ⟨l, hrun, -⟩ := foldlM_queue (f := call c)
    (I := fun rest l => (∀ st ∈ loggedStates rest, TargetsAllocated st) ∧
      (1 ≤ l.turnCount ∨ l.turnCount = 0 ∧
        ∀ st ∈ (loggedStates rest).head?, st.soldiers .player1 ≠ []))
    (fun a rest l hI => by
      obtain ⟨htargets, hcount⟩ := hI
      cases a with
      | state st =>
        obtain ⟨l', hl', hcount'⟩ : ∃ l', logState c l st = .ok l' ∧
            l'.turnCount = l.turnCount + 1 := by
          have hst := htargets st (List.mem_cons_self ..)
          unfold logState
          dsimp only
          split
          · rename_i hone
            have hsoldiers := (hcount.resolve_left (by omega)).2 st rfl
            obtain ⟨l₁, hfirst, hcount₁, -⟩ := exists_logFirstTurn c hsoldiers
              { l with turnCount := l.turnCount + 1 }
            obtain ⟨l', _, hall, -, hcount', -⟩ := exists_logAllTurns hst l₁ _
            exact ⟨l', by rw [hfirst, ok_bind, hall], hcount'.trans hcount₁⟩
          · obtain ⟨l', _, hall, -, hcount', -⟩ := exists_logAllTurns hst _ _
            exact ⟨l', hall, hcount'⟩
        exact ⟨l', hl', fun st' h => htargets st' (List.mem_cons_of_mem _ h), .inl (by omega)⟩
      | instructionCount p count => exact ⟨_, rfl, htargets, hcount⟩
      | error p errorType message =>
        refine ⟨_, rfl, htargets, ?_⟩
        rwa [(logError_eq l p errorType message).1]
      | finalGameParams => exact ⟨_, rfl, htargets, hcount⟩)
    (s := start playerInstructionLimitTurn playerInstructionLimitGame)
    ⟨htargets, .inr ⟨rfl, hsoldiers⟩⟩
  exact ⟨l, hrun⟩

/-! ## The round trip -/

theorem errorMap_logFinalGameParams {l : Logger} (h : Interned l.errorMap l.currentErrorCode)
    (hcodes : l.errorMap.length ≤ 2 ^ 31) {text : String} (ht : text ∈ l.errorMap.map Prod.fst) :
    int32 (code l.errorMap text) = code l.errorMap text ∧
      l.logFinalGameParams.logs.errorMap (code l.errorMap text) = some text := by
  have hint : ∀ e ∈ l.errorMap, int32 e.2 = e.2 := fun e he => by
    have hbounds := h.code_bounds he
    exact IsInt32.int32_eq ⟨by omega, by omega⟩
  have hmem := mem_code ht
  have hkey : ∀ e ∈ l.errorMap, ∀ e' ∈ l.errorMap, int32 e.2 = int32 e'.2 → e = e' :=
    fun e he e' he' heq => List.inj_on_of_nodup_map h.nodup_codes he he'
      (by rwa [hint e he, hint e' he'] at heq)
  have hflip := foldl_update_eq hkey Prod.fst l.logs.errorMap hmem
  rw [hint _ hmem] at hflip
  exact ⟨hint _ hmem, hflip⟩

/-- **The error log is read back.**  Whatever else is logged in between, there is one code
for each text, and the frames have, in order, the codes of the texts that were logged
for a player since the frame before; the table that is written last takes the codes back
to the texts. -/
theorem errorLog_roundTrip (hcodes : (allErrorTexts calls).dedup.length ≤ 2 ^ 31) :
    ((∀ st ∈ (loggedStates calls).head?, st.soldiers .player1 ≠ []) →
      (∀ st ∈ loggedStates calls, TargetsAllocated st) →
      ∃ l, run c (calls ++ [.finalGameParams])
        (start playerInstructionLimitTurn playerInstructionLimitGame) = .ok l) ∧
    ∀ l, run c (calls ++ [.finalGameParams])
        (start playerInstructionLimitTurn playerInstructionLimitGame) = .ok l →
      (l.logs.states.map fun frame => frame.playerErrors.map (List.map l.logs.errorMap)) =
        ((errorFrames calls).map fun frame => PlayerId.all.map fun p => (frame p).map some) ∧
      ∃ errorCode : String → ℤ,
        (∀ text ∈ allErrorTexts calls, ∀ text' ∈ allErrorTexts calls,
          errorCode text = errorCode text' → text = text') ∧
        (∀ text ∈ allErrorTexts calls, l.logs.errorMap (errorCode text) = some text) ∧
        l.logs.states.map Proto.GameState.playerErrors =
          (errorFrames calls).map fun frame => PlayerId.all.map fun p =>
            (frame p).map errorCode := by
  have hfinal : ∀ l, run c (calls ++ [.finalGameParams])
      (start playerInstructionLimitTurn playerInstructionLimitGame) = .ok l ↔
      ∃ l₁, run c calls (start playerInstructionLimitTurn playerInstructionLimitGame) = .ok l₁ ∧
        l₁.logFinalGameParams = l := fun l => by
    rw [run, List.foldlM_append, bind_eq_ok]
    exact exists_congr fun l₁ => and_congr_right fun _ => ⟨Except.ok.inj, congrArg Except.ok⟩
  refine ⟨fun hsoldiers htargets => ?_, fun l hl => ?_⟩
  · obtain ⟨l₁, hrun⟩ := exists_run_eq_ok (c := c) hsoldiers htargets
    exact ⟨_, (hfinal _).mpr ⟨l₁, hrun, rfl⟩⟩
  obtain ⟨l, hrun, rfl⟩ := (hfinal l).mp hl
  obtain ⟨⟨pending, hrecorded⟩, htexts⟩ := recorded_run hrun
  have hlength : l.errorMap.length ≤ 2 ^ 31 := (hrecorded.interned.length_le fun e he =>
    (htexts e.1).mp (List.mem_map_of_mem he)).trans hcodes
  have hmap := fun text ht => errorMap_logFinalGameParams hrecorded.interned hlength
    ((htexts text).mpr ht)
  have hlogged : ∀ frame ∈ errorFrames calls, ∀ p, ∀ text ∈ frame p, text ∈ allErrorTexts calls :=
    fun frame hframe p text ht => (htexts text).mp <| (hrecorded.texts text).mpr
      ⟨frame, List.mem_append_left _ hframe, p, ht⟩
  have hstates : l.logs.states.map Proto.GameState.playerErrors =
      (errorFrames calls).map fun frame => PlayerId.all.map fun p =>
        (frame p).map (code l.errorMap) := by
    rw [hrecorded.states]
    exact List.map_congr_left fun frame hframe => List.map_congr_left fun p _ =>
      List.map_congr_left fun text ht => (hmap text (hlogged frame hframe p text ht)).1
  refine ⟨?_, code l.errorMap, ?_, fun text ht => (hmap text ht).2,
    hstates⟩
  · calc l.logs.states.map _
        = (l.logs.states.map Proto.GameState.playerErrors).map
            (List.map (List.map l.logFinalGameParams.logs.errorMap)) := (List.map_map ..).symm
      _ = (errorFrames calls).map fun frame => PlayerId.all.map fun p => (frame p).map some := by
        rw [hstates, List.map_map]
        refine List.map_congr_left ?_
        intro frame hframe
        rw [Function.comp_apply, List.map_map]
        refine List.map_congr_left ?_
        intro p _
        rw [Function.comp_apply, List.map_map]
        exact List.map_congr_left fun text ht => (hmap text (hlogged frame hframe p text ht)).2
  · intro text ht text' ht'
    exact hrecorded.interned.eq_of_code_eq ((htexts text).mpr ht) ((htexts text').mpr ht')

end Run

/-- Calls that log two frames: both players make one error, and player 1 makes it again
after the first frame. -/
def sampleErrors : List (Call ℚ) :=
  let st := sampleFrame fun _ => []
  [.error .player1 .invalidPosition "x", .error .player2 .noMoreTowers "y",
    .error .player2 .invalidPosition "x", .state st, .error .player1 .invalidPosition "x",
    .state st, .error .player1 .noMoreUpgrades "z"]

/-- The errors of the two frames are read back. -/
theorem errorLog_roundTrip_sample :
    ∃ l, run sampleRules.toConstants (sampleErrors ++ [.finalGameParams]) (start 10 100) = .ok l ∧
      (l.logs.states.map fun frame => frame.playerErrors.map (List.map l.logs.errorMap)) =
        [[[some "INVALID_POSITION: x"],
            [some "NO_MORE_TOWERS: y", some "INVALID_POSITION: x"]],
          [[some "INVALID_POSITION: x"], []]] := by
  have htrip := @errorLog_roundTrip ℚ _ _ _ sampleRules.toConstants sampleErrors 10 100
    (by decide +kernel)
  have hframe : ∀ st ∈ loggedStates sampleErrors, st = sampleFrame fun _ => [] := by
    rintro st (_ | ⟨_, _ | ⟨_, ⟨⟩⟩⟩) <;> rfl
  obtain ⟨l, hl⟩ := htrip.1
    (fun st hst => by
      rw [hframe st (List.mem_of_mem_head? hst)]
      exact List.cons_ne_nil _ _)
    (fun st hst => by
      rw [hframe st hst]
      exact targetsAllocated_sampleFrame _)
  exact ⟨l, hl, (htrip.2 l hl).1.trans (by decide +kernel)⟩

end Logger

end Simulator
