import Simulator.Foundation.While
import Simulator.Logger.Messages
import Simulator.State.State
import Simulator.Syncer.StateSyncer

/-!
# The logger

`Logger` turns the state of the game into a frame of the log every turn.  Of the
towers it logs only what has changed: it remembers id, hp and level of the towers it
has logged, in the order of the tower lists, and runs through that list and the list
of the towers side by side.

`Logger.Call` is a call of one of its methods.

## The diff

The diff of a player's towers is three loops with two pointers.  The first runs through both lists
and compares ids: an id of the log that is less than that of the tower belongs to a tower that was
destroyed, and one that is equal to a tower whose hp and level are compared.  The second runs
through what is left of the log, the third through what is left of the towers.  Messages are added
to the frame on the way, and the log of the player is brought up to date in place.  The loops are
modelled with their pointers, as the log changes while it is run through.

## What waits

Some calls do not write to a frame.  Instruction counts and errors wait in the logger for the next
call of `LogState`, which makes a frame of the state, adds what has been waiting, and begins anew.
Errors get codes when they are logged, and the texts that the codes stand for are written at the
end of the game.
-/

namespace Simulator

open Foundation

variable {K : Type}

/-- `ErrorTypeName`. -/
def ErrorType.name : ErrorType → String
  | noMultipleSoldierTasks => "NO_MULTIPLE_SOLDIER_TASKS"
  | noMultipleTowerTasks => "NO_MULTIPLE_TOWER_TASKS"
  | noAlterActorId => "NO_ALTER_ACTOR_ID"
  | noActionByDeadSoldier => "NO_ACTION_BY_DEAD_SOLDIER"
  | noAttackBaseTower => "NO_ATTACK_BASE_TOWER"
  | invalidPosition => "INVALID_POSITION"
  | noAttackSelfTower => "NO_ATTACK_SELF_TOWER"
  | noAttackSelfSoldier => "NO_ATTACK_SELF_SOLDIER"
  | noAttackDeadSoldier => "NO_ATTACK_DEAD_SOLDIER"
  | invalidTerritory => "INVALID_TERRITORY"
  | insufficientFunds => "INSUFFICIENT_FUNDS"
  | noMoreUpgrades => "NO_MORE_UPGRADES"
  | noSuicideBaseTower => "NO_SUICIDE_BASE_TOWER"
  | noMoreTowers => "NO_MORE_TOWERS"
  | noAttackRazedTower => "NO_ATTACK_RAZED_TOWER"
  | noAttackImmuneSoldier => "NO_ATTACK_IMMUNE_SOLDIER"

/-- Entry for one tower in the logger. -/
structure TowerLogEntry where
  id : ℤ
  hp : ℤ
  level : ℤ
  deriving DecidableEq, Repr

/-- The logger. -/
structure Logger where
  turnCount : ℤ
  /-- The towers of each player at the previous turn. -/
  towerLogs : PlayerId → List TowerLogEntry
  logs : Proto.Game
  instructionCounts : PlayerId → ℤ
  /-- The error strings and their codes. -/
  errorMap : List (String × ℤ)
  currentErrorCode : ℤ
  errors : PlayerId → List ℤ
  playerInstructionLimitTurn : ℤ
  playerInstructionLimitGame : ℤ

namespace Logger

/-- The constructor. -/
def start (playerInstructionLimitTurn playerInstructionLimitGame : ℤ) : Logger where
  turnCount := 0
  towerLogs := fun _ => []
  logs := {}
  instructionCounts := fun _ => 0
  errorMap := []
  currentErrorCode := 0
  errors := fun _ => []
  playerInstructionLimitTurn := playerInstructionLimitTurn
  playerInstructionLimitGame := playerInstructionLimitGame

/-! ## Towers -/

/-- The entry that remembers a tower. -/
def towerLogEntry (t : Tower K) : TowerLogEntry where
  id := int32 t.id
  hp := t.hp
  level := int32 t.towerLevel

section Messages

variable [Field K] [LinearOrder K] [FloorRing K]

/-- The message for a tower that is logged for the first time. -/
def newTower (t : Tower K) : Proto.Tower where
  id := int32 t.id
  playerId := int32 t.playerId.index
  hp := int32 t.hp
  x := int32 t.position.x.toInt
  y := int32 t.position.y.toInt
  isBase := t.isBase
  towerLevel := int32 t.towerLevel
  isDead := false

omit [Field K] [LinearOrder K] [FloorRing K] in
/-- The message for a tower whose stats have changed. -/
def changedTower (p : PlayerId) (t : Tower K) : Proto.Tower where
  id := int32 t.id
  playerId := p.index
  hp := int32 t.hp
  towerLevel := int32 t.towerLevel

/-- The message for a tower that was destroyed. -/
def deadTower (currLog : TowerLogEntry) : Proto.Tower where
  id := int32 currLog.id
  isDead := true

/-- The local variables of the diff of one player's towers. -/
structure TowerScan where
  logPtr : ℕ
  towerPtr : ℕ
  /-- `tower_logs[i]`. -/
  towerLog : List TowerLogEntry
  /-- The towers of the frame. -/
  frame : List Proto.Tower

namespace TowerScan

/-- How many entries of the log are still to be looked at. -/
def logLeft (s : TowerScan) : ℕ := s.towerLog.length - s.logPtr

omit [Field K] [LinearOrder K] [FloorRing K] in
/-- How many towers are still to be looked at. -/
def towerLeft (towers : List (Tower K)) (s : TowerScan) : ℕ := towers.length - s.towerPtr

/-- The next entry of the log belongs to a tower that was destroyed. -/
def destroy (s : TowerScan) (currLog : TowerLogEntry) : TowerScan :=
  -- `log_ptr` stays, the size of the log is already reduced
  { s with
    frame := s.frame ++ [deadTower currLog]
    towerLog := s.towerLog.eraseIdx s.logPtr }

omit [Field K] [LinearOrder K] [FloorRing K] in
/-- The body of the first loop, which runs through both lists. -/
def both (p : PlayerId) (towers : List (Tower K)) (s : TowerScan) : TowerScan :=
  match s.towerLog[s.logPtr]?, towers[s.towerPtr]? with
  | some currLog, some currTower =>
    if currLog.id = int32 currTower.id then
      if currLog.hp ≠ currTower.hp ∨ currLog.level ≠ int32 currTower.towerLevel then
        { logPtr := s.logPtr + 1
          towerPtr := s.towerPtr + 1
          towerLog := s.towerLog.set s.logPtr
            { currLog with hp := currTower.hp, level := int32 currTower.towerLevel }
          frame := s.frame ++ [changedTower p currTower] }
      else { s with logPtr := s.logPtr + 1, towerPtr := s.towerPtr + 1 }
    -- if a tower dies, the main tower id will be greater
    else if currLog.id < currTower.id then s.destroy currLog
    else { s with logPtr := s.logPtr + 1, towerPtr := s.towerPtr + 1 }
  | _, _ => s

/-- The body of the second loop: the remaining entries belong to destroyed towers. -/
def logTail (s : TowerScan) : TowerScan :=
  match s.towerLog[s.logPtr]? with
  | some currLog => s.destroy currLog
  | none => s

/-- The body of the third loop: the remaining towers are newly built. -/
def towerTail (towers : List (Tower K)) (s : TowerScan) : TowerScan :=
  match towers[s.towerPtr]? with
  | some currTower => { s with
      frame := s.frame ++ [newTower currTower]
      towerLog := s.towerLog ++ [towerLogEntry currTower]
      towerPtr := s.towerPtr + 1 }
  | none => s

theorem logLeft_destroy {s : TowerScan} (h : s.logPtr < s.towerLog.length)
    (currLog : TowerLogEntry) :
    (s.destroy currLog).logLeft < s.logLeft := by
  have hlength : (s.towerLog.eraseIdx s.logPtr).length = s.towerLog.length - 1 :=
    List.length_eraseIdx_of_lt h
  show (s.towerLog.eraseIdx s.logPtr).length - s.logPtr < s.towerLog.length - s.logPtr
  omega

omit [Field K] [LinearOrder K] [FloorRing K] in
theorem logLeft_both (p : PlayerId) (towers : List (Tower K)) (s : TowerScan)
    (h : s.logPtr < s.towerLog.length ∧ s.towerPtr < towers.length) :
    (s.both p towers).logLeft < s.logLeft := by
  obtain ⟨hlog, htower⟩ := h
  have hstep : s.towerLog.length - (s.logPtr + 1) < s.towerLog.length - s.logPtr := by omega
  simp only [both, List.getElem?_eq_getElem hlog, List.getElem?_eq_getElem htower]
  split_ifs
  · simpa [logLeft] using hstep
  · exact hstep
  · exact logLeft_destroy hlog _
  · exact hstep

theorem logLeft_logTail (s : TowerScan) (h : s.logPtr < s.towerLog.length) :
    s.logTail.logLeft < s.logLeft := by
  simp only [logTail, List.getElem?_eq_getElem h]
  exact logLeft_destroy h _

theorem towerLeft_towerTail (towers : List (Tower K)) (s : TowerScan)
    (h : s.towerPtr < towers.length) :
    (s.towerTail towers).towerLeft towers < s.towerLeft towers := by
  simp only [towerTail, List.getElem?_eq_getElem h, towerLeft]
  omega

/-- The three loops over one player's towers. -/
def run (p : PlayerId) (towers : List (Tower K)) (s : TowerScan) : TowerScan :=
  let s := whileLoop (fun s => s.logPtr < s.towerLog.length ∧ s.towerPtr < towers.length)
    (both p towers) logLeft (logLeft_both p towers) s
  let s := whileLoop (fun s => s.logPtr < s.towerLog.length) logTail logLeft logLeft_logTail s
  whileLoop (fun s => s.towerPtr < towers.length) (towerTail towers) (towerLeft towers)
    (towerLeft_towerTail towers) s

end TowerScan

/-- Log the changes of one player's towers. -/
def diffTowers (st : State K) (l : Logger × List Proto.Tower) (p : PlayerId) :
    Logger × List Proto.Tower :=
  let s := TowerScan.run p (st.towers p) {
    logPtr := 0
    towerPtr := 0
    towerLog := l.1.towerLogs p
    frame := l.2 }
  ({ l.1 with towerLogs := Function.update l.1.towerLogs p s.towerLog }, s.frame)

/-- What is only done on the first turn. -/
def logFirstTurn (c : Constants K) (st : State K) (l : Logger) :
    Except Fault (Logger × List Proto.Tower) := do
  let soldierMaxHp ← match st.soldiers .player1 with
    | [] => .error (.logicError "There are no soldiers. Cannot log.")
    | s :: _ => .ok (int32 s.maxHp)
  let l := { l with
    towerLogs := fun p => (st.towers p).map towerLogEntry
    logs.terrainSize := int32 st.map.size
    logs.terrainElementSize := int32 st.map.elementSize
    logs.towerRanges := c.towerRanges.map int32
    logs.towerMaxHps := c.towerHps.map int32
    logs.soldierMaxHp := soldierMaxHp
    logs.instLimitTurn := l.playerInstructionLimitTurn
    logs.instLimitGame := l.playerInstructionLimitGame }
  return (l, PlayerId.all.flatMap fun p => (st.towers p).map newTower)

/-! ## Frames -/

/-- The name of the state of a soldier, as it is logged. -/
def soldierState : SoldierState → Proto.SoldierState
  | .attack => .attack
  | .pursuit => .move
  | .move => .move
  | .idle => .idle
  | .dead _ => .dead

/-- Log a soldier. -/
def logSoldier (st : State K) (s : Soldier K) : Except Fault Proto.Soldier := do
  let (attackTargetX, attackTargetY) ← match s.attackTarget with
    | none => .ok (-1, -1)
    | some ptr => match st.deref ptr with
      | none => .error .undefined
      | some target => .ok (int32 target.position.x.toInt, int32 target.position.y.toInt)
  return {
    hp := int32 s.hp
    x := int32 s.position.x.toInt
    y := int32 s.position.y.toInt
    state := soldierState s.state
    attackTargetX, attackTargetY }

/-- What is done on all turns, once the towers are logged. -/
def logAllTurns (st : State K) (l : Logger) (towers : List Proto.Tower) : Except Fault Logger := do
  let soldiers ← (PlayerId.all.flatMap st.soldiers).mapM (logSoldier st)
  let frame : Proto.GameState := {
    soldiers, towers
    money := PlayerId.all.map st.moneyManager.playerMoney
    instructionCounts := PlayerId.all.map l.instructionCounts
    playerErrors := PlayerId.all.map fun p => (l.errors p).map int32 }
  return { l with
    logs.states := l.logs.states ++ [frame]
    instructionCounts := fun _ => 0
    errors := fun _ => [] }

/-- `LogState`. -/
def logState (c : Constants K) (l : Logger) (st : State K) : Except Fault Logger := do
  let l := { l with turnCount := l.turnCount + 1 }
  let (l, towers) ← if l.turnCount = 1 then logFirstTurn c st l
    else .ok (PlayerId.all.foldl (diffTowers st) (l, []))
  logAllTurns st l towers

end Messages

/-! ## The other methods -/

/-- `LogInstructionCount`. -/
def logInstructionCount (l : Logger) (p : PlayerId) (count : ℤ) : Logger :=
  { l with instructionCounts := Function.update l.instructionCounts p count }

/-- `LogError`. -/
def logError (l : Logger) (p : PlayerId) (errorType : ErrorType) (message : String) : Logger :=
  let fullMessage := errorType.name ++ ": " ++ message
  match l.errorMap.lookup fullMessage with
  | some errorCode => { l with errors := Function.update l.errors p (l.errors p ++ [errorCode]) }
  | none => { l with
      errorMap := l.errorMap ++ [(fullMessage, l.currentErrorCode)]
      currentErrorCode := l.currentErrorCode + 1
      errors := Function.update l.errors p (l.errors p ++ [l.currentErrorCode]) }

theorem logError_eq (l : Logger) (p : PlayerId) (errorType : ErrorType) (message : String) :
    (l.logError p errorType message).turnCount = l.turnCount ∧
      (l.logError p errorType message).logs = l.logs ∧
      (l.logError p errorType message).towerLogs = l.towerLogs ∧
      (l.logError p errorType message).instructionCounts = l.instructionCounts := by
  simp only [logError]
  split <;> exact ⟨rfl, rfl, rfl, rfl⟩

/-- `LogFinalGameParams`: the error mapping, flipped. -/
def logFinalGameParams (l : Logger) : Logger :=
  { l with
    logs.errorMap := l.errorMap.foldl
      (fun errorMap element => Function.update errorMap (int32 element.2) (some element.1))
      l.logs.errorMap }

/-- A call of the logger. -/
inductive Call (K : Type) where
  | state (st : State K)
  | instructionCount (playerId : PlayerId) (count : ℤ)
  | error (playerId : PlayerId) (errorType : ErrorType) (message : String)
  | finalGameParams

/-- Make a call. -/
def call [Field K] [LinearOrder K] [FloorRing K] (c : Constants K) (l : Logger) :
    Call K → Except Fault Logger
  | .state st => logState c l st
  | .instructionCount p count => .ok (l.logInstructionCount p count)
  | .error p errorType message => .ok (l.logError p errorType message)
  | .finalGameParams => .ok l.logFinalGameParams

/-- Make some calls. -/
def run [Field K] [LinearOrder K] [FloorRing K] (c : Constants K) (calls : List (Call K))
    (l : Logger) : Except Fault Logger :=
  calls.foldlM (call c) l

/-- The states that some calls log. -/
def loggedStates (calls : List (Call K)) : List (State K) :=
  calls.filterMap fun
    | .state st => some st
    | _ => none

end Logger

end Simulator
